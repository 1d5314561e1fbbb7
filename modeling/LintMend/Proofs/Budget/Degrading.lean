import LintMend.Proofs.Budget.Sharing

/-!
# Stores that fail

A tracker leaves its store at the first operation that fails, and goes on as a
new tracker in memory would. The failing operation is answered in memory
already, so neither what the store held nor what a failed update may have done
counts any longer. A store that is watched shows that it is never asked again.
-/

namespace LintMend

/-- A store with an account of its operations: whether each of them succeeded,
in order. -/
structure Watched (σ : Type) where
  store : σ
  outcomes : List Bool

namespace Watched

variable {σ : Type}

def watch (store : σ) : Watched σ :=
  { store, outcomes := [] }

/-- Puts the outcome of an operation on the account. -/
def noted {α : Type} (watched : Watched σ) (ended : Except StoreFault α × σ) :
    Except StoreFault α × Watched σ :=
  (ended.1,
    { store := ended.2, outcomes := watched.outcomes ++ [ended.1.isOk] })

theorem noted_cases {α : Type} (watched : Watched σ)
    (ended : Except StoreFault α × σ) :
    (∃ value next,
        watched.noted ended = (.ok value, ⟨next, watched.outcomes ++ [true]⟩)) ∨
      ∃ fault next,
        watched.noted ended = (.error fault,
            ⟨next, watched.outcomes ++ [false]⟩) := by
  obtain ⟨fault | value, next⟩ := ended
  · exact .inr ⟨fault, next, rfl⟩
  · exact .inl ⟨value, next, rfl⟩

instance [UsageStore σ] : UsageStore (Watched σ) where
  load watched := watched.noted (UsageStore.load watched.store)
  update change watched :=
    watched.noted (UsageStore.update change watched.store)
  describe watched := UsageStore.describe watched.store

end Watched

/-- A tracker that has not left its store. -/
def Tracker.online (config : UsageConfig) : Tracker where
  limit := config.limit
  window := Tracker.windowOf config.windowSeconds
  fallback := none
  warnings := []

/-- A store in memory that holds no calls and does not fail. -/
def MemoryUsage.fresh : MemoryUsage :=
  { usage := Usage.empty, loads := 0, updates := 0, failingLoads := [],
    failingUpdates := [] }

namespace Sharing

/-- One tracker that is started on a store. -/
def begin {σ : Type} [UsageStore σ] (config : UsageConfig)
    (store : σ) : Sharing Unit σ :=
  let (tracker, store) := Tracker.start config store
  { trackers := fun _ => tracker, store }

/-- The same trackers and the same store, without the account. -/
def unwatched {ι σ : Type} (system : Sharing ι (Watched σ)) : Sharing ι σ :=
  { system with store := system.store.store }

section

variable {ι σ : Type} [DecidableEq ι] [UsageStore σ]

/-! ## Watching changes nothing -/

theorem current_unwatched (tracker : Tracker) (watched : Watched σ) :
    tracker.current watched.store =
      ((tracker.current watched).1, (tracker.current watched).2.1,
        (tracker.current watched).2.2.store) := by
  cases online : tracker.fallback with
  | some usage => simp only [Tracker.current, online]
  | none =>
      rcases loaded : UsageStore.load watched.store with ⟨fault | usage, next⟩
      · simp only [Tracker.current, online, UsageStore.load,
          Watched.noted, loaded]
      · simp only [Tracker.current, online, UsageStore.load,
          Watched.noted, loaded]

theorem record_unwatched (tracker : Tracker) (provider : String) (now : Instant)
    (watched : Watched σ) :
    tracker.record provider now watched.store =
      ((tracker.record provider now watched).1,
        (tracker.record provider now watched).2.1,
        (tracker.record provider now watched).2.2.store) := by
  cases online : tracker.fallback with
  | some usage => simp only [Tracker.record, online]
  | none =>
      rcases updated : UsageStore.update
        (tracker.recordInto provider now) watched.store with
          ⟨fault | recorded, next⟩
      · simp only [Tracker.record, online, UsageStore.update,
          Watched.noted, updated]
      · simp only [Tracker.record, online, UsageStore.update,
          Watched.noted, updated]

theorem step_unwatched (system : Sharing ι (Watched σ)) (request : Request ι) :
    system.unwatched.step request =
      ((system.step request).1, (system.step request).2.unwatched) := by
  obtain ⟨tracker, errand, provider, now⟩ := request
  cases errand with
  | look =>
      simp only [step, Tracker.canProceed, Tracker.used, unwatched,
        current_unwatched]
      rfl
  | count => simp only [step, Tracker.used, unwatched, current_unwatched]
  | record =>
      simp only [step, unwatched, record_unwatched]

theorem run_unwatched (system : Sharing ι (Watched σ))
    (requests : List (Request ι)) :
    system.unwatched.run requests =
      ((system.run requests).1, (system.run requests).2.unwatched) := by
  induction requests generalizing system with
  | nil => rfl
  | cons request requests induction =>
      simp only [run, step_unwatched, induction]

/-! ## In memory and over a store -/

/-- A tracker that has left its store answers from its own record. -/
theorem step_left {system : Sharing ι σ} (request : Request ι) {usage : Usage}
    (left : (system.trackers request.tracker).fallback = some usage) :
    system.step request =
      ((request.serve system.trackers usage).1,
        { system with
          trackers := Function.update system.trackers request.tracker
            { system.trackers request.tracker with
              fallback :=
                some (request.serve system.trackers usage).2 } }) := by
  have same : { system.trackers request.tracker with fallback := some usage } =
      system.trackers request.tracker := by
    rw [← left]
  obtain ⟨tracker, errand, provider, now⟩ := request
  cases errand with
  | look =>
      simp only [step, Tracker.canProceed, Tracker.used, Tracker.current, left,
        Request.serve, same]
  | count =>
      simp only [step, Tracker.used, Tracker.current, left, Request.serve, same]
  | record =>
      simp [step, Tracker.record, Tracker.recordInMemory, left, Request.serve]

/-- A tracker over a store in memory that does not fail. -/
theorem step_memory {system : Sharing ι MemoryUsage} (request : Request ι)
    (online : (system.trackers request.tracker).fallback = none)
    (loads : system.store.failingLoads = [])
    (updates : system.store.failingUpdates = []) :
    (system.step request).1 =
      (request.serve system.trackers system.store.usage).1 ∧
      (system.step request).2.trackers = system.trackers ∧
      (system.step request).2.store.usage =
        (request.serve system.trackers system.store.usage).2 ∧
      (system.step request).2.store.failingLoads = [] ∧
      (system.step request).2.store.failingUpdates = [] := by
  have load : UsageStore.load system.store =
      (.ok system.store.usage,
        { system.store with loads := system.store.loads + 1 }) := by
    simp [UsageStore.load, MemoryUsage.load, loads]
  have update : UsageStore.update ((system.trackers request.tracker).recordInto
        request.provider request.now) system.store =
      (.ok ((system.trackers request.tracker).recordInto request.provider
          request.now system.store.usage).1,
        { system.store with
          updates := system.store.updates + 1
          usage :=
            ((system.trackers request.tracker).recordInto request.provider
              request.now
            system.store.usage).2 }) := by
    simp [UsageStore.update, MemoryUsage.update, updates]
  rw [step_of_store online load fun _ => update, serve_snd]
  by_cases kind : request.errand = .record
  · simp [kind, loads, updates]
  · simp [kind, loads, updates]

/-- A tracker that has left its store, beside one in memory that holds the same
calls. -/
structure Shadowed (system : Sharing Unit σ)
    (shadow : Sharing Unit MemoryUsage) : Prop where
  left : (system.trackers ()).fallback = some shadow.store.usage
  online : (shadow.trackers ()).fallback = none
  limit : (system.trackers ()).limit = (shadow.trackers ()).limit
  window : (system.trackers ()).window = (shadow.trackers ()).window
  loads : shadow.store.failingLoads = []
  updates : shadow.store.failingUpdates = []

theorem Shadowed.step {system : Sharing Unit σ}
    {shadow : Sharing Unit MemoryUsage} (shadowed : Shadowed system shadow)
    (request : Request Unit) :
    (system.step request).1 = (shadow.step request).1 ∧
      Shadowed (system.step request).2 (shadow.step request).2 ∧
      (system.step request).2.store = system.store ∧
      ((system.step request).2.trackers ()).warnings =
        (system.trackers ()).warnings := by
  obtain ⟨left, online, limit, window, loads, updates⟩ := shadowed
  obtain ⟨answered, trackers, usage, stillLoads, stillUpdates⟩ :=
    step_memory request online loads updates
  rw [step_left request left, answered, serve_congr limit window]
  refine ⟨rfl, ⟨?_, ?_, ?_, ?_, stillLoads, stillUpdates⟩, rfl, ?_⟩
  · simp [usage]
  · rw [trackers, online]
  · simp [trackers, limit]
  · simp [trackers, window]
  · simp

theorem Shadowed.run {system : Sharing Unit σ}
    {shadow : Sharing Unit MemoryUsage} (shadowed : Shadowed system shadow)
    (requests : List (Request Unit)) :
    (system.run requests).1 = (shadow.run requests).1 ∧
      (system.run requests).2.store = system.store ∧
      ((system.run requests).2.trackers ()).warnings =
        (system.trackers ()).warnings := by
  induction requests generalizing system shadow with
  | nil => exact ⟨rfl, rfl, rfl⟩
  | cons request requests induction =>
      obtain ⟨answered, stillShadowed, store, warnings⟩ := shadowed.step request
      obtain ⟨log, rest, restWarnings⟩ := induction stillShadowed
      simp only [Sharing.run, answered, log]
      exact ⟨trivial, rest.trans store, restWarnings.trans warnings⟩

end

/-! ## The failure -/

section

variable {σ : Type} [UsageStore σ]

/-- A record that cannot be loaded is the empty one in memory. -/
theorem current_of_failed {tracker : Tracker} {store next : σ}
    {fault : StoreFault} (online : tracker.fallback = none)
    (failed : UsageStore.load store = (.error fault, next)) :
    tracker.current store = (tracker.degrade fault).current next := by
  simp [Tracker.current, online, failed, Tracker.degrade]

/-- A call that cannot be recorded in the store is recorded in memory. -/
theorem record_of_failed {tracker : Tracker} {store next : σ}
    {fault : StoreFault} {provider : String} {now : Instant}
    (online : tracker.fallback = none)
    (failed : UsageStore.update (tracker.recordInto provider now) store =
      (.error fault, next)) :
    tracker.record provider now store =
      (tracker.degrade fault).record provider now next := by
  simp [Tracker.record, online, failed, Tracker.degrade]

/-- Where a tracker goes on that leaves its store for a fault. -/
def abandoned (system : Sharing Unit σ) (fault : StoreFault)
    (store : σ) : Sharing Unit σ :=
  { trackers := fun i => (system.trackers i).degrade fault, store }

omit [UsageStore σ] in
theorem abandoned_shadowed (system : Sharing Unit σ)
    {shadow : Sharing Unit MemoryUsage}
    (online : (system.trackers ()).fallback = none)
    (same : shadow.trackers = system.trackers)
    (empty : shadow.store = { MemoryUsage.fresh with loads := 1 })
    (fault : StoreFault) (store : σ) :
    Shadowed (system.abandoned fault store) shadow where
  left := by simp [abandoned, Tracker.degrade, online, empty, MemoryUsage.fresh]
  online := by rw [same, online]
  limit := by rw [same]; rfl
  window := by rw [same]; rfl
  loads := by rw [empty]; rfl
  updates := by rw [empty]; rfl

omit [UsageStore σ] in
theorem update_unit (trackers : Unit → Tracker) (tracker : Tracker) :
    Function.update trackers () tracker = fun _ => tracker := by
  funext i
  rw [Function.update_self]

/-- An operation of the store succeeds, and the tracker stays as it is, or it
fails, and the request is served as if the store had been left before. -/
theorem step_online {system : Sharing Unit (Watched σ)}
    (online : (system.trackers ()).fallback = none) (request : Request Unit) :
    (∃ store, (system.step request).2 =
        { system with store := ⟨store, system.store.outcomes ++ [true]⟩ }) ∨
      ∃ fault store, system.step request =
        (system.abandoned fault ⟨store, system.store.outcomes ++ [false]⟩).step
          request := by
  obtain ⟨⟨⟩, errand, provider, now⟩ := request
  have loaded := system.store.noted_cases (UsageStore.load system.store.store)
  have updated := system.store.noted_cases (UsageStore.update
    ((system.trackers ()).recordInto provider now) system.store.store)
  cases errand with
  | look =>
      rcases loaded with ⟨usage, next, succeeded⟩ | ⟨fault, next, failed⟩
      · refine .inl ⟨next, ?_⟩
        simp [step, Tracker.canProceed, Tracker.used, Tracker.current, online,
          UsageStore.load, succeeded]
      · refine .inr ⟨fault, next, ?_⟩
        simp only [step, Tracker.canProceed, Tracker.used, abandoned,
          update_unit, current_of_failed online failed]
        rfl
  | count =>
      rcases loaded with ⟨usage, next, succeeded⟩ | ⟨fault, next, failed⟩
      · refine .inl ⟨next, ?_⟩
        simp [step, Tracker.used, Tracker.current, online, UsageStore.load,
          succeeded]
      · refine .inr ⟨fault, next, ?_⟩
        simp only [step, Tracker.used, abandoned, update_unit,
          current_of_failed online failed]
  | record =>
      rcases updated with ⟨recorded, next, succeeded⟩ | ⟨fault, next, failed⟩
      · refine .inl ⟨next, ?_⟩
        simp [step, Tracker.record, online, UsageStore.update, succeeded]
      · refine .inr ⟨fault, next, ?_⟩
        simp only [step, abandoned, update_unit, record_of_failed online failed]

/-- No operation of the store has failed. -/
structure Faultless (requests : List (Request Unit))
    (ended : Sharing Unit (Watched σ)) :
    Prop where
  outcomes : ended.store.outcomes = List.replicate (requests.length + 1) true
  warnings : (ended.trackers ()).warnings = []

/-- The store has failed, and the later requests are answered in memory. -/
structure Deserted (config : UsageConfig) (store : σ)
    (earlier later : List (Request Unit)) (log : Log Unit)
    (ended : Sharing Unit (Watched σ)) : Prop where
  /-- The last operation is the one that failed, at the start or for the first
  of the later requests. -/
  outcomes : (earlier = [] ∧ ended.store.outcomes = [false]) ∨
    (later ≠ [] ∧
      ended.store.outcomes = List.replicate
        (earlier.length + 1) true ++ [false])
  answers : log =
    ((begin config store).run earlier).1 ++
    ((begin config MemoryUsage.fresh).run later).1
  warnings : ∃ fault : StoreFault, (ended.trackers ()).warnings =
    [fault.message ++ "; tracking AI usage in memory for this run"]

theorem run_online (system : Sharing Unit (Watched σ))
    (shadow : Sharing Unit MemoryUsage)
    (online : (system.trackers ()).fallback = none)
    (same : shadow.trackers = system.trackers)
    (empty : shadow.store = { MemoryUsage.fresh with loads := 1 })
    (requests : List (Request Unit)) :
    ((system.run requests).2.trackers = system.trackers ∧
        (system.run requests).2.store.outcomes =
          system.store.outcomes ++ List.replicate requests.length true) ∨
      ∃ earlier later fault, requests = earlier ++ later ∧ later ≠ [] ∧
        (system.run requests).1 = (system.run earlier).1 ++
          (shadow.run later).1 ∧
        (system.run requests).2.store.outcomes =
          system.store.outcomes ++ List.replicate earlier.length
            true ++ [false] ∧
        ((system.run requests).2.trackers ()).warnings =
          ((system.trackers ()).degrade fault).warnings := by
  induction requests generalizing system with
  | nil => exact .inl ⟨rfl, by simp [run]⟩
  | cons request requests induction =>
      rcases step_online online request with
        ⟨store, moved⟩ | ⟨fault, store, moved⟩
      · have next := induction (system.step request).2 (by rw [moved, online])
          (by rw [moved, same])
        rw [moved] at next
        rcases next with ⟨trackers, outcomes⟩ |
            ⟨earlier, later, fault, split, some, answers, outcomes, warnings⟩
        · left
          simp [run, moved, trackers, outcomes, List.replicate_succ]
        · right
          refine ⟨request :: earlier, later, fault, by
            rw [split]; rfl, some, ?_, ?_, ?_⟩
          · simp [run, moved, answers]
          · simp [run, moved, outcomes, List.replicate_succ]
          · simp only [run, moved, warnings]
      · have shadowed := abandoned_shadowed system online same empty fault
          ⟨store, system.store.outcomes ++ [false]⟩
        obtain ⟨answers, kept, warnings⟩ := shadowed.run (request :: requests)
        have whole : system.run (request :: requests) =
            (system.abandoned fault ⟨store,
              system.store.outcomes ++ [false]⟩).run
              (request :: requests) := by
          simp only [run, moved]
        right
        refine ⟨[], request :: requests, fault, rfl, List.cons_ne_nil _ _,
          ?_, ?_, ?_⟩
        · rw [whole, answers]
          rfl
        · rw [whole, kept]
          simp [abandoned]
        · rw [whole, warnings]
          rfl

theorem begin_memory (config : UsageConfig) :
    begin config MemoryUsage.fresh =
      { trackers := fun _ => Tracker.online config
        store := { MemoryUsage.fresh with loads := 1 } } :=
  rfl

theorem begin_watched (config : UsageConfig) (store : σ) :
    (∃ next, begin config (Watched.watch store) =
        { trackers := fun _ => Tracker.online config,
          store := ⟨next, [true]⟩ }) ∨
      ∃ fault next, begin config (Watched.watch store) =
        abandoned
          { trackers := fun _ => Tracker.online config,
            store := ⟨next, []⟩ } fault
          ⟨next, [false]⟩ := by
  rcases (Watched.watch store).noted_cases (UsageStore.load store) with
    ⟨usage, next, succeeded⟩ | ⟨fault, next, failed⟩
  · refine .inl ⟨next, ?_⟩
    simp only [begin, Tracker.start, UsageStore.load, Watched.watch]
      at succeeded ⊢
    simp [succeeded, Tracker.online]
  · refine .inr ⟨fault, next, ?_⟩
    simp only [begin, Tracker.start, UsageStore.load, Watched.watch] at failed ⊢
    simp [failed, Tracker.online, abandoned]

@[simp]
theorem begin_unwatched (config : UsageConfig) (store : σ) :
    (begin config (Watched.watch store)).unwatched = begin config store := by
  rcases loaded : UsageStore.load store with ⟨fault | usage, next⟩
  · simp only [begin, Tracker.start, UsageStore.load, Watched.noted,
      Watched.watch, loaded, unwatched]
  · simp only [begin, Tracker.start, UsageStore.load, Watched.noted,
      Watched.watch, loaded, unwatched]

/-- A tracker leaves its store for good at the first failure, and its answers
from there on, that to the request in hand among them, are those of a new
tracker in memory. -/
theorem failure_leads_into_memory (config : UsageConfig) (store : σ)
    (requests : List (Request Unit)) :
    ∃ log, ∃ ended : Sharing Unit (Watched σ),
      (begin config (Watched.watch store)).run requests = (log, ended) ∧
      (begin config store).run requests = (log, ended.unwatched) ∧
      (Faultless requests ended ∨
        ∃ earlier later, requests = earlier ++ later ∧
          Deserted config store earlier later log ended) := by
  have watched (some : List (Request Unit)) : (begin config store).run some =
      (((begin config (Watched.watch store)).run some).1,
        ((begin config (Watched.watch store)).run some).2.unwatched) := by
    rw [← begin_unwatched, run_unwatched]
  refine ⟨_, _, rfl, watched requests, ?_⟩
  rcases begin_watched config store with ⟨next, begun⟩ | ⟨fault, next, begun⟩
  · rcases run_online (begin config (Watched.watch store))
      (begin config MemoryUsage.fresh)
      (by rw [begun]; rfl) (by rw [begun, begin_memory]) rfl requests with
      ⟨trackers, outcomes⟩ |
      ⟨earlier, later, fault, split, some, answers, outcomes, warnings⟩
    · refine .inl ⟨?_, ?_⟩
      · rw [outcomes, begun, List.replicate_succ]
        rfl
      · rw [trackers, begun]
        rfl
    · refine .inr ⟨earlier, later, split, .inr ⟨some, ?_⟩, ?_, fault, ?_⟩
      · rw [outcomes, begun, List.replicate_succ]
        rfl
      · rw [answers, watched earlier]
      · rw [warnings, begun]
        rfl
  · have shadowed : Shadowed (begin config (Watched.watch store))
        (begin config MemoryUsage.fresh) := by
      rw [begun, begin_memory]
      apply abandoned_shadowed <;> rfl
    obtain ⟨answers, kept, warnings⟩ := shadowed.run requests
    refine .inr ⟨[], requests, rfl, .inl ⟨rfl, ?_⟩, ?_, fault, ?_⟩
    · rw [kept, begun]
      rfl
    · rw [answers]
      rfl
    · rw [warnings, begun]
      rfl

end

end Sharing

end LintMend
