import LintMend.Proofs.Budget.Stores

/-!
# Trackers that share a store

Several trackers, each with its own limit and window, put their requests to one
store in any order. As long as the store works, a run of requests is a run over
the usage that the store holds, and no tracker ever leaves the store.
-/

namespace LintMend

/-- Trackers and the store they share. -/
structure Sharing (ι σ : Type) where
  trackers : ι → Tracker
  store : σ

namespace Sharing

inductive Errand
  | look
  | count
  | record
  deriving DecidableEq

/-- What one of the trackers is asked to do for a provider. -/
structure Request (ι : Type) where
  tracker : ι
  errand : Errand
  provider : String
  now : Instant

inductive Answer
  | free (room : Bool)
  | used (calls : Nat)
  | recorded (granted : Bool)
  deriving DecidableEq

/-- Requests in their order, each with its answer. -/
abbrev Log (ι : Type) := List (Request ι × Answer)

/-- The calls to a provider that were granted. -/
def granted {ι : Type} (provider : String) (log : Log ι) : List Instant :=
  log.filterMap fun (request, answer) =>
    if request.provider = provider ∧ answer = .recorded true then
      some request.now
    else none

/-- Calls are recorded at instants of the calendar, none before an earlier
one. -/
structure Orderly {ι : Type} (requests : List (Request ι)) : Prop where
  valid : ∀ request ∈ requests, request.errand = .record → request.now.Valid
  ordered : requests.Pairwise fun earlier later =>
    earlier.errand = .record → later.errand = .record →
      earlier.now.le later.now = true

theorem Orderly.left {ι : Type} {front behind : List (Request ι)}
    (orderly : Orderly (front ++ behind)) : Orderly front where
  valid request member := orderly.valid request (List.mem_append_left _ member)
  ordered := (List.pairwise_append.mp orderly.ordered).1

/-- Calls are recorded at instants of a clock, none before an earlier one. -/
structure Timely {ι : Type} (requests : List (Request ι)) : Prop where
  shown : ∀ request ∈ requests, request.errand = .record → request.now.OnClock
  ordered : requests.Pairwise fun earlier later =>
    earlier.errand = .record → later.errand = .record →
      earlier.now.le later.now = true

section

variable {ι σ : Type} [DecidableEq ι] [UsageStore σ]

def step (request : Request ι) (system : Sharing ι σ) : Answer × Sharing ι σ :=
  let tracker := system.trackers request.tracker
  let reach (moved : Tracker × σ) : Sharing ι σ :=
    { trackers := Function.update system.trackers request.tracker moved.1,
      store := moved.2 }
  match request.errand with
  | .look =>
    let (room, moved) :=
      tracker.canProceed request.provider request.now system.store
    (.free room, reach moved)
  | .count =>
    let (calls, moved) := tracker.used request.provider request.now system.store
    (.used calls, reach moved)
  | .record =>
    let (recorded, moved) :=
      tracker.record request.provider request.now system.store
    (.recorded recorded, reach moved)

def run : List (Request ι) → Sharing ι σ → Log ι × Sharing ι σ
  | [], system => ([], system)
  | request :: requests, system =>
    let first := system.step request
    let rest := first.2.run requests
    ((request, first.1) :: rest.1, rest.2)

end

/-! ## Over the usage alone -/

section

variable {ι : Type}

/-- What a request comes to over a usage. -/
def Request.serve (trackers : ι → Tracker) (request : Request ι)
    (usage : Usage) :
    Answer × Usage :=
  let tracker := trackers request.tracker
  let calls := tracker.countInWindow request.now (usage.calls request.provider)
  match request.errand with
  | .look => (.free (decide (calls < tracker.limit)), usage)
  | .count => (.used calls, usage)
  | .record =>
    let (recorded, usage) :=
      tracker.recordInto request.provider request.now usage
    (.recorded recorded, usage)

def serveAll (trackers : ι → Tracker) : List (Request ι) → Usage → Log ι × Usage
  | [], usage => ([], usage)
  | request :: requests, usage =>
    let first := request.serve trackers usage
    let rest := serveAll trackers requests first.2
    ((request, first.1) :: rest.1, rest.2)

theorem serve_congr {first second : ι → Tracker} {request : Request ι}
    (limit : (first request.tracker).limit = (second request.tracker).limit)
    (window : (first request.tracker).window =
      (second request.tracker).window) :
    request.serve first = request.serve second := by
  funext usage
  simp only [Request.serve, limit, Tracker.countInWindow_congr window,
    Tracker.recordInto_congr limit window]

theorem serve_snd (trackers : ι → Tracker) (request : Request ι)
    (usage : Usage) :
    (request.serve trackers usage).2 =
      if request.errand = .record then
        ((trackers request.tracker).recordInto request.provider
          request.now usage).2
      else usage := by
  cases kind : request.errand <;> simp [Request.serve, kind]

theorem granted_cons (provider : String) (entry : Request ι × Answer)
    (log : Log ι) :
    granted provider (entry :: log) =
      granted provider [entry] ++ granted provider log := by
  rw [granted, granted, granted, ← List.filterMap_append, List.singleton_append]

theorem mem_granted {provider : String} {log : Log ι} {call : Instant} :
    call ∈ granted provider log ↔
      ∃ request, (request, Answer.recorded true) ∈ log ∧
      request.provider = provider ∧
        request.now = call := by
  simp only [granted, List.mem_filterMap, Option.ite_none_right_eq_some,
    Option.some.injEq]
  constructor
  · rintro ⟨⟨request, answer⟩, member, ⟨here, rfl⟩, instant⟩
    exact ⟨request, member, here, instant⟩
  · rintro ⟨request, member, here, instant⟩
    exact ⟨(request, .recorded true), member, ⟨here, rfl⟩, instant⟩

theorem serve_granted {trackers : ι → Tracker} {request : Request ι}
    {usage : Usage}
    (granted : (request.serve trackers usage).1 = .recorded true) :
    request.errand = .record := by
  cases kind : request.errand with
  | record => rfl
  | look => simp [Request.serve, kind] at granted
  | count => simp [Request.serve, kind] at granted

theorem mem_serveAll {trackers : ι → Tracker} {requests : List (Request ι)}
    {usage : Usage} {request : Request ι} {answer : Answer}
    (member : (request, answer) ∈ (serveAll trackers requests usage).1) :
    request ∈ requests ∧
    (answer = .recorded true → request.errand = .record) := by
  induction requests generalizing usage with
  | nil => cases member
  | cons first requests induction =>
      rcases List.mem_cons.mp member with here | later
      · cases here
        exact ⟨List.mem_cons_self, fun granted => serve_granted granted⟩
      · obtain ⟨found, records⟩ := induction later
        exact ⟨List.mem_cons_of_mem _ found, records⟩

theorem serve_calls_other {trackers : ι → Tracker} {request : Request ι}
    {provider : String}
    (apart : ¬ (request.errand = .record ∧ request.provider = provider))
    (usage : Usage) :
    (request.serve trackers usage).2.calls provider = usage.calls provider := by
  cases kind : request.errand with
  | record =>
      have different : provider ≠ request.provider :=
        fun same => apart ⟨kind, same.symm⟩
      simp only [Request.serve, kind]
      exact Tracker.recordInto_calls_other _ different _ _
  | look => simp [Request.serve, kind]
  | count => simp [Request.serve, kind]

/-- How often an instant is kept after a record: the window of the tracker that
records decides what is left of it. -/
theorem serve_count {trackers : ι → Tracker} {request : Request ι}
    (kind : request.errand = .record) (usage : Usage) (call : Instant) :
    ((request.serve trackers usage).2.calls request.provider).count call =
      (if (trackers request.tracker).inWindow request.now call = true then
        (usage.calls request.provider).count call else 0) +
        (granted request.provider
          [(request, (request.serve trackers usage).1)]).count
          call := by
  simp only [Request.serve, kind, Tracker.recordInto_count, granted]
  by_cases recorded :
    ((trackers request.tracker).recordInto request.provider request.now
    usage).1 = true
  · by_cases here : call = request.now
    · simp [recorded, here]
    · simp [recorded, here, Ne.symm here]
  · simp [recorded]

theorem granted_apart {request : Request ι} {provider : String} {usage : Usage}
    {trackers : ι → Tracker}
    (apart : ¬ (request.errand = .record ∧ request.provider = provider)) :
    granted provider [(request, (request.serve trackers usage).1)] = [] := by
  rw [List.eq_nil_iff_forall_not_mem]
  intro call member
  obtain ⟨other, found, here, -⟩ := mem_granted.mp member
  obtain ⟨rfl, answered⟩ := Prod.mk.inj (List.mem_singleton.mp found)
  exact apart ⟨serve_granted answered.symm, here⟩

end

/-- The trackers are in touch with their store, which holds the usage. -/
structure Connected {ι σ : Type} [UsageStore σ] (working : UsageStore.Working σ)
    (trackers : ι → Tracker) (usage : Usage) (system : Sharing ι σ) : Prop where
  untouched : system.trackers = trackers
  online : ∀ i, (trackers i).fallback = none
  held : working.holds system.store usage

section

variable {ι σ : Type} [DecidableEq ι] [UsageStore σ]
  {working : UsageStore.Working σ} {trackers : ι → Tracker} {usage : Usage}
  {system : Sharing ι σ}

/-- A request to a tracker in touch with a store that gives back a usage, and
takes a change of it where the request makes one. -/
theorem step_of_store {request : Request ι} {loaded updated : σ}
    (online : (system.trackers request.tracker).fallback = none)
    (load : UsageStore.load system.store = (.ok usage, loaded))
    (update : request.errand = .record →
      UsageStore.update
        ((system.trackers request.tracker).recordInto request.provider
          request.now) system.store =
        (.ok ((system.trackers request.tracker).recordInto request.provider
            request.now usage).1,
          updated)) :
    system.step request =
      ((request.serve system.trackers usage).1,
        { system with
          store := if request.errand = .record then updated else loaded }) := by
  obtain ⟨tracker, errand, provider, now⟩ := request
  cases errand with
  | look =>
      simp [Sharing.step, Tracker.canProceed, Tracker.used, Tracker.current,
        online, load, Request.serve]
  | count =>
      simp [Sharing.step, Tracker.used, Tracker.current, online, load,
        Request.serve]
  | record =>
      simp [Sharing.step, Tracker.record, online, update rfl, Request.serve]

theorem Connected.step (connected : Connected working trackers usage system)
    {request : Request ι}
    (valid : request.errand = .record → request.now.Valid) :
    (system.step request).1 = (request.serve trackers usage).1 ∧
      Connected working trackers (request.serve trackers usage).2
        (system.step request).2 := by
  obtain ⟨rfl, online, held⟩ := connected
  obtain ⟨loaded, load, stillHeld⟩ := working.load held
  rw [serve_snd]
  by_cases kind : request.errand = .record
  · obtain ⟨updated, update, nowHeld⟩ := working.record
      (system.trackers request.tracker) request.provider held (valid kind)
    rw [step_of_store (online request.tracker) load fun _ => update,
      if_pos kind, if_pos kind]
    exact ⟨rfl, rfl, online, nowHeld⟩
  · rw [@step_of_store _ _ _ _ _ _ _ loaded loaded (online request.tracker)
      load fun record => absurd record kind, if_neg kind, if_neg kind]
    exact ⟨rfl, rfl, online, stillHeld⟩

/-- Over a store that works, requests are answered as over the usage it
holds. -/
theorem Connected.run (connected : Connected working trackers usage system)
    {requests : List (Request ι)}
    (valid : ∀ request ∈ requests, request.errand = .record →
      request.now.Valid) :
    (system.run requests).1 = (serveAll trackers requests usage).1 ∧
      Connected working trackers (serveAll trackers requests usage).2
        (system.run requests).2 := by
  induction requests generalizing system usage with
  | nil => exact ⟨rfl, connected⟩
  | cons request requests induction =>
      obtain ⟨answered, moved⟩ :=
        connected.step (valid request List.mem_cons_self)
      obtain ⟨logged, reached⟩ :=
        induction moved fun other member =>
          valid other (List.mem_cons_of_mem _ member)
      simp only [Sharing.run, serveAll, answered, logged]
      exact ⟨trivial, reached⟩

end

end Sharing

end LintMend
