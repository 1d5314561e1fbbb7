import LintMend.Proofs.Budget.Degrading
import LintMend.Proofs.Budget.Filing

/-!
# The store in a file and the store in memory

Trackers that share a file cannot tell it from a store in memory that holds the
same usage, and after every step the file holds exactly the usage that memory
does. Trackers may be started at any time.
-/

namespace LintMend.Sharing

inductive Event (ι : Type)
  | start (tracker : ι) (config : UsageConfig)
  | ask (request : Request ι)

section

variable {ι σ : Type} [DecidableEq ι] [UsageStore σ]

/-- A tracker is started, or does what it is asked for and answers. -/
def Event.happen : Event ι → Sharing ι σ → Option Answer × Sharing ι σ
  | start i config, system =>
    let (tracker, store) := Tracker.start config system.store
    (none, { trackers := Function.update system.trackers i tracker, store })
  | ask request, system =>
    let (answer, system) := system.step request
    (some answer, system)

def live : List (Event ι) → Sharing ι σ → List (Option Answer) × Sharing ι σ
  | [], system => ([], system)
  | event :: events, system =>
    let first := event.happen system
    let rest := live events first.2
    (first.1 :: rest.1, rest.2)

end

variable {ι : Type} {path : Path} {filed : Sharing ι UsageDisk}
  {shared : Sharing ι MemoryUsage}

/-- The same trackers over a file and over a store in memory that hold the same
usage. -/
structure Mirrored (path : Path) (filed : Sharing ι UsageDisk)
    (shared : Sharing ι MemoryUsage) :
    Prop where
  trackers : filed.trackers = shared.trackers
  online : ∀ i, (shared.trackers i).fallback = none
  here : filed.store.path = path
  keeps : UsageFile.Keeps path shared.store.usage filed.store.disk
  loads : shared.store.failingLoads = []
  updates : shared.store.failingUpdates = []

theorem Mirrored.load_file (mirrored : Mirrored path filed shared) :
    UsageStore.load filed.store = (.ok shared.store.usage, filed.store) := by
  simp only [UsageStore.load, mirrored.here, mirrored.keeps.reads]

theorem Mirrored.load_memory (mirrored : Mirrored path filed shared) :
    UsageStore.load shared.store =
      (.ok shared.store.usage,
        { shared.store with loads := shared.store.loads + 1 }) := by
  simp [UsageStore.load, MemoryUsage.load, mirrored.loads]

variable [DecidableEq ι]

theorem online_update {trackers : ι → Tracker}
    (online : ∀ i, (trackers i).fallback = none) (i : ι) {tracker : Tracker}
    (started : tracker.fallback = none) (j : ι) :
    (Function.update trackers i tracker j).fallback = none := by
  by_cases same : j = i
  · subst same
    rw [Function.update_self, started]
  · rw [Function.update_of_ne same, online j]

theorem Mirrored.start (mirrored : Mirrored path filed shared) (i : ι)
    (config : UsageConfig) :
    Mirrored path (Event.happen (.start i config) filed).2
      (Event.happen (.start i config) shared).2 := by
  simp only [Event.happen, Tracker.start, mirrored.load_file,
    mirrored.load_memory]
  exact ⟨by rw [mirrored.trackers], online_update mirrored.online i rfl,
    mirrored.here, mirrored.keeps, mirrored.loads, mirrored.updates⟩

theorem Mirrored.step (mirrored : Mirrored path filed shared)
    {request : Request ι}
    (valid : request.errand = .record → request.now.Valid) :
    (filed.step request).1 = (shared.step request).1 ∧
      Mirrored path (filed.step request).2 (shared.step request).2 := by
  obtain ⟨answered, trackers, usage, loads, updates⟩ :=
    step_memory request (mirrored.online request.tracker) mirrored.loads
      mirrored.updates
  have online : (filed.trackers request.tracker).fallback = none := by
    rw [mirrored.trackers]
    exact mirrored.online request.tracker
  rw [answered, ← mirrored.trackers]
  by_cases kind : request.errand = .record
  · have held := mirrored.keeps
    rw [← mirrored.here] at held
    obtain ⟨written, update, keeps⟩ :=
      held.record (filed.trackers request.tracker) request.provider (valid kind)
    rw [mirrored.here] at keeps
    rw [step_of_store online mirrored.load_file fun _ => update, if_pos kind]
    refine ⟨rfl, by rw [trackers, mirrored.trackers], ?_, mirrored.here, ?_,
      loads, updates⟩
    · rw [trackers]
      exact mirrored.online
    · rw [usage, ← mirrored.trackers, serve_snd, if_pos kind]
      exact keeps
  · rw [@step_of_store _ _ _ _ _ _ _ filed.store filed.store online
      mirrored.load_file fun record => absurd record kind, if_neg kind]
    refine ⟨rfl, by rw [trackers, mirrored.trackers], ?_, mirrored.here, ?_,
      loads, updates⟩
    · rw [trackers]
      exact mirrored.online
    · rw [usage, ← mirrored.trackers, serve_snd, if_neg kind]
      exact mirrored.keeps

theorem Mirrored.live (mirrored : Mirrored path filed shared)
    {events : List (Event ι)}
    (valid : ∀ request, .ask request ∈ events → request.errand = .record →
      request.now.Valid) :
    (filed.live events).1 = (shared.live events).1 ∧
      Mirrored path (filed.live events).2 (shared.live events).2 := by
  induction events generalizing filed shared with
  | nil => exact ⟨rfl, mirrored⟩
  | cons event events induction =>
      have first : (event.happen filed).1 = (event.happen shared).1 ∧
          Mirrored path (event.happen filed).2 (event.happen shared).2 := by
        cases event with
        | start i config => exact ⟨rfl, mirrored.start i config⟩
        | ask request =>
            obtain ⟨answered, moved⟩ :=
              mirrored.step (valid request List.mem_cons_self)
            exact ⟨congrArg some answered, moved⟩
      obtain ⟨answered, moved⟩ := first
      obtain ⟨rest, reached⟩ := induction moved fun request member =>
        valid request (List.mem_cons_of_mem _ member)
      simp only [Sharing.live, answered, rest]
      exact ⟨trivial, reached⟩

/-- Over a file that gives back a usage and can be locked and replaced, trackers
that are started and asked in any order do what they do over a store in memory
that holds the usage. The file holds what memory does then, and so it does after
every step, because the steps so far are events in some order too. -/
theorem file_mirrors_memory {disk locked written : Disk} {usage : Usage}
    (rooted : disk.Rooted) (read : UsageFile.read path disk = .ok usage)
    (lock : UsageFile.lock path disk = .ok locked)
    (replace : locked.replace path [] = .ok written) {trackers : ι → Tracker}
    (online : ∀ i, (trackers i).fallback = none) {events : List (Event ι)}
    (valid : ∀ request, .ask request ∈ events → request.errand = .record →
      request.now.Valid) :
    let filed := live events { trackers, store := ({ disk, path } : UsageDisk) }
    let shared :=
      live events { trackers, store := { MemoryUsage.fresh with usage } }
    filed.1 = shared.1 ∧ filed.2.trackers = shared.2.trackers ∧
      UsageFile.read path filed.2.store.disk = .ok shared.2.store.usage := by
  have mirrored :
      Mirrored path { trackers, store := ({ disk, path } : UsageDisk) }
      { trackers, store := { MemoryUsage.fresh with usage } } :=
    ⟨rfl, online, rfl, .of_read rooted read lock replace, rfl, rfl⟩
  obtain ⟨answered, reached⟩ := mirrored.live valid
  exact ⟨answered, reached.trackers, reached.keeps.reads⟩

/-- A tracker that is there and one that is started share a file that is missing
at first. -/
theorem two_mirrored_from_nothing :
    let trackers : Bool → Tracker :=
      fun _ => .online { limit := 2, windowSeconds := 60 }
    let now : Instant := { second := 1714557630, nano := 5 }
    let events : List (Event Bool) :=
      [.ask ⟨true, .record, "ai \"one\"", now⟩,
        .start false { limit := 1, windowSeconds := 90 },
        .ask ⟨false, .record, "ai \"one\"", now⟩]
    let store : UsageDisk := { disk := Disk.empty, path := ⟨"usage.json"⟩ }
    let filed := live events { trackers, store }
    let shared := live events { trackers, store := MemoryUsage.fresh }
    filed.1 = shared.1 ∧ filed.2.trackers = shared.2.trackers ∧
      UsageFile.read ⟨"usage.json"⟩ filed.2.store.disk =
        .ok shared.2.store.usage := by
  have may (name : String) (located : Disk.empty.locate ⟨name⟩ = .ok [name])
      (isFile : Disk.wantsDirectory ⟨name⟩ = false) :
      Disk.empty.MayWrite ⟨name⟩ [name] :=
    ⟨located, fun ⟨_, found⟩ => (by cases found), isFile⟩
  have touched := Disk.touch_eq_ok_iff.mpr
    ⟨_, may "usage.json.lock" rfl (by decide +kernel), rfl⟩
  have replaces : Disk.empty.MayReplace ⟨"usage.json"⟩ ["usage.json"] :=
    ⟨may "usage.json" rfl (by decide +kernel), "usage.json", _, rfl,
      may ".usage.json.lintpilot-1-0" rfl (by decide +kernel)⟩
  obtain ⟨_, written, replaced, -⟩ := Disk.replaceBytes_of_mayReplace
    (replaces.of_same (Disk.touch_spec touched).1) []
  refine file_mirrors_memory ?_
    (UsageFile.read_of_nothing replaces.target (.inl rfl))
    (UsageFile.lock_eq_ok_iff.mpr ⟨Disk.empty, rfl, touched⟩) replaced
    (fun _ => rfl) ?_
  · intro place node found
    cases place with
    | nil => exact Disk.hasDirectory_root _
    | cons name names => cases found
  · have valid : Instant.Valid { second := 1714557630, nano := 5 } :=
      ⟨by decide +kernel, by decide, by decide⟩
    simp only [List.mem_cons, List.not_mem_nil, Event.ask.injEq, reduceCtorEq,
      or_false, false_or]
    rintro request (rfl | rfl) - <;> exact valid

end LintMend.Sharing
