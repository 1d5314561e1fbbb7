import Mathlib
import LintMend.Proofs.Budget.Sharing

/-!
# Calls that are forgotten

A record drops what lies outside the window of the tracker that makes it,
whatever the windows of the other trackers. So a call is kept until a tracker
makes a record of the same provider for which the call is too old, and it is
forgotten by all of them then.
-/

namespace LintMend.Sharing

variable {ι : Type}

/-- A record of the provider for which the call is too old. -/
def Drops (trackers : ι → Tracker) (provider : String) (call : Instant)
    (request : Request ι) : Prop :=
  request.errand = .record ∧ request.provider = provider ∧
    (trackers request.tracker).window ≤ request.now.nanos - call.nanos

instance (trackers : ι → Tracker) (provider : String) (call : Instant) :
    DecidablePred (Drops trackers provider call) :=
  fun request => inferInstanceAs (Decidable (request.errand = .record ∧ _ ∧ _))

private theorem granted_count_eq_zero {trackers : ι → Tracker}
    {requests : List (Request ι)} {usage : Usage} {call : Instant}
    (past : ∀ request ∈ requests, request.errand = .record →
      call.nanos < request.now.nanos) (provider : String) :
    (granted provider (serveAll trackers requests usage).1).count call = 0 := by
  rw [List.count_eq_zero]
  intro member
  obtain ⟨request, found, -, rfl⟩ := mem_granted.mp member
  obtain ⟨asked, records⟩ := mem_serveAll found
  exact Int.lt_irrefl _ (past request asked (records rfl))

section

variable {trackers : ι → Tracker} {provider : String} {call : Instant}

private theorem serve_count_of_drops {request : Request ι}
    (positive : 0 < (trackers request.tracker).window)
    (callShown : call.OnClock) (shown : request.now.OnClock)
    (drops : Drops trackers provider call request) (usage : Usage) :
    ((request.serve trackers usage).2.calls provider).count call = 0 := by
  obtain ⟨kind, rfl, old⟩ := drops
  have outside : ¬ (trackers request.tracker).inWindow request.now call =
      true := by
    rw [Tracker.inWindow_iff shown callShown]
    omega
  rw [serve_count kind, if_neg outside, Nat.zero_add, List.count_eq_zero]
  intro member
  obtain ⟨other, found, -, same⟩ := mem_granted.mp member
  obtain ⟨rfl, -⟩ := Prod.mk.inj (List.mem_singleton.mp found)
  rw [same] at old
  omega

private theorem serve_count_of_not_drops {request : Request ι}
    (callShown : call.OnClock)
    (shown : request.errand = .record → request.now.OnClock)
    (keeps : ¬ Drops trackers provider call request) (usage : Usage) :
    ((request.serve trackers usage).2.calls provider).count call =
      (usage.calls provider).count call +
        (granted provider [(request, (request.serve trackers usage).1)]).count
          call := by
  by_cases here : request.errand = .record ∧ request.provider = provider
  · obtain ⟨kind, rfl⟩ := here
    have inside : (trackers request.tracker).inWindow request.now call =
        true := by
      rw [Tracker.inWindow_iff (shown kind) callShown]
      exact Int.not_le.mp fun old => keeps ⟨kind, rfl, old⟩
    rw [serve_count kind, if_pos inside]
  · rw [serve_calls_other here, granted_apart here]
    rfl

theorem serveAll_count (positive : ∀ i, 0 < (trackers i).window)
    (callShown : call.OnClock) {requests : List (Request ι)}
    (timely : Timely requests)
    (since : ∀ request ∈ requests, request.errand = .record →
      call.nanos ≤ request.now.nanos) (usage : Usage) :
    ((serveAll trackers requests usage).2.calls provider).count call =
      if ∃ request ∈ requests, Drops trackers provider call request then 0
      else (usage.calls provider).count call +
        (granted provider (serveAll trackers requests usage).1).count call := by
  induction requests generalizing usage with
  | nil => simp [serveAll, granted]
  | cons request requests induction =>
      have shown := timely.shown request List.mem_cons_self
      obtain ⟨first, rest⟩ := List.pairwise_cons.mp timely.ordered
      have reached := induction
        ⟨fun other member =>
          timely.shown other (List.mem_cons_of_mem _ member), rest⟩
        (fun other member => since other (List.mem_cons_of_mem _ member))
        (request.serve trackers usage).2
      rw [serveAll, granted_cons, List.count_append]
      by_cases drops : Drops trackers provider call request
      · rw [if_pos ⟨request, List.mem_cons_self, drops⟩, reached]
        split
        · rfl
        · -- Every record to come is later than the call, so it is not granted
          -- again.
          rw [serve_count_of_drops (positive _) callShown (shown drops.1) drops,
            granted_count_eq_zero]
          intro other member records
          have after := Instant.nanos_le_of_le (shown drops.1)
            (first other member drops.1 records)
          have old := drops.2.2
          have := positive request.tracker
          omega
      · rw [reached, serve_count_of_not_drops callShown shown drops]
        simp [drops, Nat.add_assoc]

private theorem nanos_le_of_timely {call : Request ι} {later : List (Request ι)}
    (kind : call.errand = .record) (timely : Timely (call :: later)) :
    ∀ request ∈ call :: later, request.errand = .record →
      call.now.nanos ≤ request.now.nanos := by
  intro request member records
  rcases List.mem_cons.mp member with rfl | after
  · exact Int.le_refl _
  · apply Instant.nanos_le_of_le (timely.shown call List.mem_cons_self kind)
    exact (List.pairwise_cons.mp timely.ordered).1 request after kind records

/-- A call that is granted first is kept as often as it is granted, or dropped
later. -/
theorem serveAll_cons_count (positive : ∀ i, 0 < (trackers i).window)
    {call : Request ι} {later : List (Request ι)} (kind : call.errand = .record)
    (timely : Timely (call :: later)) (usage : Usage) :
    ((serveAll trackers (call :: later) usage).2.calls call.provider).count
        call.now =
      if ∃ request ∈ later, Drops trackers call.provider call.now request then 0
      else (usage.calls call.provider).count call.now +
        (granted call.provider
          (serveAll trackers (call :: later) usage).1).count
          call.now := by
  have callShown : call.now.OnClock := timely.shown call List.mem_cons_self kind
  have onlyLater : (∃ request ∈ call :: later,
      Drops trackers call.provider call.now request) ↔
      ∃ request ∈ later, Drops trackers call.provider call.now request := by
    simp only [List.mem_cons, exists_eq_or_imp]
    apply or_iff_right
    intro drops
    have old := drops.2.2
    have := positive call.tracker
    omega
  rw [serveAll_count positive callShown timely (nanos_le_of_timely kind timely)]
  simp only [onlyLater]

end

section

variable {σ : Type} [DecidableEq ι] [UsageStore σ]
  {working : UsageStore.Working σ} {trackers : ι → Tracker} {usage : Usage}
  {system : Sharing ι σ}

/-- What one of the trackers counts for a call that was granted to it, after the
requests in `later`. -/
structure Remembered (trackers : ι → Tracker) (call : Request ι)
    (later : List (Request ι)) (granted : Nat)
    (counted : List Instant) : Prop where
  /-- The call is counted as often as it was granted, or no longer. -/
  times : counted.count call.now =
    if ∃ request ∈ later, Drops trackers call.provider call.now request then 0
    else granted
  /-- The call is forgotten exactly by a record for which it is too old. -/
  lasts : call.now ∈ counted ↔
    ∀ request ∈ later, ¬ Drops trackers call.provider call.now request
  /-- Trackers whose windows are not shorter do not make the tracker forget. -/
  safe : (∀ i, (trackers call.tracker).window ≤ (trackers i).window) →
    call.now ∈ counted

/-- A tracker goes on counting a call it was granted until any of the trackers
makes a record for which the call is too old. If no tracker has a shorter
window, it counts the call as long as it lies in the window of its own. -/
theorem call_counted_until_dropped
    (connected : Connected working trackers usage system)
    (positive : ∀ i, 0 < (trackers i).window) {call : Request ι}
    {later : List (Request ι)} (kind : call.errand = .record)
    (timely : Timely (call :: later))
    (grants : (system.step call).1 = .recorded true) {now : Instant}
    (nowShown : now.OnClock)
    (latest : ∀ request ∈ later, request.errand = .record →
      request.now.le now = true)
    (recent : now.nanos < call.now.nanos + (trackers call.tracker).window) :
    ∃ kept counted,
      working.holds (system.run (call :: later)).2.store kept ∧
      counted = (kept.calls call.provider).filter
        ((trackers call.tracker).inWindow now) ∧
      ((system.run (call :: later)).2.step
          ⟨call.tracker, .count, call.provider, now⟩).1 =
        .used counted.length ∧
      Remembered trackers call later
        ((usage.calls call.provider).count call.now +
          (granted call.provider (system.run (call :: later)).1).count call.now)
      counted := by
  have callShown : call.now.OnClock := timely.shown call List.mem_cons_self kind
  obtain ⟨logged, reached⟩ := connected.run fun request member kind =>
    (timely.shown request member kind).valid
  obtain ⟨answered, -⟩ :=
    @Connected.step _ _ _ _ _ _ _ _ reached
      ⟨call.tracker, .count, call.provider, now⟩ nofun
  have inside : (trackers call.tracker).inWindow now call.now = true := by
    rw [Tracker.inWindow_iff nowShown callShown]
    omega
  have times := serveAll_cons_count positive kind timely usage
  rw [← logged, ← List.count_filter inside] at times
  have grantedOnce :
      0 < (granted call.provider (system.run (call :: later)).1).count
        call.now := by
    rw [List.count_pos_iff, mem_granted]
    refine ⟨call, ?_, rfl, rfl⟩
    rw [Sharing.run, grants]
    exact List.mem_cons_self
  have lasts : call.now ∈ ((serveAll trackers (call :: later) usage).2.calls
      call.provider).filter ((trackers call.tracker).inWindow now) ↔
      ∀ request ∈ later, ¬ Drops trackers call.provider call.now request := by
    rw [← List.count_pos_iff, times]
    split
    · next dropped => simpa using dropped
    · next kept => simpa [Nat.add_pos_right _ grantedOnce] using kept
  refine ⟨_, _, reached.held, rfl, ?_, times, lasts, ?_⟩
  · rw [answered]
    simp [Request.serve, Tracker.countInWindow, List.countP_eq_length_filter]
  · rw [lasts]
    intro longer request member drops
    have ordered := Instant.nanos_le_of_le
      (timely.shown request (List.mem_cons_of_mem _ member) drops.1)
      (latest request member drops.1)
    have old := drops.2.2
    have := longer request.tracker
    omega

end

/-- A tracker with a window of an hour and one with a window of a minute. -/
def uneven : Sharing Bool MemoryUsage where
  trackers long :=
    { limit := 10, window := (if long then 3600 else 60) * 1000000000,
      fallback := none
      warnings := [] }
  store :=
    { usage := [], loads := 0, updates := 0, failingLoads := [],
      failingUpdates := [] }

def hourCall : Request Bool := ⟨true, .record, "claude", .ofMillis 0⟩

def minuteCall : Request Bool := ⟨false, .record, "claude", .ofMillis 100000⟩

/-- Two calls are granted within the hour, but the tracker of the hour counts
one. -/
theorem hourCall_dropped_by_minuteCall :
    (granted "claude" (uneven.run [hourCall, minuteCall]).1).length = 2 ∧
      ∃ counted : List Instant,
        ((uneven.run [hourCall, minuteCall]).2.step
          ⟨true, .count, "claude", .ofMillis 100000⟩).1 = .used counted.length ∧
        hourCall.now ∉ counted ∧ counted.length = 1 := by
  have connected : Connected MemoryUsage.working uneven.trackers [] uneven :=
    ⟨rfl, fun _ => rfl, rfl, .of_unfailing rfl rfl⟩
  obtain ⟨kept, counted, held, same, answered, remembered⟩ :=
    @call_counted_until_dropped _ _ _ _ _ _ _ _ connected (by decide) hourCall
      [minuteCall]
      rfl ⟨by decide, by decide⟩ (by cbv) (.ofMillis 100000) (by decide)
      (by decide)
      (by decide)
  have one : ((uneven.run [hourCall, minuteCall]).2.step
      ⟨true, .count, "claude", .ofMillis 100000⟩).1 = .used 1 := by cbv
  refine ⟨by cbv, counted, answered, ?_, ?_⟩
  · rw [remembered.lasts]
    intro keeps
    exact keeps minuteCall List.mem_cons_self (by decide)
  · rw [← Answer.used.injEq]
    exact answered.symm.trans one

end LintMend.Sharing
