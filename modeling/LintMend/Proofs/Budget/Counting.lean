import LintMend.Proofs.Budget.Window

/-!
# What a tracker counts

The window of a tracker is open towards the future. A record may hold calls
later than now, for example after the clock was set back, and these are counted
like the calls within the window. So a provider is locked out until all but a
few of its calls are a window old, however far ahead they lie.
-/

namespace LintMend.Tracker

/-- The call lies within the window that ends now. -/
def trails (tracker : Tracker) (now call : Instant) : Bool :=
  call.le now && tracker.inWindow now call

/-- The call is later than now and counted all the same. -/
def leads (tracker : Tracker) (now call : Instant) : Bool :=
  !call.le now && tracker.inWindow now call

theorem countInWindow_eq (tracker : Tracker) (now : Instant)
    (calls : List Instant) :
    tracker.countInWindow now calls =
      calls.countP (tracker.trails now) + calls.countP (tracker.leads now) := by
  rw [countInWindow]
  induction calls with
  | nil => rfl
  | cons call calls induction =>
      simp only [List.countP_cons, induction, trails, leads]
      by_cases early : call.le now = true
      · simp only [early, Bool.true_and, Bool.not_true, Bool.false_and,
          Bool.false_eq_true, if_false]
        omega
      · simp only [early, Bool.not_false, Bool.true_and, Bool.false_and,
          Bool.false_eq_true, if_false]
        omega

/-- What is counted of the calls to a provider, and whether room is seen for one
more. -/
structure Counted (tracker : Tracker) (now : Instant) (calls : List Instant)
    (count : Nat) (room : Bool) : Prop where
  used : count = calls.countP (tracker.trails now) +
    calls.countP (tracker.leads now)
  free : room = decide (count < tracker.limit)
  /-- The count is that of the window exactly if no call leads. -/
  proper : count = calls.countP (tracker.trails now) ↔
    ∀ call ∈ calls, tracker.leads now call = false
  /-- The calls within the window leave room, but the leading ones take it
  up. -/
  mistaken : room ≠ decide (calls.countP (tracker.trails now) < tracker.limit) ↔
    calls.countP (tracker.trails now) < tracker.limit ∧
      tracker.limit ≤ calls.countP (tracker.trails now) +
        calls.countP (tracker.leads now)
  /-- A call takes up room until it is a window old. -/
  locked : now.OnClock → (∀ call ∈ calls, call.OnClock) →
    (room = false ↔ tracker.limit ≤
      calls.countP fun call => decide (now.nanos < call.nanos + tracker.window))

section

variable {σ : Type} [UsageStore σ]

/-- Looking into the record changes neither the limit nor the window. -/
theorem current_settings (tracker : Tracker) (store : σ) :
    (tracker.current store).2.1.limit = tracker.limit ∧
      (tracker.current store).2.1.window = tracker.window := by
  rw [current]
  split
  · exact ⟨rfl, rfl⟩
  · split <;> exact ⟨rfl, rfl⟩

theorem used_fst (tracker : Tracker) (provider : String) (now : Instant)
    (store : σ) :
    (tracker.used provider now store).1 =
      tracker.countInWindow now ((tracker.current store).1.calls provider) := by
  rw [← countInWindow_congr (tracker.current_settings store).2]
  rfl

theorem canProceed_fst (tracker : Tracker) (provider : String) (now : Instant)
    (store : σ) :
    (tracker.canProceed provider now store).1 =
      decide ((tracker.used provider now store).1 < tracker.limit) := by
  rw [← (tracker.current_settings store).1]
  rfl

/-- Whatever a store holds, a tracker counts the calls within the window and,
besides, the ones that are later than now. -/
theorem calls_counted_with_leading (tracker : Tracker) (provider : String)
    (now : Instant) (store : σ) :
    Counted tracker now ((tracker.current store).1.calls provider)
      (tracker.used provider now store).1
      (tracker.canProceed provider now store).1 := by
  rw [canProceed_fst, used_fst]
  generalize (tracker.current store).1.calls provider = calls
  have counted := countInWindow_eq tracker now calls
  refine ⟨counted, rfl, ?_, ?_, ?_⟩
  · rw [counted, Nat.add_eq_left, List.countP_eq_zero]
    simp
  · rw [counted, ne_eq, decide_eq_decide]
    omega
  · intro nowShown shown
    rw [decide_eq_false_iff_not, Nat.not_lt, countInWindow]
    have same : calls.countP (tracker.inWindow now) =
        calls.countP fun call =>
          decide (now.nanos < call.nanos + tracker.window) := by
      apply List.countP_congr
      intro call member
      rw [inWindow_iff nowShown (shown call member), decide_eq_true_eq]
      omega
    rw [same]

end

/-- A tracker that grants one call a minute. -/
def single : Tracker where
  limit := 1
  window := 60 * 1000000000
  fallback := none
  warnings := []

/-- One call, made a hundred seconds ahead of the beginning of 1970. -/
def oneAhead : MemoryUsage where
  usage := [("claude", [.ofMillis 100000])]
  loads := 0
  updates := 0
  failingLoads := []
  failingUpdates := []

/-- No call lies in the window, but the provider stays locked out for almost
three windows. -/
theorem locked_by_oneAhead :
    (single.used "claude" (.ofMillis 0) oneAhead).1 = 1 ∧
      [Instant.ofMillis 100000].countP (single.trails (.ofMillis 0)) = 0 ∧
      (single.canProceed "claude" (.ofMillis 0) oneAhead).1 = false ∧
      (single.canProceed "claude" (.ofMillis 159999) oneAhead).1 = false ∧
      (single.canProceed "claude" (.ofMillis 160000) oneAhead).1 = true := by
  have early :=
    calls_counted_with_leading single "claude" (.ofMillis 0) oneAhead
  have late :=
    calls_counted_with_leading single "claude" (.ofMillis 159999) oneAhead
  have shown : ∀ call ∈ [Instant.ofMillis 100000], call.OnClock := by decide
  refine ⟨early.used, by decide, ?_, ?_, by decide⟩
  · exact (early.locked (by decide) shown).mpr (by decide)
  · exact (late.locked (by decide) shown).mpr (by decide)

end LintMend.Tracker
