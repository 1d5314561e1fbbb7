import Mathlib.Data.List.Count
import LintMend.Budget.Tracker
import LintMend.Proofs.Lookup
import LintMend.Proofs.Time.Timeline

/-!
# Windows of calls

On a clock without leap seconds a call that has left a window never comes back
into it. What a tracker records and prunes is told here for one provider at a
time.
-/

namespace LintMend

namespace Usage

@[simp]
theorem lookup_set (provider other : String) (calls : List Instant)
    (usage : Usage) :
    (set provider calls usage).lookup other =
      if other = provider then some calls else usage.lookup other := by
  induction usage with
  | nil => rw [set, lookup_entry]
  | cons entry usage induction =>
      obtain ⟨name, found⟩ := entry
      rw [set]
      split
      · next here =>
          subst here
          rw [lookup_entry, lookup_entry]
          split <;> rfl
      · next elsewhere =>
          split
          · rw [lookup_entry]
          · rw [lookup_entry, lookup_entry, induction]
            by_cases same : other = provider
            · rw [if_pos same, if_pos same, if_neg (same ▸ elsewhere)]
            · rw [if_neg same, if_neg same]

@[simp]
theorem calls_set (provider other : String) (calls : List Instant)
    (usage : Usage) :
    (set provider calls usage).calls other =
      if other = provider then calls else usage.calls other := by
  rw [Usage.calls, lookup_set]
  split <;> rfl

end Usage

namespace Tracker

theorem inWindow_iff {tracker : Tracker} {now call : Instant}
    (nowShown : now.OnClock) (callShown : call.OnClock) :
    tracker.inWindow now call = true ↔
      now.nanos - call.nanos < tracker.window := by
  rw [inWindow, decide_eq_true_eq, Instant.elapsed_eq nowShown callShown]

/-! ## The settings of a tracker decide how it counts -/

theorem inWindow_congr {first second : Tracker}
    (window : first.window = second.window) :
    first.inWindow = second.inWindow := by
  funext now call
  rw [inWindow, inWindow, window]

theorem countInWindow_congr {first second : Tracker}
    (window : first.window = second.window) :
    first.countInWindow = second.countInWindow := by
  funext now calls
  rw [countInWindow, countInWindow, inWindow_congr window]

theorem recordInto_congr {first second : Tracker}
    (limit : first.limit = second.limit)
    (window : first.window = second.window) :
    first.recordInto = second.recordInto := by
  funext provider now usage
  simp only [recordInto, limit, inWindow_congr window]

/-! ## Calls in the course of time -/

/-- A call outside the window stays outside. -/
theorem inWindow_of_later {tracker : Tracker} {earlier later call : Instant}
    (earlierShown : earlier.OnClock) (laterShown : later.OnClock)
    (callShown : call.OnClock) (ordered : earlier.le later = true)
    (inside : tracker.inWindow later call = true) :
    tracker.inWindow earlier call = true := by
  rw [inWindow_iff laterShown callShown] at inside
  rw [inWindow_iff earlierShown callShown]
  have := Instant.nanos_le_of_le earlierShown ordered
  omega

/-- A call within the window on the timeline with its leap second is counted. -/
theorem inWindow_of_onTimeline {tracker : Tracker} {window : Int}
    (shared : tracker.window = window) {leaps : Finset Int} {now call : Instant}
    (told : call.Told leaps) (ordered : call.le now = true)
    (recent : now.onTimeline leaps - call.onTimeline leaps < window) :
    tracker.inWindow now call = true := by
  have closer := Instant.elapsed_le_onTimeline told ordered
  rw [inWindow, decide_eq_true_eq, shared]
  omega

theorem recordInto_calls_other (tracker : Tracker) {provider other : String}
    (different : other ≠ provider) (now : Instant) (usage : Usage) :
    (tracker.recordInto provider now usage).2.calls other =
      usage.calls other := by
  rw [recordInto]
  split <;> rw [Usage.calls_set, if_neg different]

/-- A refusal only drops calls that are outside the window. -/
theorem recordInto_calls_refused {tracker : Tracker} {provider : String}
    {now : Instant} {usage : Usage}
    (refused : (tracker.recordInto provider now usage).1 = false) :
    (tracker.recordInto provider now usage).2.calls provider =
      (usage.calls provider).filter (tracker.inWindow now) := by
  rw [recordInto] at refused ⊢
  split at refused
  · next full => rw [if_pos full, Usage.calls_set, if_pos rfl]
  · cases refused

theorem recordInto_calls_granted {tracker : Tracker} {provider : String}
    {now : Instant} {usage : Usage}
    (granted : (tracker.recordInto provider now usage).1 = true) :
    ((tracker.recordInto provider now usage).2.calls provider).Perm
      ((usage.calls provider).filter (tracker.inWindow now) ++ [now]) := by
  rw [recordInto] at granted ⊢
  split at granted
  · cases granted
  · next free =>
      rw [if_neg free, Usage.calls_set, if_pos rfl]
      exact List.mergeSort_perm _ _

/-- How often an instant is recorded after a record: the tracker's window
decides what is left of it, and a granted call adds one. -/
theorem recordInto_count (tracker : Tracker) (provider : String)
    (now call : Instant) (usage : Usage) :
    ((tracker.recordInto provider now usage).2.calls provider).count call =
      (if tracker.inWindow now call =
        true then (usage.calls provider).count call else 0) +
        (if (tracker.recordInto provider now usage).1 = true ∧
          call = now then 1 else 0) := by
  have kept :
      ((usage.calls provider).filter (tracker.inWindow now)).count call =
        if tracker.inWindow now call = true then
          (usage.calls provider).count call
        else 0 := by
    split
    · next inside => exact List.count_filter inside
    · next outside =>
        rw [List.count_eq_zero]
        intro member
        exact outside (List.mem_filter.mp member).2
  cases granted : (tracker.recordInto provider now usage).1 with
  | false => simp [recordInto_calls_refused granted, kept]
  | true =>
      rw [(recordInto_calls_granted granted).count_eq, List.count_append, kept]
      by_cases same : call = now
      · simp [same]
      · simp [same, Ne.symm same]

end Tracker

end LintMend
