import Mathlib.Data.Finset.Card
import LintMend.Proofs.Time.Reading

/-!
# Time between instants

Between instants without leap seconds the time that has passed is the difference
of their nanoseconds. A leap second breaks this: it is longer ago from within it
than from the second behind it. On a timeline that has room for the leap seconds
time passes evenly again, and no less of it than the difference of two instants
tells, so what is a window old by their difference is so on the timeline.
-/

namespace LintMend.Instant

/-- The nanoseconds since the beginning of 1970. -/
def nanos (instant : Instant) : Int :=
  instant.second * nanosPerSecond + instant.nano

/-- An instant as a clock shows it: within the calendar, and not in a leap
second. -/
structure OnClock (instant : Instant) : Prop where
  steady : instant.isLeap = false
  year : isYear (dateOf (instant.second.fdiv secondsPerDay)).1 = true

instance (instant : Instant) : Decidable instant.OnClock :=
  decidable_of_iff
    (instant.isLeap = false ∧
      isYear (dateOf (instant.second.fdiv secondsPerDay)).1 = true)
    ⟨fun ⟨steady, year⟩ => ⟨steady, year⟩, fun shown =>
      ⟨shown.steady, shown.year⟩⟩

variable {now since earlier later : Instant}

theorem OnClock.nano_lt {instant : Instant} (shown : instant.OnClock) :
    instant.nano < nanosPerSecond := by
  simpa [isLeap] using shown.steady

theorem OnClock.valid {instant : Instant} (shown : instant.OnClock) :
    instant.Valid where
  inYears := shown.year
  inSecond := by
    have small := shown.nano_lt
    simp only [nanosPerSecond] at small ⊢
    omega
  atMinute leap := by simp [shown.steady] at leap

theorem elapsed_eq (nowShown : now.OnClock) (sinceShown : since.OnClock) :
    now.elapsed since = now.nanos - since.nanos := by
  simp only [elapsed, nowShown.steady, sinceShown.steady, nanos, nanosPerSecond]
  grind

theorem le_iff :
    earlier.le later = true ↔
      earlier.second < later.second ∨
        earlier.second = later.second ∧ earlier.nano ≤ later.nano := by
  simp [le]

theorem nanos_le_of_le (earlierShown : earlier.OnClock)
    (ordered : earlier.le later = true) : earlier.nanos ≤ later.nanos := by
  have small := earlierShown.nano_lt
  rw [le_iff] at ordered
  simp only [nanos, nanosPerSecond] at small ⊢
  omega

/-! ## A timeline with leap seconds -/

variable {leaps : Finset Int}

/-- The leap seconds of a table that come before a second. A leap second bears
the number of the second that it follows. -/
def leapsBefore (leaps : Finset Int) (second : Int) : Nat :=
  (leaps.filter (· < second)).card

theorem leapsBefore_mono {first second : Int} (ordered : first ≤ second) :
    leapsBefore leaps first ≤ leapsBefore leaps second := by
  apply Finset.card_le_card
  intro leap member
  rw [Finset.mem_filter] at member ⊢
  exact ⟨member.1, by omega⟩

theorem leapsBefore_lt {first second : Int} (listed : first ∈ leaps)
    (ordered : first < second) :
    leapsBefore leaps first < leapsBefore leaps second := by
  apply Finset.card_lt_card
  refine Finset.ssubset_iff_of_subset ?_ |>.mpr ⟨first, ?_, ?_⟩
  · intro leap member
    rw [Finset.mem_filter] at member ⊢
    exact ⟨member.1, by omega⟩
  · exact Finset.mem_filter.mpr ⟨listed, ordered⟩
  · simp

/-- The nanoseconds since the beginning of 1970, with those of the leap seconds
of a table. -/
def onTimeline (leaps : Finset Int) (instant : Instant) : Int :=
  instant.nanos + leapsBefore leaps instant.second * nanosPerSecond

@[simp]
theorem onTimeline_empty (instant : Instant) :
    instant.onTimeline ∅ = instant.nanos := by
  simp [onTimeline, leapsBefore]

/-- The table tells of the leap second in which the instant lies, if it lies in
one. -/
def Told (leaps : Finset Int) (instant : Instant) : Prop :=
  instant.isLeap = true → instant.second ∈ leaps

theorem onTimeline_le_of_le (valid : earlier.Valid) (told : earlier.Told leaps)
    (ordered : earlier.le later = true) :
    earlier.onTimeline leaps ≤ later.onTimeline leaps := by
  have small := valid.inSecond
  simp only [onTimeline, nanos, nanosPerSecond] at small ⊢
  rcases le_iff.mp ordered with before | ⟨same, ordered⟩
  · have more := @leapsBefore_mono leaps _ _ before.le
    cases leap : earlier.isLeap with
    | true =>
        have more := leapsBefore_lt (told leap) before
        omega
    | false =>
        have small : earlier.nano < nanosPerSecond := by
          simpa [isLeap] using leap
        simp only [nanosPerSecond] at small
        omega
  · rw [same]
    omega

/-- Two instants do not lie farther apart than they do on the timeline. -/
theorem elapsed_le_onTimeline (told : since.Told leaps)
    (ordered : since.le now = true) :
    now.elapsed since ≤ now.onTimeline leaps - since.onTimeline leaps := by
  have first : since.second ≤ now.second := by
    rw [le_iff] at ordered
    omega
  have more := @leapsBefore_mono leaps _ _ first
  simp only [elapsed, onTimeline, nanos, nanosPerSecond]
  split
  · next apart =>
      split
      · next leap =>
          -- the leap second lies between the two, so the table counts it too
          have before : since.second < now.second := by
            refine lt_of_le_of_ne first fun same => ?_
            simp [clock, same] at apart
          have more := leapsBefore_lt (told leap) before
          omega
      · omega
  · split
    · split <;> omega
    · omega

end LintMend.Instant
