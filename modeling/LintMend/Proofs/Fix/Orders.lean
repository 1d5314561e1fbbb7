import Mathlib.Data.List.Nodup
import LintMend.Proofs.Fix.Alone

/-!
# The order of fixes

Fixes of different lines may be made from the last line to the first, at the
numbers that their issues name: what is made below moves no line above. They may
as well be made from the first line to the last, if every number follows the
lines that were added or dropped above it. Both come to the same as making each
fix in a buffer that holds its line only, and putting together what that leaves
(`makeByLine`).
-/

namespace LintMend

theorem zipIdx_middle {α : Type} (front : List α) (item : α) (behind : List α)
    (start : Nat) :
    (front ++ item :: behind).zipIdx start =
      front.zipIdx start ++ (item, start + front.length) ::
        behind.zipIdx (start + front.length + 1) := by
  rw [List.zipIdx_append, List.zipIdx_cons, Nat.add_comm]

theorem eq_of_perm_of_length_le {α : Type} {left right : List α}
    (same : left.Perm right) (few : right.length ≤ 1) : left = right := by
  match right with
  | [] => exact List.perm_nil.mp same
  | [_] => exact List.perm_singleton.mp same
  | _ :: _ :: _ => simp at few

namespace Fix

/-- What the fixes for a line of this number leave of it in a buffer of its
own. -/
def makeAlone (keepPackageFiles : Bool) (steps : List (Issue × Fix))
    (line : Line) (number : Nat) : List Line :=
  let own := steps.filter fun step => step.1.line == number
  (makeAll keepPackageFiles (own.map (moveTo 1)) line.alone).lines

/-- Makes the fixes line by line; the first line has the number `start`. -/
def makeByLine (keepPackageFiles : Bool) (steps : List (Issue × Fix))
    (start : Nat) (lines : List Line) : List Line :=
  (lines.zipIdx start).flatMap fun (line, number) =>
    makeAlone keepPackageFiles steps line number

/-- Makes fixes one after another that were found when there were `count` lines.
Each number is moved by as many lines as there are more, or fewer, by then. -/
def makeMoved (keepPackageFiles : Bool) (count : Nat)
    (steps : List (Issue × Fix)) (buffer : Buffer) : Buffer :=
  steps.foldl
    (fun buffer step =>
      attempt keepPackageFiles buffer
        (moveTo (step.1.line + buffer.lineCount - count) step))
    buffer

/-- Each fix is one of a single line, and reads no other among these lines. -/
def ReadAlone (steps : List (Issue × Fix)) (start : Nat)
    (lines : List Line) : Prop :=
  ∀ step ∈ steps, step.2.isLineAddressed = true ∧
    (step.2 = .removeUnusedImport →
      ∀ line, (line, step.1.line) ∈ lines.zipIdx start →
      Text.indent line.text = [])

section

variable {keepPackageFiles : Bool} {step : Issue × Fix}
  {steps : List (Issue × Fix)} {start : Nat} {front lines behind : List Line}
  {line : Line}

theorem ReadAlone.tail (alone : ReadAlone (step :: steps) start lines) :
    ReadAlone steps start lines :=
  (List.forall_mem_cons.mp alone).2

theorem ReadAlone.of_front
    (alone : ReadAlone steps start (front ++ line :: behind)) :
    ReadAlone steps start front := by
  intro step member
  refine (alone step member).imp_right fun unindented isImport line inside => ?_
  apply unindented isImport line
  simp [zipIdx_middle, inside]

theorem ReadAlone.of_behind
    (alone : ReadAlone steps start (front ++ line :: behind)) :
    ReadAlone steps (start + front.length + 1) behind := by
  intro step member
  refine (alone step member).imp_right fun unindented isImport line inside => ?_
  apply unindented isImport line
  simp [zipIdx_middle, inside]

/-! ## Line by line -/

theorem makeByLine_middle (steps : List (Issue × Fix)) (front : List Line)
    (line : Line) (behind : List Line) :
    makeByLine keepPackageFiles steps start (front ++ line :: behind) =
      makeByLine keepPackageFiles steps start front ++
        makeAlone keepPackageFiles steps line (start + front.length) ++
          makeByLine keepPackageFiles steps
            (start + front.length + 1) behind := by
  simp [makeByLine, zipIdx_middle]

@[simp]
theorem makeByLine_nil (lines : List Line) :
    makeByLine keepPackageFiles [] start lines = lines := by
  change (lines.zipIdx start).flatMap (fun numbered => [numbered.1]) = lines
  rw [← List.map_eq_flatMap, List.zipIdx_map_fst]

/-- A fix for no line of these is of no matter. -/
theorem makeByLine_cons_of_outside
    (outside : step.1.line < start ∨ start + lines.length ≤ step.1.line) :
    makeByLine keepPackageFiles (step :: steps) start lines =
      makeByLine keepPackageFiles steps start lines := by
  unfold makeByLine
  apply List.flatMap_congr
  rintro ⟨line, number⟩ inside
  obtain ⟨above, below, -⟩ := List.mem_zipIdx inside
  have apart : step.1.line ≠ number := by omega
  simp [makeAlone, apart]

theorem makeByLine_of_outside
    (outside : ∀ step ∈ steps, step.1.line < start ∨
      start + lines.length ≤ step.1.line) :
    makeByLine keepPackageFiles steps start lines = lines := by
  induction steps with
  | nil => exact makeByLine_nil lines
  | cons step steps induction =>
      obtain ⟨here, later⟩ := List.forall_mem_cons.mp outside
      rw [makeByLine_cons_of_outside here, induction later]

/-- The only fix for a line. -/
theorem makeAlone_of_only (only : ∀ other ∈ steps, other.1.line ≠ step.1.line) :
    makeAlone keepPackageFiles (step :: steps) line step.1.line =
      (attempt keepPackageFiles line.alone (moveTo 1 step)).lines := by
  have none : steps.filter (fun other => other.1.line == step.1.line) = [] := by
    rw [List.filter_eq_nil_iff]
    intro other member
    rw [beq_iff_eq]
    exact only other member
  simp [makeAlone, none, makeAll]

/-- In which order the fixes stand is of no matter where each line has one at
most. -/
theorem makeAlone_of_perm {other : List (Issue × Fix)} (same : other.Perm steps)
    (distinct : (steps.map fun step => step.1.line).Nodup) (number : Nat) :
    makeAlone keepPackageFiles other line number =
      makeAlone keepPackageFiles steps line number := by
  have one : (steps.filter fun step => step.1.line == number).length ≤ 1 := by
    have once := List.nodup_iff_count_le_one.mp distinct number
    rwa [List.count, List.countP_map, List.countP_eq_length_filter] at once
  have own := same.filter fun step => step.1.line == number
  rw [makeAlone, makeAlone, eq_of_perm_of_length_le own one]

theorem makeByLine_of_perm {other : List (Issue × Fix)}
    (same : other.Perm steps)
    (distinct : (steps.map fun step => step.1.line).Nodup) :
    makeByLine keepPackageFiles other start lines =
      makeByLine keepPackageFiles steps start lines :=
  List.flatMap_congr fun (_, number) _ => makeAlone_of_perm same distinct number

/-- The only fix for a line is made there, and is of no matter in front and
behind. -/
theorem makeByLine_at (only : ∀ other ∈ steps, other.1.line ≠ step.1.line)
    (place : step.1.line = start + front.length) :
    makeByLine keepPackageFiles (step :: steps) start
        (front ++ line :: behind) =
      makeByLine keepPackageFiles steps start front ++
        (attempt keepPackageFiles line.alone (moveTo 1 step)).lines ++
          makeByLine keepPackageFiles steps
            (start + front.length + 1) behind := by
  rw [makeByLine_middle, ← place, makeAlone_of_only only,
    makeByLine_cons_of_outside (.inr (Nat.le_of_eq place.symm)),
    makeByLine_cons_of_outside (.inl (Nat.lt_succ_self _))]

end

/-! ## Both orders -/

variable {keepPackageFiles : Bool} {steps : List (Issue × Fix)}
  {buffer : Buffer}

/-- From the last line to the first. The lines in front are still where they
were; the others are done, and there are none of them as long as the fixes are
for lines outside the file. -/
theorem makeAll_falling
    (falling : steps.Pairwise fun earlier later =>
      later.1.line < earlier.1.line)
    {front done : List Line} (whole : buffer.lines = front ++ done)
    (above : done = [] ∨ ∀ step ∈ steps, step.1.line ≤ front.length)
    (alone : ReadAlone steps 1 front) :
    makeAll keepPackageFiles steps buffer =
      { buffer with
        lines := makeByLine keepPackageFiles steps 1 front ++ done } := by
  induction steps generalizing front done buffer with
  | nil =>
      rw [makeByLine_nil, ← whole]
      rfl
  | cons step steps induction =>
      obtain ⟨below, falling⟩ := List.pairwise_cons.mp falling
      obtain ⟨⟨addressed, unindented⟩, -⟩ := List.forall_mem_cons.mp alone
      -- the issue names the number at which the line still is
      change makeAll keepPackageFiles steps
        (attempt keepPackageFiles buffer (moveTo step.1.line step)) = _
      by_cases inside : 1 ≤ step.1.line ∧ step.1.line < 1 + front.length
      · obtain ⟨before, line, behind, rfl, place⟩ :=
          exists_middle inside.1 inside.2
        rw [List.append_assoc, List.cons_append] at whole
        have number : step.1.line = before.length + 1 :=
          place.trans (Nat.add_comm _ _)
        have here : (line, step.1.line) ∈
            (before ++ line :: behind).zipIdx 1 := by
          simp [zipIdx_middle, place]
        have stillAbove : ∀ later ∈ steps, later.1.line ≤ before.length := by
          intro later member
          have lower := below later member
          omega
        have kept : makeByLine keepPackageFiles steps
            (1 + before.length + 1) behind = behind := by
          apply makeByLine_of_outside
          intro later member
          have lower := below later member
          omega
        rw [attempt_alone addressed (fun isImport =>
          unindented isImport line here) whole number,
          induction falling (List.append_assoc _ _ _)
            (.inr stillAbove) alone.tail.of_front,
          makeByLine_at (fun later member =>
            Nat.ne_of_lt (below later member)) place, kept]
        simp
      · have outside : step.1.line = 0 ∨ buffer.lineCount < step.1.line := by
          rcases above with rfl | above
          · rw [Buffer.lineCount, whole, List.append_nil]
            omega
          · have := above step List.mem_cons_self
            omega
        rw [attempt_outside addressed outside,
          induction falling whole (above.imp_right fun above =>
            (List.forall_mem_cons.mp above).2)
            alone.tail,
          makeByLine_cons_of_outside (by omega)]

/-- From the first line to the last. The lines of `rest` come behind the line
`seen` and are still to be done, those in front are done. Fixes for lines
outside the file come first or last. -/
theorem makeMoved_rising
    (rising : steps.Pairwise fun earlier later => earlier.1.line < later.1.line)
    {seen : Nat} {front rest : List Line} (whole : buffer.lines = front ++ rest)
    (ahead : (∀ step ∈ steps, seen < step.1.line) ∨ front = [] ∧ seen = 0)
    (alone : ReadAlone steps (seen + 1) rest) :
    makeMoved keepPackageFiles (seen + rest.length) steps buffer =
      { buffer with lines :=
        front ++ makeByLine keepPackageFiles steps (seen + 1) rest } := by
  induction steps generalizing seen front rest buffer with
  | nil =>
      rw [makeByLine_nil, ← whole]
      rfl
  | cons step steps induction =>
      obtain ⟨later, rising⟩ := List.pairwise_cons.mp rising
      obtain ⟨⟨addressed, unindented⟩, -⟩ := List.forall_mem_cons.mp alone
      have count : buffer.lineCount = front.length + rest.length := by
        rw [Buffer.lineCount, whole, List.length_append]
      rw [makeMoved, List.foldl_cons, ← makeMoved]
      by_cases inside : seen + 1 ≤ step.1.line ∧
        step.1.line < seen + 1 + rest.length
      · obtain ⟨between, line, behind, rfl, place⟩ :=
          exists_middle inside.1 inside.2
        rw [← List.append_assoc] at whole
        have number : step.1.line + buffer.lineCount -
              (seen + (between ++ line :: behind).length) =
            (front ++ between).length + 1 := by
          rw [count, List.length_append, List.length_append, List.length_cons]
          omega
        have here : (line, step.1.line) ∈
            (between ++ line :: behind).zipIdx (seen + 1) := by
          simp [zipIdx_middle, place]
        have kept : makeByLine keepPackageFiles steps (seen + 1) between =
            between := by
          apply makeByLine_of_outside
          intro other member
          have lower := later other member
          omega
        have counted : seen + (between ++ line :: behind).length =
            step.1.line + behind.length := by
          rw [List.length_append, List.length_cons]
          omega
        have next : step.1.line + 1 = seen + 1 + between.length + 1 := by
          rw [place]
        rw [attempt_alone addressed (fun isImport =>
          unindented isImport line here) whole number,
          counted, induction rising rfl (.inl later)
            (next ▸ alone.tail.of_behind),
          makeByLine_at (fun other member =>
            (Nat.ne_of_lt (later other member)).symm) place, kept,
          next]
        simp [moveTo]
      · have outside : step.1.line + buffer.lineCount -
            (seen + rest.length) = 0 ∨
            buffer.lineCount < step.1.line + buffer.lineCount -
              (seen + rest.length) := by
          rw [count]
          rcases ahead with ahead | ⟨rfl, rfl⟩
          · have := ahead step List.mem_cons_self
            omega
          · rw [List.length_nil]
            omega
        rw [attempt_outside addressed outside,
          induction rising whole (ahead.imp_left fun ahead =>
            (List.forall_mem_cons.mp ahead).2)
            alone.tail,
          makeByLine_cons_of_outside (by omega)]

/-- Made from the last line to the first, the fixes of a file are made line by
line. -/
theorem makeAll_eq_makeByLine
    (falling : steps.Pairwise fun earlier later =>
      later.1.line < earlier.1.line)
    (alone : ReadAlone steps 1 buffer.lines) :
    makeAll keepPackageFiles steps buffer =
      { buffer with
        lines := makeByLine keepPackageFiles steps 1 buffer.lines } := by
  rw [makeAll_falling falling (List.append_nil _).symm (.inl rfl) alone,
    List.append_nil]

/-- Made from the first line to the last, they are so where their numbers follow
the lines. -/
theorem makeMoved_eq_makeByLine
    (rising : steps.Pairwise fun earlier later => earlier.1.line < later.1.line)
    (alone : ReadAlone steps 1 buffer.lines) :
    makeMoved keepPackageFiles buffer.lineCount steps buffer =
      { buffer with
        lines := makeByLine keepPackageFiles steps 1 buffer.lines } := by
  have nothingSeen : buffer.lineCount = 0 + buffer.lines.length :=
    (Nat.zero_add _).symm
  rw [nothingSeen,
    makeMoved_rising rising (List.nil_append _).symm (.inr ⟨rfl, rfl⟩) alone,
    List.nil_append]

end Fix

end LintMend
