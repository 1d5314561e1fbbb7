import LintMend.Proofs.Scan.Layout
import LintMend.Proofs.Scan.Spelling

/-!
# Stretches of code and literals

The code of a line is divided into runs of code and literals. A change of the
runs that puts in no quote and no sign of a comment leaves that division as it
is: the changed line is read with the changed runs, the same literals and the
same comment.
-/

namespace LintMend

namespace Scan

open Quoting (Unclosed)

variable {text run rest : Text}

theorem splitCommentFrom_of_unclosed {place : Quoting}
    (unclosed : Unclosed place text) (marker : Text) :
    splitCommentFrom marker place text = (text, []) := by
  induction text generalizing place with
  | nil => rfl
  | cons c rest induction =>
      have inLiteral : place ≠ .code := unclosed [] List.nil_prefix
      rw [splitCommentFrom, if_neg (inLiteral ·.1), induction unclosed.behind]

theorem splitCommentFrom_of_isCode (code : ∀ c ∈ run, isCode c = true)
    (rest : Text) :
    splitCommentFrom ['#'] .code (run ++ rest) =
      (splitCommentFrom ['#'] .code rest).map (run ++ ·) id := by
  induction run with
  | nil => rfl
  | cons c run induction =>
      obtain ⟨here, others⟩ := List.forall_mem_cons.mp code
      have noSign := (isCode_iff.mp here).2
      rw [List.cons_append, splitCommentFrom, if_neg (not_marked noSign _ ·.2),
        step_of_isCode here, induction others]
      rfl

theorem after_of_isCode (code : ∀ c ∈ run, isCode c = true) :
    Quoting.after .code run = .code :=
  Quoting.after_of_unquoted (unquoted_of_isCode code)

/-- The stretches of a text without comment. A run of code stands in front of
each literal and at the end; a literal that is never closed is the end. -/
inductive Segmented : Text → List Segment → Prop
  | code {run : Text} : (∀ c ∈ run, isCode c = true) → Segmented run [.code run]
  | unclosed {run inside : Text} {quote : Char} : (∀ c ∈ run, isCode c = true) →
      Quoting.isQuote quote = true → Unclosed (.literal quote false) inside →
      Segmented (run ++ quote :: inside) [.code run, .literal (quote :: inside)]
  | stroke {run stroke rest : Text} {behind : List Segment} :
      (∀ c ∈ run, isCode c = true) →
        IsStroke stroke → Segmented rest behind →
        Segmented (run ++ (stroke ++ rest))
          (.code run :: .literal stroke :: behind)

variable {found : List Segment}

theorem Segmented.segments (segmented : Segmented text found) :
    segments text = found := by
  induction segmented with
  | code code => exact segments_of_unquoted (unquoted_of_isCode code)
  | unclosed code opens unclosed =>
      exact segments_of_unclosed (unquoted_of_isCode code) opens unclosed
  | stroke code isStroke _ induction =>
      rw [segments_of_stroke (unquoted_of_isCode code) isStroke, induction]

theorem Unsigned.of_append {marker front rest behind : Text} {place : Quoting}
    (unsigned : Unsigned marker place (front ++ rest) behind) :
    Unsigned marker (place.after front) rest behind := by
  rintro inside c later rfl inCode
  rw [← Quoting.after_append] at inCode
  exact unsigned (front ++ inside) c later (List.append_assoc ..).symm inCode

theorem isCode_of_unsigned (unquoted : ∀ c ∈ run, Quoting.isQuote c = false)
    (unsigned : Unsigned ['#'] .code (run ++ rest) []) :
    ∀ c ∈ run, isCode c = true := by
  intro c member
  refine isCode_iff.mpr ⟨unquoted c member, ?_⟩
  rintro rfl
  obtain ⟨front, later, rfl⟩ := List.append_of_mem member
  have inCode := Quoting.after_of_unquoted fun c inside =>
    unquoted c (List.mem_append_left _ inside)
  exact unsigned front '#' (later ++ rest) (by simp) inCode ⟨_, rfl⟩

/-- In a text without comment, a run of code holds no sign either. -/
theorem Layout.segmented (layout : Layout text found)
    (unsigned : Unsigned ['#'] .code text []) :
    Segmented text found := by
  induction layout with
  | @code run unquoted =>
      rw [← List.append_nil run] at unsigned
      exact .code (isCode_of_unsigned unquoted unsigned)
  | unclosed unquoted opens unhidden =>
      exact .unclosed (isCode_of_unsigned unquoted unsigned) opens
        ((Quoting.unclosed_iff opens).mpr unhidden)
  | closed unquoted opens hides _ induction =>
      have isStroke := isStroke_iff.mpr ⟨_, _, rfl, opens, hides⟩
      have further := unsigned.of_append
      rw [Quoting.after_of_unquoted unquoted] at further
      have behind := further.of_append
      rw [isStroke.after] at behind
      exact .stroke (isCode_of_unsigned unquoted unsigned) isStroke
        (induction behind)

theorem segmented_of_unsigned (unsigned : Unsigned ['#'] .code text []) :
    Segmented text (segments text) :=
  (layout_iff.mpr rfl).segmented unsigned

theorem Segmented.after_unclosed {inside : Text} {quote : Char}
    (code : ∀ c ∈ run, isCode c = true) (opens : Quoting.isQuote quote = true)
    (unclosed : Unclosed (.literal quote false) inside) :
    Quoting.after .code (run ++ quote :: inside) ≠ .code := by
  rw [Quoting.after_append, after_of_isCode code]
  change Quoting.after (Quoting.step .code quote) inside ≠ .code
  rw [Quoting.step, if_pos opens]
  exact unclosed inside List.prefix_rfl

theorem after_stroke {stroke : Text} (code : ∀ c ∈ run, isCode c = true)
    (isStroke : IsStroke stroke) (rest : Text) :
    Quoting.after .code (run ++ (stroke ++ rest)) =
      Quoting.after .code rest := by
  rw [Quoting.after_append, after_of_isCode code, Quoting.after_append,
    isStroke.after]

theorem Segmented.splitComment {comment : Text}
    (segmented : Segmented text found) (signed : IsComment comment)
    (closed : comment ≠ [] → Quoting.after .code text = .code) :
    splitComment ['#'] (text ++ comment) = (text, comment) := by
  induction segmented with
  | code code => exact splitComment_of_isCode code signed
  | @unclosed run inside quote code opens unclosed =>
      have open' := after_unclosed code opens unclosed
      obtain rfl : comment = [] := by
        by_contra some
        exact open' (closed some)
      have noSign := ne_sign_of_isQuote opens
      rw [List.append_nil, Scan.splitComment, splitCommentFrom_of_isCode code,
        splitCommentFrom, if_neg (not_marked noSign _ ·.2), Quoting.step,
        if_pos opens, splitCommentFrom_of_unclosed unclosed]
      rfl
  | @stroke run stroke rest behind code isStroke _ induction =>
      rw [after_stroke code isStroke] at closed
      have further := induction closed
      rw [Scan.splitComment] at further ⊢
      rw [List.append_assoc, List.append_assoc, splitCommentFrom_of_isCode code,
        isStroke.splitCommentFrom, further]
      rfl

/-! ## Changed runs -/

/-- A change of the code only. -/
def Segment.changed (change : Text → Text) : Segment → Segment
  | code text => code (change text)
  | literal text => literal text

variable {change : Text → Text}

theorem mapUnquoted_eq (change : Text → Text) (text : Text) :
    mapUnquoted change text =
      ((segments text).map (Segment.changed change)).flatMap Segment.text := by
  rw [mapUnquoted, List.flatMap_map]
  congr 1
  funext segment
  cases segment <;> rfl

theorem Segmented.mapUnquoted_eq (segmented : Segmented text found) :
    mapUnquoted change text =
      (found.map (Segment.changed change)).flatMap Segment.text := by
  rw [Scan.mapUnquoted_eq, segmented.segments]

private theorem flatMap_code (change : Text → Text) (run : Text) :
    ([Segment.code run].map (Segment.changed change)).flatMap Segment.text =
      change run :=
  List.append_nil (change run)

private theorem flatMap_unclosed (change : Text → Text) (run literal : Text) :
    ([Segment.code run, .literal literal].map (Segment.changed change)).flatMap
        Segment.text =
      change run ++ literal :=
  congrArg (change run ++ ·) (List.append_nil literal)

theorem Segmented.mapUnquoted (keeps : KeepsCode change)
    (segmented : Segmented text found) :
    Segmented (mapUnquoted change text)
      (found.map (Segment.changed change)) := by
  rw [segmented.mapUnquoted_eq]
  induction segmented with
  | @code run code =>
      rw [flatMap_code]
      exact .code (keeps.code code)
  | @unclosed run inside quote code opens unclosed =>
      rw [flatMap_unclosed]
      exact .unclosed (keeps.code code) opens unclosed
  | stroke code isStroke _ induction =>
      exact .stroke (keeps.code code) isStroke induction

theorem Segmented.after_mapUnquoted (keeps : KeepsCode change)
    (segmented : Segmented text found) :
    Quoting.after .code (Scan.mapUnquoted change text) = .code ↔
      Quoting.after .code text = .code := by
  rw [segmented.mapUnquoted_eq]
  induction segmented with
  | @code run code =>
      rw [flatMap_code, after_of_isCode code, after_of_isCode (keeps.code code)]
  | @unclosed run inside quote code opens unclosed =>
      rw [flatMap_unclosed]
      exact iff_of_false (after_unclosed (keeps.code code) opens unclosed)
        (after_unclosed code opens unclosed)
  | @stroke run stroke rest behind code isStroke _ induction =>
      rw [after_stroke code isStroke, ← induction]
      exact iff_of_eq
        (congrArg (· = _) (after_stroke (keeps.code code) isStroke _))

/-- A change that does nothing to any run does nothing to the line. -/
theorem mapUnquoted_eq_self
    (unchanged : ∀ run, Segment.code run ∈ segments text → change run = run) :
    mapUnquoted change text = text := by
  have same : mapUnquoted change text =
      (segments text).flatMap Segment.text := by
    refine List.flatMap_congr fun segment member => ?_
    cases segment with
    | code run => exact unchanged run member
    | literal => rfl
  rw [same, segments_text]

/-- The changed line is read with the changed runs, the same literals and the
same comment. -/
theorem splitComment_mapUnquoted (keeps : KeepsCode change)
    {line code comment : Text}
    (split : splitComment ['#'] line = (code, comment)) :
    splitComment ['#'] (mapUnquoted change code ++ comment) =
      (mapUnquoted change code, comment) ∧
      segments (mapUnquoted change code) =
        (segments code).map (Segment.changed change) := by
  have unsigned := unsigned_splitComment ['#'] line
  have signed := isComment_splitComment line
  have closed := (splitComment_eq_iff.mp split).2.2
  rw [split] at unsigned signed
  have segmented := segmented_of_unsigned unsigned
  have changed := segmented.mapUnquoted keeps
  refine ⟨changed.splitComment signed fun some => ?_, changed.segments⟩
  exact (segmented.after_mapUnquoted keeps).mpr (closed some).1

end Scan

end LintMend
