import LintMend.Proofs.Scan.Reading
import LintMend.Scan

/-!
# Literals as the scanners see them

To the scanners a literal is a stroke: one quote, and all up to the next one
that is not hidden. Each of them passes over strokes without a change, and goes
on behind them in code.
-/

namespace LintMend

namespace Quoting

theorem isQuote_eq (c : Char) :
    isQuote c = (Literal.isQuote c || c == graveAccent) :=
  rfl

/-- From inside a literal the text leads to its end, and no further. -/
inductive Closes : Quoting → Text → Prop
  | last {quote c : Char} {escaped : Bool} :
      step (.literal quote escaped) c = .code →
          Closes (.literal quote escaped) [c]
  | next {quote c : Char} {escaped : Bool} {rest : Text} :
      step (.literal quote escaped) c ≠ .code →
          Closes (step (.literal quote escaped) c) rest →
      Closes (.literal quote escaped) (c :: rest)

theorem ne_backslash_of_isQuote {quote : Char} (opens : isQuote quote = true) :
    quote ≠ '\\' := by
  rintro rfl
  cases opens

theorem step_quote {quote : Char} (opens : isQuote quote = true) :
    step (.literal quote false) quote = .code := by
  simp [step, ne_backslash_of_isQuote opens]

theorem step_of_ne {quote c : Char} (other : c ≠ quote) :
    step (.literal quote false) c = .literal quote (c == '\\') := by
  by_cases backslash : c = '\\' <;> simp [step, backslash, other]

theorem closes_of_hides {quote : Char} (opens : isQuote quote = true)
    {body : Text} {hidden : Bool}
    (hides : Literal.hides quote hidden body = true) :
    Closes (.literal quote hidden) (body ++ [quote]) := by
  -- along the body, the flag of `hides` is the one of the state
  induction body generalizing hidden with
  | nil =>
      cases hidden with
      | true => cases hides
      | false => exact .last (step_quote opens)
  | cons c rest induction =>
      cases hidden with
      | true => exact .next Quoting.noConfusion (induction hides)
      | false =>
          rw [Literal.hides, Bool.and_eq_true, bne_iff_ne] at hides
          have inside := step_of_ne hides.1
          refine .next ?_ ?_
          · rw [inside]
            exact Quoting.noConfusion
          · rw [inside]
            exact induction hides.2

/-- What leads to the end of a literal is a body that hides the quote, and the
quote. -/
theorem hides_of_closes {quote : Char} (opens : isQuote quote = true)
    {hidden : Bool} {text : Text}
    (closes : Closes (.literal quote hidden) text) :
    ∃ body, text = body ++ [quote] ∧
      Literal.hides quote hidden body = true := by
  induction text generalizing hidden with
  | nil => cases closes
  | cons c rest induction =>
      cases hidden with
      | true =>
          cases closes with
          | last ends => cases ends
          | next _ further =>
              obtain ⟨body, rfl, hides⟩ := induction further
              exact ⟨c :: body, rfl, hides⟩
      | false =>
          by_cases same : c = quote
          · subst same
            cases closes with
            | last => exact ⟨[], rfl, rfl⟩
            | next stays => exact absurd (step_quote opens) stays
          · have inside := step_of_ne same
            cases closes with
            | last ends =>
                rw [inside] at ends
                cases ends
            | next _ further =>
                rw [inside] at further
                obtain ⟨body, rfl, hides⟩ := induction further
                refine ⟨c :: body, rfl, ?_⟩
                rw [Literal.hides, hides, Bool.and_true, bne_iff_ne]
                exact same

end Quoting

namespace Scan

open Quoting (Closes)

/-- A literal to the scanners: one quote, and what leads from there to
its end. -/
def IsStroke (text : Text) : Prop :=
  ∃ quote rest, text = quote :: rest ∧ Quoting.isQuote quote = true ∧
    Closes (.literal quote false) rest

/-- A character of code: no quote, and not the sign of a comment. -/
def isCode (c : Char) : Bool :=
  !Quoting.isQuote c && c != '#'

theorem isCode_iff {c : Char} :
    isCode c = true ↔ Quoting.isQuote c = false ∧ c ≠ '#' := by
  rw [isCode, Bool.and_eq_true, Bool.not_eq_true', bne_iff_ne]

theorem unquoted_of_isCode {run : Text} (code : ∀ c ∈ run, isCode c = true) :
    ∀ c ∈ run, Quoting.isQuote c = false :=
  fun c member => (isCode_iff.mp (code c member)).1

theorem isQuote_of_isCode {c : Char} (code : isCode c = true) :
    Literal.isQuote c = false := by
  have unquoted := (isCode_iff.mp code).1
  rw [Quoting.isQuote_eq, Bool.or_eq_false_iff] at unquoted
  exact unquoted.1

theorem step_of_isCode {c : Char} (code : isCode c = true) :
    Quoting.step .code c = .code := by
  rw [Quoting.step, (isCode_iff.mp code).1, if_neg Bool.false_ne_true]

theorem not_marked {c : Char} (noSign : c ≠ '#') (rest : Text) :
    ¬ ['#'].isPrefixOf (c :: rest) := by
  intro marked
  simp only [List.isPrefixOf, Bool.and_true, beq_iff_eq] at marked
  exact noSign marked.symm

theorem splitCommentFrom_of_closes {place : Quoting} {text : Text}
    (closes : Closes place text) (marker rest : Text) :
    splitCommentFrom marker place (text ++ rest) =
      (splitCommentFrom marker .code rest).map (text ++ ·) id := by
  induction closes with
  | last ends => simp [splitCommentFrom, ends, Prod.map]
  | next stays _ induction =>
      rw [List.cons_append, splitCommentFrom, if_neg nofun, induction]
      rfl

theorem segmentsFrom_of_closes {place : Quoting} {text : Text}
    (closes : Closes place text) (rest : Text) :
    segmentsFrom place (text ++ rest) =
      .literal text :: segmentsFrom .code rest := by
  induction closes with
  | last ends => simp [segmentsFrom, ends]
  | next stays _ induction =>
      rw [List.cons_append, segmentsFrom]
      simp only [if_neg stays, induction]
      rfl

theorem topLevelMarksFrom_of_closes {place : Quoting} {text : Text}
    (closes : Closes place text) (target : Char) (marker : Text) (depth : Nat)
    (rest : Text) :
    topLevelMarksFrom target marker place depth (text ++ rest) =
      List.replicate text.length false ++
      topLevelMarksFrom target marker .code depth rest := by
  induction closes with
  | last ends => simp [topLevelMarksFrom, ends]
  | next _ _ induction =>
      rw [List.cons_append, topLevelMarksFrom, induction]
      rfl

theorem ne_sign_of_isQuote {c : Char}
    (isQuote : Quoting.isQuote c = true) : c ≠ '#' := by
  rintro rfl
  cases isQuote

theorem IsStroke.splitCommentFrom {stroke : Text} (isStroke : IsStroke stroke)
    (rest : Text) :
    splitCommentFrom ['#'] .code (stroke ++ rest) =
      (splitCommentFrom ['#'] .code rest).map (stroke ++ ·) id := by
  obtain ⟨quote, inside, rfl, opens, closes⟩ := isStroke
  have unmarked := not_marked (ne_sign_of_isQuote opens) (inside ++ rest)
  rw [List.cons_append, Scan.splitCommentFrom, if_neg (unmarked ·.2),
    Quoting.step, if_pos opens, splitCommentFrom_of_closes closes]
  rfl

theorem IsStroke.segmentsFrom {stroke : Text} (isStroke : IsStroke stroke)
    (rest : Text) :
    segmentsFrom .code (stroke ++ rest) =
      .code [] :: .literal stroke :: segmentsFrom .code rest := by
  obtain ⟨quote, inside, rfl, opens, closes⟩ := isStroke
  rw [List.cons_append, Scan.segmentsFrom, Quoting.step]
  simp only [if_pos opens, segmentsFrom_of_closes closes]
  rfl

theorem depthBehind_of_isQuote {c : Char} (isQuote : Quoting.isQuote c = true)
    (depth : Nat) :
    depthBehind depth c = depth := by
  simp only [Quoting.isQuote, Bool.or_eq_true, beq_iff_eq, or_assoc] at isQuote
  rcases isQuote with rfl | rfl | rfl <;> rfl

theorem IsStroke.topLevelMarksFrom {stroke : Text} (isStroke : IsStroke stroke)
    (target : Char) (depth : Nat) (rest : Text) :
    topLevelMarksFrom target ['#'] .code depth (stroke ++ rest) =
      List.replicate stroke.length false ++
      topLevelMarksFrom target ['#'] .code depth rest := by
  obtain ⟨quote, inside, rfl, opens, closes⟩ := isStroke
  have unmarked := not_marked (ne_sign_of_isQuote opens) (inside ++ rest)
  rw [List.cons_append, Scan.topLevelMarksFrom, if_neg unmarked,
    depthBehind_of_isQuote opens, Quoting.step, if_pos opens,
    topLevelMarksFrom_of_closes closes, opens]
  rfl

theorem splitCommentFrom_strokes {strokes : List Text}
    (areStrokes : ∀ stroke ∈ strokes, IsStroke stroke) (rest : Text) :
    splitCommentFrom ['#'] .code (strokes.flatten ++ rest) =
      (splitCommentFrom ['#'] .code rest).map (strokes.flatten ++ ·) id := by
  induction strokes with
  | nil => rfl
  | cons stroke strokes induction =>
      obtain ⟨first, others⟩ := List.forall_mem_cons.mp areStrokes
      have more := induction others
      rw [List.flatten_cons, List.append_assoc, first.splitCommentFrom, more]
      simp [Prod.map]

theorem topLevelMarksFrom_strokes {strokes : List Text}
    (areStrokes : ∀ stroke ∈ strokes, IsStroke stroke) (target : Char)
    (depth : Nat) (rest : Text) :
    topLevelMarksFrom target ['#'] .code depth (strokes.flatten ++ rest) =
      List.replicate strokes.flatten.length false ++
        topLevelMarksFrom target ['#'] .code depth rest := by
  induction strokes with
  | nil => rfl
  | cons stroke strokes induction =>
      obtain ⟨first, others⟩ := List.forall_mem_cons.mp areStrokes
      have more := induction others
      rw [List.flatten_cons, List.append_assoc, first.topLevelMarksFrom, more,
        List.length_append, ← List.replicate_append_replicate,
        List.append_assoc]

theorem segmentsFrom_of_unquoted {run rest front : Text} {behind : List Segment}
    (unquoted : ∀ c ∈ run, Quoting.isQuote c = false)
    (begins : segmentsFrom .code rest = .code front :: behind) :
    segmentsFrom .code (run ++ rest) = .code (run ++ front) :: behind := by
  induction run with
  | nil => exact begins
  | cons c run induction =>
      obtain ⟨here, others⟩ := List.forall_mem_cons.mp unquoted
      have later := induction others
      rw [List.cons_append, Scan.segmentsFrom, Quoting.step]
      simp only [here, later, if_neg Bool.false_ne_true]
      rfl

theorem segments_of_unquoted {run : Text}
    (unquoted : ∀ c ∈ run, Quoting.isQuote c = false) :
    segments run = [.code run] := by
  have whole : segmentsFrom .code (run ++ []) = [.code (run ++ [])] :=
    segmentsFrom_of_unquoted unquoted rfl
  rwa [List.append_nil] at whole

theorem segments_of_stroke {run stroke : Text}
    (unquoted : ∀ c ∈ run, Quoting.isQuote c = false)
    (isStroke : IsStroke stroke) (rest : Text) :
    segments (run ++ (stroke ++ rest)) =
      .code run :: .literal stroke :: segments rest := by
  rw [segments, segmentsFrom_of_unquoted unquoted (isStroke.segmentsFrom rest),
    List.append_nil]
  rfl

theorem cutAtMarks_append {text : Text} {marks : List Bool} {piece : Text}
    {pieces : List Text} (cut : cutAtMarks text marks = piece :: pieces)
    (front : Text) :
    cutAtMarks (front ++ text) (List.replicate front.length false ++ marks) =
      (front ++ piece) :: pieces := by
  induction front with
  | nil => exact cut
  | cons c front induction =>
      rw [List.cons_append, List.length_cons, List.replicate_succ,
        List.cons_append, cutAtMarks, if_neg Bool.false_ne_true, induction]
      rfl

/-- Code stays code, and none comes from nowhere or goes away altogether. -/
structure KeepsCode (change : Text → Text) : Prop where
  code : ∀ {text}, (∀ c ∈ text, isCode c = true) → ∀ c ∈ change text,
    isCode c = true
  empty : ∀ {text}, change text = [] ↔ text = []

theorem mapUnquoted_of_isCode {change : Text → Text} {run : Text}
    (code : ∀ c ∈ run, isCode c = true) :
    mapUnquoted change run = change run := by
  rw [mapUnquoted, segments_of_unquoted (unquoted_of_isCode code)]
  exact List.append_nil _

/-- Between the strokes of a literal nothing is changed. -/
theorem mapUnquoted_strokes {change : Text → Text} (keeps : KeepsCode change)
    {run : Text} (code : ∀ c ∈ run, isCode c = true) {strokes : List Text}
    (some : strokes ≠ []) (areStrokes : ∀ stroke ∈ strokes, IsStroke stroke)
    (rest : Text) :
    mapUnquoted change (run ++ (strokes.flatten ++ rest)) =
      change run ++ (strokes.flatten ++ mapUnquoted change rest) := by
  induction strokes generalizing run with
  | nil => exact absurd rfl some
  | cons stroke strokes induction =>
      obtain ⟨first, others⟩ := List.forall_mem_cons.mp areStrokes
      have one (rest : Text) : mapUnquoted change (run ++ (stroke ++ rest)) =
          change run ++ (stroke ++ mapUnquoted change rest) := by
        rw [mapUnquoted, segments_of_stroke (unquoted_of_isCode code) first]
        rfl
      rw [List.flatten_cons, List.append_assoc, List.append_assoc, one]
      cases strokes with
      | nil => rfl
      | cons next strokes =>
          -- the scanner sees an empty run between two strokes, and it stays
          -- empty
          have more :
              mapUnquoted change ([] ++ ((next :: strokes).flatten ++ rest)) =
                change [] ++ ((next :: strokes).flatten ++
                    mapUnquoted change rest) :=
            induction (List.forall_mem_nil _)
              (List.cons_ne_nil next strokes) others
          rw [List.nil_append, keeps.empty.mpr rfl, List.nil_append] at more
          rw [more]

end Scan

end LintMend
