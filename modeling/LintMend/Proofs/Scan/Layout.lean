import LintMend.Proofs.Scan.Levels
import LintMend.Proofs.Scan.Strokes

/-!
# How quotes divide a text

Runs of code and literals stand in a text by turns. A run holds no quote, a
literal is a quote with all up to the next such quote that no backslash hides,
and a literal that nothing closes goes to the end of the text. `Layout` says so
without a reader that has a state. Every text has one layout, and the stretches
that the scanner finds are it.
-/

namespace LintMend

namespace Quoting

theorem Closes.after {place : Quoting} {text : Text}
    (closes : Closes place text) :
    place.after text = .code := by
  induction closes with
  | last ends => exact ends
  | next _ _ induction => exact induction

/-- From inside a literal the text does not lead to its end. -/
def Unclosed (place : Quoting) (text : Text) : Prop :=
  ∀ front, front <+: text → place.after front ≠ .code

theorem closes_or_unclosed {place : Quoting} (inLiteral : place ≠ .code)
    (text : Text) :
    (∃ inside rest, text = inside ++ rest ∧ Closes place inside) ∨
    Unclosed place text := by
  induction text generalizing place with
  | nil =>
      refine .inr fun front isFront => ?_
      rw [List.prefix_nil.mp isFront]
      exact inLiteral
  | cons c rest induction =>
      cases place with
      | code => exact absurd rfl inLiteral
      | literal quote escaped =>
          by_cases ends : step (.literal quote escaped) c = .code
          · exact .inl ⟨[c], rest, rfl, .last ends⟩
          · rcases induction ends with ⟨inside, behind, rfl, closes⟩ | unclosed
            · exact .inl ⟨c :: inside, behind, rfl, .next ends closes⟩
            · refine .inr fun front isFront => ?_
              cases front with
              | nil => exact inLiteral
              | cons d front =>
                  obtain ⟨rfl, further⟩ := List.cons_prefix_cons.mp isFront
                  exact unclosed front further

theorem Unclosed.behind {place : Quoting} {c : Char} {rest : Text}
    (unclosed : Unclosed place (c :: rest)) : Unclosed (place.step c) rest :=
  fun front isFront =>
    unclosed (c :: front) (List.cons_prefix_cons.mpr ⟨rfl, isFront⟩)

theorem unclosed_iff {quote : Char} (opens : isQuote quote = true)
    {inside : Text} :
    Unclosed (.literal quote false) inside ↔
      ∀ front rest, inside = front ++ quote :: rest →
      Literal.hides quote false front = false := by
  constructor
  · rintro unclosed front rest rfl
    by_contra hides
    rw [Bool.not_eq_false] at hides
    exact unclosed (front ++ [quote]) (by simp)
      (closes_of_hides opens hides).after
  · intro unhidden
    have inLiteral : literal quote false ≠ code := Quoting.noConfusion
    rcases closes_or_unclosed inLiteral inside with
      ⟨body, rest, rfl, closes⟩ | unclosed
    · obtain ⟨front, rfl, hides⟩ := hides_of_closes opens closes
      rw [unhidden front rest (by simp)] at hides
      cases hides
    · exact unclosed

theorem after_of_unquoted {run : Text}
    (unquoted : ∀ c ∈ run, isQuote c = false) :
    after .code run = .code :=
  (WellQuoted.code.after_eq_code_iff unquoted).mpr rfl

end Quoting

namespace Scan

open Quoting (Unclosed)

variable {text run inside : Text} {quote : Char} {found : List Segment}

theorem segmentsFrom_of_unclosed {place : Quoting}
    (unclosed : Unclosed place text) :
    segmentsFrom place text = [.literal text] := by
  induction text generalizing place with
  | nil =>
      cases place with
      | code => exact absurd rfl (unclosed [] List.nil_prefix)
      | literal => rfl
  | cons c rest induction =>
      cases place with
      | code => exact absurd rfl (unclosed [] List.nil_prefix)
      | literal quote escaped =>
          have behind := unclosed.behind
          have stays := behind [] List.nil_prefix
          rw [Quoting.after_nil] at stays
          simp only [segmentsFrom, if_neg stays, induction behind]
          rfl

theorem isStroke_iff {stroke : Text} :
    IsStroke stroke ↔ ∃ quote body, stroke = quote :: (body ++ [quote]) ∧
      Quoting.isQuote quote = true ∧ Literal.hides quote false body = true := by
  constructor
  · rintro ⟨quote, rest, rfl, opens, closes⟩
    obtain ⟨body, rfl, hides⟩ := Quoting.hides_of_closes opens closes
    exact ⟨quote, body, rfl, opens, hides⟩
  · rintro ⟨quote, body, rfl, opens, hides⟩
    exact ⟨quote, _, rfl, opens, Quoting.closes_of_hides opens hides⟩

theorem IsStroke.after {stroke : Text} (isStroke : IsStroke stroke) :
    Quoting.after .code stroke = .code := by
  obtain ⟨quote, inside, rfl, opens, closes⟩ := isStroke
  change Quoting.after (Quoting.step .code quote) inside = .code
  rw [Quoting.step, if_pos opens, closes.after]

/-- The runs of code and the literals of a text. A run, maybe an empty one,
stands in front of each literal and at the end; only a literal that nothing
closes has no run behind it. -/
inductive Layout : Text → List Segment → Prop
  | code {run : Text} : (∀ c ∈ run, Quoting.isQuote c = false) →
      Layout run [.code run]
  | unclosed {run inside : Text} {quote : Char} :
      (∀ c ∈ run, Quoting.isQuote c = false) →
        Quoting.isQuote quote = true →
        (∀ front rest, inside = front ++ quote :: rest →
          Literal.hides quote false front = false) →
        Layout (run ++ quote :: inside) [.code run, .literal (quote :: inside)]
  | closed {run body rest : Text} {quote : Char} {behind : List Segment} :
      (∀ c ∈ run, Quoting.isQuote c = false) → Quoting.isQuote quote = true →
      Literal.hides quote false body = true → Layout rest behind →
      Layout (run ++ (quote :: (body ++ [quote]) ++ rest))
        (.code run :: .literal (quote :: (body ++ [quote])) :: behind)

theorem segments_of_unclosed (unquoted : ∀ c ∈ run, Quoting.isQuote c = false)
    (opens : Quoting.isQuote quote = true)
    (unclosed : Unclosed (.literal quote false) inside) :
    segments (run ++ quote :: inside) =
      [.code run, .literal (quote :: inside)] := by
  have begins : segmentsFrom .code (quote :: inside) =
      [.code [], .literal (quote :: inside)] := by
    rw [segmentsFrom, Quoting.step]
    simp only [if_pos opens, segmentsFrom_of_unclosed unclosed]
    rfl
  rw [segments, segmentsFrom_of_unquoted unquoted begins, List.append_nil]

theorem Layout.segments_eq (layout : Layout text found) :
    segments text = found := by
  induction layout with
  | code unquoted => exact segments_of_unquoted unquoted
  | unclosed unquoted opens unhidden =>
      exact segments_of_unclosed unquoted opens
        ((Quoting.unclosed_iff opens).mpr unhidden)
  | closed unquoted opens hides _ induction =>
      have isStroke := isStroke_iff.mpr ⟨_, _, rfl, opens, hides⟩
      rw [segments_of_stroke unquoted isStroke, induction]

theorem exists_layout (text : Text) : ∃ found, Layout text found := by
  -- up to the first quote the text is code, and behind its literal it begins
  -- anew
  induction length : text.length using Nat.strong_induction_on
    generalizing text with
  | _ count induction =>
      have unquoted : ∀ c ∈ text.takeWhile (! Quoting.isQuote ·),
          Quoting.isQuote c = false :=
        fun c member => by simpa using List.mem_takeWhile_imp member
      have stops := List.head?_dropWhile_not (! Quoting.isQuote ·) text
      have whole :=
        List.takeWhile_append_dropWhile (p := (! Quoting.isQuote ·)) (l := text)
      revert unquoted stops whole
      generalize text.takeWhile (! Quoting.isQuote ·) = run,
        text.dropWhile (! Quoting.isQuote ·) = tail
      intro unquoted stops whole
      subst whole
      cases tail with
      | nil =>
          rw [List.append_nil]
          exact ⟨_, .code unquoted⟩
      | cons quote inside =>
          have opens : Quoting.isQuote quote = true := by simpa using stops
          by_cases closed : ∃ body rest, inside = body ++ quote :: rest ∧
              Literal.hides quote false body = true
          · obtain ⟨body, rest, rfl, hides⟩ := closed
            have shorter : rest.length < count := by
              rw [← length]
              simp only [List.length_append, List.length_cons]
              omega
            obtain ⟨found, layout⟩ := induction _ shorter rest rfl
            have divided := Layout.closed unquoted opens hides layout
            simp only [List.cons_append, List.append_assoc, List.nil_append]
              at divided
            exact ⟨_, divided⟩
          · have unhidden : ∀ front rest, inside = front ++ quote :: rest →
                Literal.hides quote false front = false := by
              intro front rest whole
              by_contra hides
              exact closed ⟨front, rest, whole, by simpa using hides⟩
            exact ⟨_, .unclosed unquoted opens unhidden⟩

/-- The scanner finds the one layout that a text has. -/
theorem layout_iff : Layout text found ↔ segments text = found := by
  constructor
  · exact Layout.segments_eq
  · rintro rfl
    obtain ⟨found, layout⟩ := exists_layout text
    rwa [layout.segments_eq]

end Scan

end LintMend
