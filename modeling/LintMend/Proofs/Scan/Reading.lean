import LintMend.Text.Basic

/-!
# Reading one line as the language does

A line is read into the code outside its string literals, the literals with
their marks, and the comment. A mark is one quote or three of them; the literal
ends at the next such mark, where a backslash hides the character behind it.
Letters in front of a mark belong to the code. A line on which some literal does
not end has no reading.
-/

namespace LintMend

namespace Text

theorem after?_eq_some {start text rest : Text} :
    after? start text = some rest ↔ text = start ++ rest := by
  induction start generalizing text with
  | nil => simp [after?, eq_comm]
  | cons s start induction =>
      cases text with
      | nil => simp [after?]
      | cons c text =>
          rw [after?, List.cons_append, List.cons.injEq]
          split
          · next same => rw [induction, and_iff_right same.symm]
          · next differs => simp [Ne.symm differs]

end Text

/-- A string literal, without the letters in front. -/
structure Literal where
  /-- What it opens and closes with. -/
  mark : Text
  body : Text
  deriving DecidableEq, Repr

namespace Literal

def text (literal : Literal) : Text :=
  literal.mark ++ literal.body ++ literal.mark

def isQuote (c : Char) : Bool :=
  c == '"' || c == '\''

/-- The mark that a quote begins, given what follows the quote. -/
def markOf (quote : Char) (rest : Text) : Text :=
  if [quote, quote].isPrefixOf rest then [quote, quote, quote] else [quote]

theorem markOf_cases (quote : Char) (rest : Text) :
    (markOf quote rest = [quote, quote, quote] ∧ [quote, quote] <+: rest) ∨
      markOf quote rest = [quote] ∧ ¬ [quote, quote] <+: rest := by
  unfold markOf
  split
  · next twice => exact .inl ⟨rfl, List.isPrefixOf_iff_prefix.mp twice⟩
  · next once =>
      exact .inr ⟨rfl, fun twice => once (List.isPrefixOf_iff_prefix.mpr twice)⟩

/-- Splits what follows an opening mark at the mark that closes it. The flag
tells whether the next character is hidden. -/
def close? (mark : Text) : Bool → Text → Option (Text × Text)
  | _, [] => none
  | true, c :: rest => (close? mark false rest).map (Prod.map (c :: ·) id)
  | false, c :: rest =>
    match Text.after? mark (c :: rest) with
    | some behind => some ([], behind)
    | none => (close? mark (c == '\\') rest).map (Prod.map (c :: ·) id)

/-- The quote stands in the text only where it is hidden, and the end of the
text is not. -/
def hides (quote : Char) : Bool → Text → Bool
  | hidden, [] => !hidden
  | true, _ :: rest => hides quote false rest
  | false, c :: rest => c != quote && hides quote (c == '\\') rest

def isTriple (literal : Literal) : Bool :=
  literal.mark.length == 3

/-- The quote of the mark stands in the body behind backslashes only. -/
def isPlain (literal : Literal) : Bool :=
  literal.mark.all fun quote => hides quote false literal.body

theorem close?_eq_some {mark text body behind : Text} {hidden : Bool}
    (closed : close? mark hidden text = some (body, behind)) :
    text = body ++ mark ++ behind := by
  induction text generalizing hidden body with
  | nil => cases closed
  | cons c rest induction =>
      have further {hidden : Bool}
          (closed : (close? mark hidden rest).map (Prod.map (c :: ·) id) =
            some (body, behind)) :
          c :: rest = body ++ mark ++ behind := by
        obtain ⟨⟨inner, _⟩, found, same⟩ := Option.map_eq_some_iff.mp closed
        cases same
        rw [List.cons_append, List.cons_append]
        exact congrArg (c :: ·) (induction found)
      cases hidden with
      | true => exact further closed
      | false =>
          rw [close?] at closed
          split at closed
          · next here =>
              cases closed
              exact Text.after?_eq_some.mp here
          · exact further closed

/-- Reads the literal that a quote opens, given what follows the quote. -/
def open? (quote : Char) (rest : Text) : Option (Literal × Text) :=
  let mark := markOf quote rest
  (close? mark false (rest.drop (mark.length - 1))).map fun (body, behind) =>
    (⟨mark, body⟩, behind)

theorem open?_eq_some {quote : Char} {rest behind : Text} {literal : Literal}
    (opened : open? quote rest = some (literal, behind)) :
    quote :: rest = literal.text ++ behind := by
  obtain ⟨⟨body, _⟩, closed, same⟩ := Option.map_eq_some_iff.mp opened
  cases same
  have inside := close?_eq_some closed
  rcases markOf_cases quote rest with ⟨mark, twice⟩ | ⟨mark, _⟩
  · obtain ⟨inner, rfl⟩ := twice
    rw [mark] at inside ⊢
    exact congrArg (quote :: quote :: quote :: ·) inside
  · rw [mark] at inside ⊢
    exact congrArg (quote :: ·) inside

theorem mark_of_open? {quote : Char} {rest behind : Text} {literal : Literal}
    (opened : open? quote rest = some (literal, behind)) :
    literal.mark = markOf quote rest := by
  obtain ⟨⟨body, _⟩, -, same⟩ := Option.map_eq_some_iff.mp opened
  cases same
  rfl

theorem length_of_open? {quote : Char} {rest behind : Text} {literal : Literal}
    (opened : open? quote rest = some (literal, behind)) :
    behind.length < rest.length + 1 := by
  have whole := congrArg List.length (open?_eq_some opened)
  have marked : 0 < literal.mark.length := by
    rw [mark_of_open? opened]
    rcases markOf_cases quote rest with ⟨mark, -⟩ | ⟨mark, -⟩ <;> simp [mark]
  simp only [text, List.length_append, List.length_cons] at whole
  omega

/-- In single quotes, a body ends at the first quote that is not hidden. -/
theorem hides_of_close? {quote : Char} {text body behind : Text} {hidden : Bool}
    (closed : close? [quote] hidden text = some (body, behind)) :
    hides quote hidden body = true := by
  induction text generalizing hidden body with
  | nil => cases closed
  | cons c rest induction =>
      cases hidden with
      | true =>
          obtain ⟨⟨inner, _⟩, found, same⟩ := Option.map_eq_some_iff.mp closed
          cases same
          rw [hides]
          exact induction found
      | false =>
          rw [close?] at closed
          split at closed
          · cases closed
            rfl
          · next elsewhere =>
              obtain ⟨⟨inner, _⟩, found, same⟩ :=
                Option.map_eq_some_iff.mp closed
              cases same
              have other : c ≠ quote := by
                rintro rfl
                cases elsewhere.symm.trans (Text.after?_eq_some.mpr rfl)
              rw [hides, induction found, Bool.and_true, bne_iff_ne]
              exact other

/-- A body that hides the quote goes to the mark behind it. -/
theorem close?_of_hides {quote : Char} {body : Text} {hidden : Bool}
    (hides : hides quote hidden body = true) (more behind : Text) :
    close? (quote :: more) hidden (body ++ (quote :: more) ++ behind) =
      some (body, behind) := by
  induction body generalizing hidden with
  | nil =>
      cases hidden with
      | true => cases hides
      | false =>
          have here : Text.after? (quote :: more) (quote :: (more ++ behind)) =
              some behind :=
            Text.after?_eq_some.mpr rfl
          simp [close?, here]
  | cons c rest induction =>
      cases hidden with
      | true =>
          rw [List.cons_append, List.cons_append, close?, induction hides]
          rfl
      | false =>
          rw [Literal.hides, Bool.and_eq_true, bne_iff_ne] at hides
          have elsewhere : Text.after? (quote :: more)
                (c :: (rest ++ (quote :: more) ++ behind)) =
              none := by
            rw [Text.after?, if_neg (Ne.symm hides.1)]
          simp only [List.cons_append] at elsewhere induction ⊢
          simp only [close?, elsewhere, induction hides.2]
          rfl

end Literal

/-- What a line is made of. -/
structure LineReading where
  /-- What is outside literals and the comment. -/
  code : Text
  literals : List Literal
  /-- The comment with the sign in front of it. -/
  comment : Text
  deriving DecidableEq, Repr

namespace LineReading

open Literal

def addCode (c : Char) (reading : LineReading) : LineReading :=
  { reading with code := c :: reading.code }

def addLiteral (literal : Literal) (reading : LineReading) : LineReading :=
  { reading with literals := literal :: reading.literals }

def ofText? (text : Text) : Option LineReading :=
  match text with
  | [] => some { code := [], literals := [], comment := [] }
  | c :: rest =>
    if c = '#' then some { code := [], literals := [], comment := c :: rest }
    else if isQuote c then
      match open? c rest with
      | none => none
      | some (literal, behind) =>
        if behind.length < rest.length + 1 then
          (ofText? behind).map (addLiteral literal)
        else none
    else (ofText? rest).map (addCode c)
termination_by text.length

end LineReading

end LintMend
