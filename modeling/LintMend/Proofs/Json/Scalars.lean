import LintMend.Json.Reader
import LintMend.Proofs.Text.Digits

/-!
# Scalars read back

A quoted string is read as the string that it quotes, character by character. A
numeral is read as its pieces, wherever it ends; what a number is worth is left
to its pieces.
-/

namespace LintMend.JsonText

/-- What may come behind a value: nothing, a blank, or a mark of the list or
object around. -/
def Ends (behind : Text) : Prop :=
  ∀ c ∈ behind.head?, isBlank c = true ∨ c = ',' ∨ c = ']' ∨ c = '}'

theorem ends_cons {c : Char} (rest : Text)
    (mark : isBlank c = true ∨ c = ',' ∨ c = ']' ∨ c = '}') :
    Ends (c :: rest) := by
  simpa [Ends] using mark

/-! ## Strings -/

private theorem hexUnit?_control : ∀ n < 32,
    hexUnit? '0' '0' (Json.hexDigit (n / 16)) (Json.hexDigit n) = some n := by
  decide

/-- An escaped character is read as the character. -/
@[simp]
theorem readPieces_escape (c : Char) (behind : Text) :
    readPieces (Json.escape c ++ behind) =
      (readPieces behind).map fun (pieces, rest) =>
      (.char c :: pieces, rest) := by
  unfold Json.escape
  split_ifs with quote backslash feed back tab bell form control
  · simp [readPieces, simpleEscape?, quote]
  · simp [readPieces, simpleEscape?, backslash]
  · simp [readPieces, simpleEscape?, feed]
  · simp [readPieces, simpleEscape?, back]
  · simp [readPieces, simpleEscape?, tab]
  · have same : c = '\x08' := by rw [← c.ofNat_toNat, bell]
    simp [readPieces, simpleEscape?, same]
  · have same : c = '\x0c' := by rw [← c.ofNat_toNat, form]
    simp [readPieces, simpleEscape?, same]
  · have unit : Piece.ofUnit c.toNat = .char c := by
      rw [Piece.ofUnit, if_neg (by omega), if_neg (by omega), c.ofNat_toNat]
    simp [readPieces, hexUnit?_control _ control, unit]
  · rw [List.singleton_append, readPieces.eq_5 c behind quote, if_neg control]
    · rintro a b c d rest rfl
      exact absurd rfl backslash
    · rintro d rest rfl
      exact absurd rfl backslash

@[simp]
theorem readString_escaped (text behind : Text) :
    readString (text.flatMap Json.escape ++ '"' :: behind) =
      some (some text, behind) := by
  suffices pieces : readPieces (text.flatMap Json.escape ++ '"' :: behind) =
      some (text.map .char, behind) by
    have joined : joinPieces (text.map Piece.char) = some text := by
      clear pieces
      induction text with
      | nil => rfl
      | cons c text induction => simp [joinPieces, induction]
    simp [readString, pieces, joined]
  induction text with
  | nil => simp [readPieces]
  | cons c text induction =>
      rw [List.flatMap_cons, List.append_assoc, readPieces_escape, induction]
      rfl

@[simp]
theorem toList_quoted (text : String) :
    (Json.quoted text).toList = '"' ::
      (text.toList.flatMap Json.escape ++ ['"']) := by
  simp [Json.quoted]

@[simp]
theorem readScalar?_quoted (text : String) (behind : Text) :
    readScalar? ((Json.quoted text).toList ++ behind) =
      some (.string (some text), behind) := by
  rw [toList_quoted, List.cons_append, List.append_assoc, List.singleton_append,
    readScalar?, readString_escaped]
  simp

/-! ## Numerals -/

/-- The digits as numbers. -/
def digitsOf (text : Text) : List Nat :=
  text.map fun c => c.toNat - 48

def fractionText (fraction : Option Text) : Text :=
  (fraction.map ('.' :: ·)).getD []

def exponentText (exponent : Option (Bool × Text)) : Text :=
  (exponent.map fun (down, digits) =>
    'e' :: (if down then '-' else '+') :: digits).getD []

/-- A run of digits, at least one. -/
def IsRun (text : Text) : Prop :=
  text ≠ [] ∧ ∀ c ∈ text, c.isDigit = true

/-- A whole part without a zero in front, unless it is zero. -/
def IsWhole (whole : Text) : Prop :=
  IsRun whole ∧ (whole.head? = some '0' → whole.length = 1)

/-- The digits of a numeral around its point, and the sign and the digits of its
exponent. -/
structure Figures where
  whole : Text
  fraction : Option Text
  exponent : Option (Bool × Text)

structure Figures.Proper (figures : Figures) : Prop where
  whole : IsWhole figures.whole
  fraction : ∀ digits ∈ figures.fraction, IsRun digits
  exponent : ∀ found ∈ figures.exponent, IsRun found.2

def Figures.text (negative : Bool) (figures : Figures) : Text :=
  (if negative then ['-'] else [])
    ++ (figures.whole
        ++ (fractionText figures.fraction ++ exponentText figures.exponent))

def Figures.numeral (negative : Bool) (figures : Figures) : Numeral where
  negative
  whole := digitsOf figures.whole
  fraction := figures.fraction.map digitsOf
  exponent := figures.exponent.map fun (down, digits) => (down, digitsOf digits)

theorem Ends.endsDigits {behind : Text} (ended : Ends behind) :
    Text.EndsDigits behind := by
  intro c member
  rcases ended c member with blank | rfl | rfl | rfl
  · simp only [isBlank, Bool.or_eq_true, beq_iff_eq] at blank
    rcases blank with ((rfl | rfl) | rfl) | rfl <;> rfl
  all_goals rfl

theorem takeDigits_append {text behind : Text}
    (digits : ∀ c ∈ text, c.isDigit = true) (ended : Text.EndsDigits behind) :
    takeDigits (text ++ behind) = (digitsOf text, behind) := by
  rw [takeDigits, Text.takeWhile_isDigit digits ended,
    Text.dropWhile_isDigit digits ended, digitsOf]

theorem readExponent?_none {behind : Text} (ended : Ends behind) :
    readExponent? behind = some (none, behind) := by
  cases behind with
  | nil => rfl
  | cons c rest =>
      have apart : ¬ (c = 'e' ∨ c = 'E') := by
        rintro (rfl | rfl) <;> simpa [isBlank] using ended _ rfl
      unfold readExponent?
      exact if_neg apart

theorem readExponent?_text {exponent : Option (Bool × Text)} {behind : Text}
    (runs : ∀ found ∈ exponent, IsRun found.2) (ended : Ends behind) :
    readExponent? (exponentText exponent ++ behind) =
      some (exponent.map fun (down, digits) =>
        (down, digitsOf digits), behind) := by
  cases exponent with
  | none => exact readExponent?_none ended
  | some found =>
      obtain ⟨down, digits⟩ := found
      have run : IsRun digits := runs _ rfl
      obtain ⟨first, rest, rfl⟩ := List.exists_cons_of_ne_nil run.1
      have taken := takeDigits_append run.2 ended.endsDigits
      cases down
      all_goals
        simp only [exponentText, Option.map_some, Option.getD_some,
          List.cons_append] at taken ⊢
        simp only [readExponent?, true_or, if_true, if_false,
          Bool.false_eq_true, taken]
        rfl

/-- What may come behind the digits in front of an exponent. -/
theorem head_exponentText {exponent : Option (Bool × Text)} {behind : Text}
    (ended : Ends behind) {c : Char}
    (head : (exponentText exponent ++ behind).head? = some c) :
    c.isDigit = false ∧ c ≠ '.' := by
  cases exponent with
  | none =>
      refine ⟨ended.endsDigits c head, ?_⟩
      rintro rfl
      simpa [isBlank] using ended _ head
  | some found =>
      obtain rfl : 'e' = c := by simpa [exponentText] using head
      decide

theorem readFraction?_text {fraction : Option Text}
    {exponent : Option (Bool × Text)} {behind : Text}
    (runs : ∀ digits ∈ fraction, IsRun digits) (ended : Ends behind) :
    readFraction? (fractionText fraction ++ (exponentText exponent ++ behind)) =
      some (fraction.map digitsOf, exponentText exponent ++ behind) := by
  cases fraction with
  | none =>
      simp only [fractionText, Option.map_none, Option.getD_none,
        List.nil_append]
      unfold readFraction?
      split
      next rest same =>
        exact absurd rfl (head_exponentText ended (by rw [same]; rfl)).2
      next => rfl
  | some digits =>
      have run : IsRun digits := runs _ rfl
      have taken :
          takeDigits (digits ++ (exponentText exponent ++ behind)) = _ :=
        takeDigits_append run.2 fun c head => (head_exponentText ended head).1
      obtain ⟨first, rest, rfl⟩ := List.exists_cons_of_ne_nil run.1
      simp only [fractionText, Option.map_some, Option.getD_some,
        List.cons_append] at taken ⊢
      simp only [readFraction?, taken]
      rfl

theorem endsDigits_fractionText {behind : Text} (ended : Ends behind)
    (fraction : Option Text) (exponent : Option (Bool × Text)) :
    Text.EndsDigits (fractionText fraction ++
        (exponentText exponent ++ behind)) := by
  cases fraction with
  | none => exact fun c head => (head_exponentText ended head).1
  | some digits => exact Text.endsDigits_cons rfl _

private theorem not_refused {whole : Text} (isWhole : IsWhole whole) :
    ¬ ((digitsOf whole).isEmpty ||
      decide ((digitsOf whole).head? = some 0) &&
      decide (1 < (digitsOf whole).length)) := by
  obtain ⟨⟨some, digits⟩, front⟩ := isWhole
  obtain ⟨first, rest, rfl⟩ := List.exists_cons_of_ne_nil some
  have high : 48 ≤ first.toNat := by
    have digit := digits first List.mem_cons_self
    simp only [Char.isDigit, Bool.and_eq_true, decide_eq_true_eq] at digit
    exact digit.1
  have zero : first.toNat - 48 = 0 → first = '0' := by
    intro low
    rw [← first.ofNat_toNat, show first.toNat = 48 by omega]
  simp only [digitsOf, List.map_cons, List.isEmpty_cons, Bool.false_or,
    List.head?_cons, Option.some.injEq, List.length_cons, List.length_map,
    Bool.and_eq_true, decide_eq_true_eq, not_and] at front ⊢
  intro low
  have single := front (zero low)
  omega

theorem readNumber?_text (negative : Bool) {figures : Figures} {behind : Text}
    (proper : figures.Proper) (ended : Ends behind) :
    readNumber? (figures.text negative ++ behind) =
      some ((figures.numeral negative).data, behind) := by
  obtain ⟨whole, fraction, exponent⟩ := figures
  obtain ⟨isWhole, behindPoint, behindMark⟩ := proper
  simp only at isWhole behindPoint behindMark
  have taken :=
    takeDigits_append isWhole.1.2
      (endsDigits_fractionText ended fraction exponent)
  have accepted := not_refused isWhole
  obtain ⟨first, rest, rfl⟩ := List.exists_cons_of_ne_nil isWhole.1.1
  have unsigned : first ≠ '-' := by
    rintro rfl
    exact absurd (isWhole.1.2 _ List.mem_cons_self) (by decide)
  cases negative with
  | true =>
      simp only [Figures.text, Figures.numeral, if_true, List.cons_append,
        List.nil_append, List.append_assoc] at taken ⊢
      simp only [readNumber?, taken, if_neg accepted,
        readFraction?_text behindPoint ended,
        readExponent?_text behindMark ended, Option.bind_eq_bind,
        Option.bind_some]
  | false =>
      simp only [Figures.text, Figures.numeral, Bool.false_eq_true, if_false,
        List.nil_append, List.cons_append, List.append_assoc] at taken ⊢
      unfold readNumber?
      split
      next negative magnitude sign =>
        split at sign
        next same => exact absurd (List.cons.inj same).1 unsigned
        next =>
          obtain ⟨rfl, rfl⟩ := Prod.mk.inj sign
          simp only [taken, if_neg accepted,
            readFraction?_text behindPoint ended,
            readExponent?_text behindMark ended, Option.bind_eq_bind,
            Option.bind_some]

end LintMend.JsonText
