import LintMend.Proofs.Fix.Feeds
import LintMend.Proofs.Scan.Levels

/-!
# The names of a declaration

A `let` declaration binds one name, and one more behind each comma that stands
outside brackets and literals in front of its end. It may go on over any number
of lines. The fix that makes it a `const` reads the first line alone, so it
keeps to declarations of a single name exactly where no such comma follows on
the other lines.
-/

namespace LintMend.Fix

open Scan (Level Outside)

/-- Outside brackets, a semicolon ends a declaration, and so does the bracket
that closes what the declaration stands in. -/
def endsDeclaration (c : Char) : Bool :=
  c == ';' || Scan.closesBracket c

def namesFrom (level : Level) : Text → Nat
  | [] => 0
  | c :: rest =>
    if level = .top ∧ endsDeclaration c = true then 0
    else (if level = .top ∧ c = ',' then 1
        else 0) + namesFrom (level.step c) rest

/-- How many names a declaration binds. It is given with all its lines and may
have more code behind its end; where a line feed ends it, the code ends there
too. Comments, regular expressions and template literals are not told from other
code. -/
def declaredNames (declaration : Text) : Nat :=
  1 + namesFrom .top declaration

/-- The declaration has not ended where the text does, and no bracket or literal
is open there. -/
structure BeforeName (level : Level) (text : Text) : Prop where
  outside : level.after text = .top
  unended : ∀ front c rest, text = front ++ c :: rest →
    level.after front = .top →
    endsDeclaration c = false

variable {level : Level} {text : Text} {c : Char}

theorem beforeName_nil : BeforeName level [] ↔ level = .top :=
  ⟨fun before => before.outside, fun top => ⟨top, by simp⟩⟩

theorem beforeName_cons {rest : Text} :
    BeforeName level (c :: rest) ↔
      ¬ (level = .top ∧ endsDeclaration c = true) ∧
      BeforeName (level.step c) rest := by
  constructor
  · intro before
    refine ⟨fun ended => ?_, before.outside, fun front d behind whole top => ?_⟩
    · exact Bool.eq_false_iff.mp (before.unended [] c rest rfl ended.1) ended.2
    · exact before.unended (c :: front) d behind (congrArg (c :: ·) whole) top
  · rintro ⟨unended, behind⟩
    refine ⟨behind.outside, fun front d more whole top => ?_⟩
    cases front with
    | nil =>
        cases whole
        exact Bool.eq_false_iff.mpr fun ended => unended ⟨top, ended⟩
    | cons e front =>
        cases whole
        exact behind.unended front d more rfl top

instance decidableBeforeName :
    (level : Level) → (text : Text) → Decidable (BeforeName level text)
  | level, [] => decidable_of_iff (level = .top) beforeName_nil.symm
  | level, c :: rest =>
    have := decidableBeforeName (level.step c) rest
    decidable_of_iff _ beforeName_cons.symm

/-- Another name follows where a comma parts it from what is in front. -/
theorem namesFrom_eq_zero_iff :
    namesFrom level text = 0 ↔
      ∀ front rest, text = front ++ ',' :: rest → ¬ BeforeName level front := by
  induction text generalizing level with
  | nil => simp [namesFrom]
  | cons c behind induction =>
      rw [namesFrom]
      split
      · next ended =>
          refine iff_of_true rfl fun front rest whole before => ?_
          cases front with
          | nil =>
              cases whole
              exact absurd ended.2 (by decide)
          | cons d front =>
              cases whole
              exact (beforeName_cons.mp before).1 ended
      · next unended =>
          rw [Nat.add_eq_zero_iff, induction]
          constructor
          · rintro ⟨here, later⟩ front rest whole before
            cases front with
            | nil =>
                cases whole
                rw [if_pos ⟨beforeName_nil.mp before, rfl⟩] at here
                cases here
            | cons d front =>
                cases whole
                exact later front rest rfl (beforeName_cons.mp before).2
          · intro none
            refine ⟨if_neg ?_, fun front rest whole before => ?_⟩
            · rintro ⟨top, rfl⟩
              exact none [] behind rfl (beforeName_nil.mpr top)
            · exact none (c :: front) rest (congrArg (c :: ·) whole)
                (beforeName_cons.mpr ⟨unended, before⟩)

theorem declaredNames_eq_one_iff :
    declaredNames text = 1 ↔
      ∀ front rest, text = front ++ ',' :: rest → ¬ BeforeName .top front := by
  rw [declaredNames, Nat.add_eq_left, namesFrom_eq_zero_iff]

theorem not_endsDeclaration_of_isBlank (blank : Text.isBlank c = true) :
    endsDeclaration c = false := by
  have plain := Scan.isPlain_of_isBlank blank
  rw [Scan.isPlain, Bool.not_eq_true', Bool.or_eq_false_iff] at plain
  rw [endsDeclaration, plain.2, Bool.or_false, beq_eq_false_iff_ne]
  rintro rfl
  cases blank

/-- Blanks and line feeds neither end a declaration nor open a bracket. -/
theorem BeforeName.append (before : BeforeName level text) {blanks : Text}
    (blank : ∀ c ∈ blanks, Text.isBlank c = true) :
    BeforeName level (text ++ blanks) := by
  induction text generalizing level with
  | nil =>
      obtain rfl := beforeName_nil.mp before
      induction blanks with
      | nil => exact before
      | cons c blanks induction =>
          obtain ⟨here, behind⟩ := List.forall_mem_cons.mp blank
          have stays := Scan.step_top (Scan.isPlain_of_isBlank here)
          refine beforeName_cons.mpr ⟨fun ended =>
            ?_, stays.symm ▸ induction behind⟩
          exact Bool.eq_false_iff.mp
            (not_endsDeclaration_of_isBlank here) ended.2
  | cons c text induction =>
      obtain ⟨unended, behind⟩ := beforeName_cons.mp before
      exact beforeName_cons.mpr ⟨unended, induction behind⟩

/-- A comma that only blanks part from an open declaration begins another
name. -/
theorem declaredNames_ne_one {front rest : Text}
    (before : BeforeName .top front)
    (follows : (Text.trimStart rest).head? = some ',') :
    declaredNames (front ++ rest) ≠ 1 := by
  obtain ⟨more, comma⟩ := List.head?_eq_some_iff.mp follows
  have whole : front ++ rest = front ++ Text.indent rest ++ ',' :: more := by
    rw [← comma, List.append_assoc, Text.indent_append_trimStart]
  intro one
  exact declaredNames_eq_one_iff.mp one _ _ whole
    (before.append (Text.blank_indent rest))

/-- If the first line has no comma between names, only the lines behind it
decide. -/
theorem declaredNames_lines_iff {code later : Text}
    (undivided : ∀ front rest, code = front ++ ',' :: rest → ¬ Outside front) :
    declaredNames (code ++ '\n' :: later) = 1 ↔
      ∀ inside more, later = inside ++ ',' :: more →
        ¬ BeforeName .top (code ++ '\n' :: inside) := by
  rw [declaredNames_eq_one_iff]
  constructor
  · intro single inside more whole
    exact single _ more (by simp [whole])
  · intro none front rest whole before
    rcases List.append_eq_append_iff.mp whole with
      ⟨behind, rfl, same⟩ | ⟨behind, split, same⟩
    · cases behind with
      | nil => cases same
      | cons d inside =>
          cases same
          exact none inside rest rfl before
    · cases behind with
      | nil => cases same
      | cons d more =>
          cases same
          exact undivided front more split before.outside

variable {buffer fixed : Buffer} {number : Nat}

theorem bindsName_of_afterLet? {code rest : Text}
    (declared : afterLet? code = some rest) :
    bindsName rest = true := by
  unfold afterLet? at declared
  split at declared
  · split at declared
    · next binds =>
        cases declared
        exact binds
    · cases declared
  · cases declared

/-- What the fix has found on the line that it changes. -/
theorem letToConst_read {text : Text} (found : buffer.line? number = some text)
    (applied : letToConst buffer number = .ok fixed) :
    let code := (Scan.splitComment ['/', '/'] text).1
    let comment := (Scan.splitComment ['/', '/'] text).2
    ∃ rest, code = Text.indent code ++ "let".toList ++ rest ∧
    bindsName rest = true ∧
      (∀ front behind, code = front ++ ',' :: behind → ¬ Outside front) ∧
      fixed = buffer.setLine number
        (Text.indent code ++ "const".toList ++ rest ++ comment) := by
  obtain ⟨line, code, comment, rest, there, split, declared, undivided, rfl⟩ :=
    letToConst_eq_ok applied
  obtain rfl : text = line := Option.some.inj (found.symm.trans there)
  simp only [split]
  refine ⟨rest, ?_, bindsName_of_afterLet? declared,
    fun front behind whole outside => ?_, rfl⟩
  · have whole := Text.indent_append_trimStart code
    rw [trimStart_of_afterLet? declared, ← List.append_assoc] at whole
    exact whole.symm
  · have unsigned := Scan.unsigned_splitComment ['/', '/'] text
    rw [split] at unsigned
    exact Bool.eq_false_iff.mp undivided
      ((Scan.hasTopLevel_iff rfl unsigned).mpr ⟨front, behind, whole, outside⟩)

/-- Where the fix is made, nothing changes but the word `let` on its line, which
begins a declaration that gives a name a value. On its own line the declaration
has no other name. With the lines behind it the declaration still has one name
exactly if no comma stands there outside brackets and literals and in front of
its end. So it has more names where a comma begins the next line that is not
blank, or follows the bracket that closes what the line has left open. -/
theorem letToConst_single_iff {text : Text}
    (found : buffer.line? number = some text)
    (applied : letToConst buffer number = .ok fixed) :
    let code := (Scan.splitComment ['/', '/'] text).1
    let comment := (Scan.splitComment ['/', '/'] text).2
    (∃ front line behind indent rest,
      buffer.lines = front ++ line :: behind ∧ number = front.length + 1 ∧
      line.text = text ∧
      code = indent ++ "let".toList ++ rest ∧ Text.blank indent = true ∧
      bindsName rest = true ∧
      fixed = { buffer with
        lines := front ++ ⟨indent ++ "const".toList ++ rest ++ comment,
          line.ending⟩ :: behind }) ∧
    declaredNames code = 1 ∧
    (∀ later, declaredNames (code ++ '\n' :: later) = 1 ↔
      ∀ inside more, later = inside ++ ',' :: more →
        ¬ BeforeName .top (code ++ '\n' :: inside)) ∧
    ∀ inside more, BeforeName .top (code ++ '\n' :: inside) →
      (Text.trimStart more).head? = some ',' →
      declaredNames (code ++ '\n' :: (inside ++ more)) ≠ 1 := by
  intro code comment
  obtain ⟨rest, begins, binds, undivided, rfl⟩ := letToConst_read found applied
  refine ⟨?onlyChange, ?_, fun later =>
    declaredNames_lines_iff undivided, ?layouts⟩
  case onlyChange =>
    obtain ⟨front, line, behind, whole, rfl, rfl⟩ := Buffer.lines_of_line? found
    refine ⟨front, line, behind, Text.indent code, rest, whole, rfl, rfl,
      begins, ?_, binds, ?_⟩
    · exact List.all_eq_true.mpr (Text.blank_indent code)
    · rw [(Buffer.spliced_setLine found _).eq_of_lines whole, List.append_assoc]
      rfl
  case layouts =>
    intro inside more before follows
    have several := declaredNames_ne_one before follows
    rwa [List.append_assoc, List.cons_append] at several
  · exact declaredNames_eq_one_iff.mpr fun front rest whole before =>
      undivided front rest whole before.outside

/-- A second name gets past the fix behind a line that ends with the first one,
and behind a bracket that the first line leaves open. -/
theorem spreadDeclarations_made_constant :
    (letToConst (.ofText "let a = 1\n  , b = 2;\n".toList) 1 =
        .ok (.ofText "const a = 1\n  , b = 2;\n".toList) ∧
      declaredNames "let a = 1\n  , b = 2;".toList ≠ 1) ∧
    letToConst (.ofText "let a = f(\n  1), b = 2;\n".toList) 1 =
        .ok (.ofText "const a = f(\n  1), b = 2;\n".toList) ∧
      declaredNames "let a = f(\n  1), b = 2;".toList ≠ 1 := by
  have leading : letToConst (.ofText "let a = 1\n  , b = 2;\n".toList) 1 =
      .ok (.ofText "const a = 1\n  , b = 2;\n".toList) := by decide +kernel
  have closing : letToConst (.ofText "let a = f(\n  1), b = 2;\n".toList) 1 =
      .ok (.ofText "const a = f(\n  1), b = 2;\n".toList) := by decide +kernel
  have leadingFound : (Buffer.ofText "let a = 1\n  , b = 2;\n".toList).line? 1 =
      some "let a = 1".toList := by decide
  have closingFound :
      (Buffer.ofText "let a = f(\n  1), b = 2;\n".toList).line? 1 =
        some "let a = f(".toList := by decide
  obtain ⟨-, -, -, behindLeading⟩ := letToConst_single_iff leadingFound leading
  obtain ⟨-, -, -, behindClosing⟩ := letToConst_single_iff closingFound closing
  have oneLine : (Scan.splitComment ['/', '/'] "let a = 1".toList).1 =
      "let a = 1".toList := by
    decide
  have openLine : (Scan.splitComment ['/', '/'] "let a = f(".toList).1 =
      "let a = f(".toList := by
    decide
  rw [oneLine] at behindLeading
  rw [openLine] at behindClosing
  exact
    ⟨⟨leading, behindLeading [] "  , b = 2;".toList (by decide) (by decide)⟩,
    closing, behindClosing "  1)".toList ", b = 2;".toList (by decide)
      (by decide)⟩

end LintMend.Fix
