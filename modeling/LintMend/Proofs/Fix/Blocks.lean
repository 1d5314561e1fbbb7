import LintMend.Proofs.Fix.Imports
import LintMend.Proofs.Fix.Tidying

/-!
# Blocks keep a statement

A line that opens a block is followed by a line that is indented further.
Imports are dropped one after another, in any order, and this stays so: a line
is removed only if the block goes on behind it or begins in front of it, and
what takes the place of a line is indented as the line was.
-/

namespace LintMend

namespace Fix

/-- How far a line is indented, in bytes. -/
def indentWidth (text : Text) : Nat :=
  Text.byteLength (Text.indent text)

/-- The next line that counts is indented further than the given one. -/
def EntersBlock (text : Text) (behind : List Text) : Prop :=
  ∃ next ∈ behind.find? isSignificant, indentWidth text < indentWidth next

/-- Every line that opens a block is followed by the first line of the block. -/
def BlocksFilled (texts : List Text) : Prop :=
  ∀ front text behind, texts = front ++ text :: behind →
    isSignificant text = true →
    opensBlock text = true → EntersBlock text behind

section

variable {front behind : List Text} {text old changed : Text}

theorem blocksFilled_nil : BlocksFilled [] := by
  intro front text behind whole
  cases front <;> cases whole

theorem blocksFilled_cons_iff :
    BlocksFilled (text :: behind) ↔
      (isSignificant text = true → opensBlock text = true →
        EntersBlock text behind) ∧
        BlocksFilled behind := by
  constructor
  · intro filled
    refine ⟨filled [] text behind rfl, fun front other later whole => ?_⟩
    exact filled (text :: front) other later (by rw [whole]; rfl)
  · rintro ⟨here, later⟩ front other rest whole
    cases front with
    | nil =>
        cases whole
        exact here
    | cons first front =>
        cases whole
        exact later front other rest rfl

instance decidableBlocksFilled :
    (texts : List Text) → Decidable (BlocksFilled texts)
  | [] => isTrue blocksFilled_nil
  | text :: behind =>
    have := decidableBlocksFilled behind
    have : Decidable (EntersBlock text behind) :=
      inferInstanceAs (Decidable (∃ next ∈ _, _))
    decidable_of_iff _ blocksFilled_cons_iff.symm

/-- A line gives way to one that counts and is indented as it was. -/
theorem EntersBlock.replace (enters : EntersBlock text (front ++ old :: behind))
    (significant : isSignificant old = true)
    (alsoSignificant : isSignificant changed = true)
    (indented : indentWidth changed = indentWidth old) :
    EntersBlock text (front ++ changed :: behind) := by
  obtain ⟨next, found, further⟩ := enters
  rw [Option.mem_def, List.find?_append] at found
  rw [EntersBlock, List.find?_append]
  cases inFront : front.find? isSignificant with
  | some first =>
      rw [inFront] at found
      cases found
      exact ⟨next, rfl, further⟩
  | none =>
      rw [inFront, Option.none_or, List.find?_cons_of_pos significant] at found
      cases found
      rw [Option.none_or, List.find?_cons_of_pos alsoSignificant]
      exact ⟨changed, rfl, indented ▸ further⟩

theorem BlocksFilled.replace (filled : BlocksFilled (front ++ old :: behind))
    (significant : isSignificant old = true)
    (alsoSignificant : isSignificant changed = true)
    (indented : indentWidth changed = indentWidth old)
    (flat : opensBlock changed = false) :
    BlocksFilled (front ++ changed :: behind) := by
  induction front with
  | nil =>
      refine blocksFilled_cons_iff.mpr ⟨fun _ opens =>
        ?_, (blocksFilled_cons_iff.mp filled).2⟩
      rw [flat] at opens
      cases opens
  | cons first front induction =>
      rw [List.cons_append] at filled ⊢
      obtain ⟨here, later⟩ := blocksFilled_cons_iff.mp filled
      refine blocksFilled_cons_iff.mpr ⟨fun counts opens => ?_, induction later⟩
      exact (here counts opens).replace significant alsoSignificant indented

/-- A line is removed. If the line in front of it opens a block, the block goes
on behind it. -/
theorem BlocksFilled.remove (filled : BlocksFilled (front ++ old :: behind))
    (significant : isSignificant old = true)
    (goesOn : ∀ previous ∈ front.reverse.find? isSignificant,
      opensBlock previous = true →
      indentWidth previous < indentWidth old →
        ∃ next ∈ behind.find? isSignificant,
        indentWidth old ≤ indentWidth next) :
    BlocksFilled (front ++ behind) := by
  induction front with
  | nil => exact (blocksFilled_cons_iff.mp filled).2
  | cons first front induction =>
      rw [List.cons_append] at filled ⊢
      obtain ⟨here, later⟩ := blocksFilled_cons_iff.mp filled
      have shorter : ∀ previous ∈ front.reverse.find? isSignificant,
          opensBlock previous = true →
          indentWidth previous < indentWidth old →
            ∃ next ∈ behind.find? isSignificant,
            indentWidth old ≤ indentWidth next := by
        intro previous found
        apply goesOn previous
        rw [List.reverse_cons, List.find?_append, Option.mem_def.mp found]
        rfl
      refine blocksFilled_cons_iff.mpr ⟨fun counts opens =>
        ?_, induction later shorter⟩
      obtain ⟨next, found, further⟩ := here counts opens
      rw [Option.mem_def, List.find?_append] at found
      rw [EntersBlock, List.find?_append]
      cases inFront : front.find? isSignificant with
      | some inside =>
          rw [inFront] at found
          cases found
          exact ⟨next, rfl, further⟩
      | none =>
          -- the line in front is the one that opens the block, and the removed
          -- one was its first
          rw [inFront, Option.none_or, List.find?_cons_of_pos significant]
            at found
          cases found
          have last : first ∈ (first :: front).reverse.find? isSignificant := by
            have none : front.reverse.find? isSignificant = .none := by
              simpa only [List.find?_eq_none, List.mem_reverse] using inFront
            rw [List.reverse_cons, List.find?_append, none, Option.none_or,
              List.find?_cons_of_pos counts]
            rfl
          obtain ⟨next, found, wide⟩ := goesOn first last opens further
          exact ⟨next, found, Nat.lt_of_lt_of_le further wide⟩

end

/-! ## The lines of an import -/

variable {buffer fixed : Buffer} {number : Nat} {text : Text}
  {statement : Import} {items : List ImportItem}

theorem goesOn_of_isOnlyStatement {front behind : List Line} {line : Line}
    (whole : buffer.lines = front ++ line :: behind)
    (several : isOnlyStatement buffer (front.length + 1)
      (Text.indent line.text) = false) :
    ∀ previous ∈ (front.map Line.text).reverse.find? isSignificant,
      opensBlock previous = true →
      indentWidth previous < indentWidth line.text →
        ∃ next ∈ (behind.map Line.text).find? isSignificant,
          indentWidth line.text ≤ indentWidth next := by
  intro previous found opens further
  have before : ((buffer.lines.map Line.text).take front.length).reverse.find?
        isSignificant =
      some previous := by
    rw [whole, List.map_append, ← List.length_map (f := Line.text),
      List.take_left]
    exact found
  have rest : (buffer.lines.map Line.text).drop (front.length + 1) =
      behind.map Line.text := by
    simp [whole, List.drop_append]
  have indented : (Text.indent line.text).isEmpty = false := by
    cases indent : Text.indent line.text with
    | nil =>
        rw [indentWidth, indentWidth, indent] at further
        cases further
    | cons => rfl
  simp only [isOnlyStatement, Nat.add_sub_cancel, before, rest, indented,
    Option.map_some, Option.getD_some, opens, Bool.not_false, Bool.and_self,
    Bool.true_and, Bool.not_eq_false'] at several
  cases next : (behind.map Line.text).find? isSignificant with
  | none =>
      rw [next] at several
      cases several
  | some next' =>
      rw [next] at several
      exact ⟨next', rfl, of_decide_eq_true several⟩

/-- The code of the line has no colon and none of the quotes that the scanner
knows. -/
def PlainCode (text : Text) : Prop :=
  ∀ c ∈ (Scan.splitComment ['#'] text).1, c ≠ ':' ∧ Quoting.isQuote c = false

instance (text : Text) : Decidable (PlainCode text) :=
  List.decidableBAll _ (Scan.splitComment ['#'] text).1

theorem isSignificant_of_begins {c : Char} {rest : Text}
    (begins : Text.trimStart text = c :: rest) (noSign : c ≠ '#') :
    isSignificant text = true := by
  have visible : Text.blank text = false := by
    rw [Bool.eq_false_iff]
    intro blank
    have none : Text.trimStart text = [] :=
      List.dropWhile_eq_nil_iff.mpr (List.all_eq_true.mp blank)
    rw [none] at begins
    cases begins
  have unsigned : Text.startsWith (c :: rest) ['#'] = false :=
    Bool.eq_false_iff.mpr (Scan.not_marked noSign rest)
  rw [isSignificant, visible, begins, unsigned]
  rfl

theorem isSignificant_of_import
    (read : Import.ofCode? (Text.trim (Scan.splitComment ['#'] text).1) =
      some statement) :
    isSignificant text = true := by
  obtain ⟨c, rest, begins, keyword⟩ := begins_of_import read
  apply isSignificant_of_begins begins
  rintro rfl
  rcases keyword with impossible | impossible <;> cases impossible

theorem opensBlock_of_not_mem (flat : ':' ∉ (Scan.splitComment ['#'] text).1) :
    opensBlock text = false := by
  rw [opensBlock, Bool.eq_false_iff]
  intro ends
  have ending := List.isSuffixOf_iff_suffix.mp ends
  exact flat ((Text.trimEnd_isPrefix _).subset
      (ending.subset List.mem_cons_self))

theorem colon_not_mem_indent (text : Text) : ':' ∉ Text.indent text := by
  intro colon
  cases Text.blank_indent text ':' colon

/-- The line counts, opens no block, and is indented as the old one. -/
structure StandsFor (text changed : Text) : Prop where
  significant : isSignificant changed = true
  indented : indentWidth changed = indentWidth text
  flat : opensBlock changed = false

theorem standsFor_pass (text : Text) :
    StandsFor text (Text.indent text ++ "pass".toList) := by
  have start : Text.trimStart (Text.indent text ++ "pass".toList) =
      "pass".toList :=
    Text.trimStart_of_blank (Text.blank_indent text) _
  constructor
  · exact isSignificant_of_begins start (by decide)
  · rw [indentWidth, Text.indent_append (Text.blank_indent text) rfl,
      indentWidth]
  · apply opensBlock_of_not_mem
    intro colon
    rcases List.mem_append.mp (Scan.code_subset _ _ colon) with
      inIndent | inWord
    · exact colon_not_mem_indent text inIndent
    · exact absurd inWord (by decide)

theorem standsFor_importLine (plain : PlainCode text)
    (read : Import.ofCode? (Text.trim (Scan.splitComment ['#'] text).1) =
      some statement)
    (fewer : items ⊆ statement.items) (several : items ≠ []) :
    StandsFor text (importLine text statement items) := by
  have unquoted : ∀ c ∈ (Scan.splitComment ['#'] text).1,
      Quoting.isQuote c = false :=
    fun c member => (plain c member).2
  have keeps := keepsItems_importLine read fewer several
  constructor
  · exact isSignificant_of_import (keeps.scanned unquoted).1
  · rw [indentWidth, keeps.indented, indentWidth]
  · apply opensBlock_of_not_mem
    rw [splitComment_importLine unquoted read fewer several]
    intro colon
    rcases List.mem_append.mp colon with code | gap
    · rw [importCode, List.append_assoc] at code
      rcases List.mem_append.mp code with inIndent | written
      · exact colon_not_mem_indent text inIndent
      · rcases List.mem_append.mp
          (Import.written_subset read fewer written) with own | old
        · exact absurd own (by decide)
        · exact (plain ':' (Text.trim_subset _ old)).1 rfl
    · cases isBlank_of_mem_gap ':' gap

/-! ## Dropping imports -/

theorem ImportEdit.blocksFilled
    (edit : ImportEdit buffer number text statement items fixed)
    (found : buffer.line? number = some text) (plain : PlainCode text)
    (read : Import.ofCode? (Text.trim (Scan.splitComment ['#'] text).1) =
      some statement) (fewer : items ⊆ statement.items)
    (filled : BlocksFilled (buffer.lines.map Line.text)) :
    BlocksFilled (fixed.lines.map Line.text) := by
  obtain ⟨front, line, behind, whole, rfl, rfl⟩ := Buffer.lines_of_line? found
  have significant := isSignificant_of_import read
  rw [whole, List.map_append, List.map_cons] at filled
  have replaced {changed : Text} (stands : StandsFor line.text changed) :
      BlocksFilled
      ((buffer.setLine (front.length + 1) changed).buffer.lines.map
        Line.text) := by
    rw [(Buffer.spliced_setLine found changed).eq_of_lines whole]
    simpa using filled.replace significant stands.significant stands.indented
      stands.flat
  cases edit with
  | removed several =>
      rw [(Buffer.spliced_removeLine found).eq_of_lines whole]
      simpa using filled.remove significant
        (goesOn_of_isOnlyStatement whole several)
  | passed => exact replaced (standsFor_pass line.text)
  | shortened =>
      exact replaced
        (standsFor_importLine plain read fewer (List.cons_ne_nil _ _))

theorem dropImport_blocksFilled {keepPackageFiles : Bool} {path : Path}
    {message : Text}
    (applied : dropImport keepPackageFiles path message buffer number =
      .ok fixed)
    (plain : ∀ text, buffer.line? number = some text → PlainCode text)
    (filled : BlocksFilled (buffer.lines.map Line.text)) :
    BlocksFilled (fixed.lines.map Line.text) := by
  obtain ⟨-, text, _, statement, index, found, -, read, -, edit⟩ :=
    dropImport_eq_ok_iff.mp applied
  exact edit.blocksFilled found (plain text found)
    (importOn_eq_ok read) List.eraseIdx_subset filled

/-- Drops the import of a finding if that can be done. The flag tells whether
package files keep their imports. -/
def dropNext (buffer : Buffer) (removal : Bool × Issue) : Buffer :=
  attempt removal.1 buffer (removal.2, .removeUnusedImport)

/-- The line that is edited, if one is. -/
def editedLine? (buffer : Buffer) (removal : Bool × Issue) : Option Text :=
  match Fix.apply removal.1 removal.2 buffer .removeUnusedImport with
  | .ok _ => buffer.line? removal.2.line
  | .error _ => none

/-- At its time, each edited line has plain code. -/
def EditsPlainCode : List (Bool × Issue) → Buffer → Prop
  | [], _ => True
  | removal :: removals, buffer =>
    (∀ text ∈ editedLine? buffer removal, PlainCode text) ∧
      EditsPlainCode removals (dropNext buffer removal)

instance decidableEditsPlainCode :
    (removals : List (Bool × Issue)) → (buffer : Buffer) →
      Decidable (EditsPlainCode removals buffer)
  | [], _ => isTrue trivial
  | removal :: removals, buffer =>
    have := decidableEditsPlainCode removals (dropNext buffer removal)
    inferInstanceAs (Decidable (_ ∧ _))

theorem dropNext_blocksFilled {removal : Bool × Issue}
    (plain : ∀ text ∈ editedLine? buffer removal, PlainCode text)
    (filled : BlocksFilled (buffer.lines.map Line.text)) :
    BlocksFilled ((dropNext buffer removal).lines.map Line.text) := by
  rw [dropNext, attempt]
  rw [editedLine?] at plain
  split
  · next applied =>
      simp only [applied] at plain
      exact dropImport_blocksFilled applied plain filled
  · exact filled

/-- However many imports are dropped, in whatever order, each block keeps a
statement. -/
theorem foldl_dropNext_blocksFilled {removals : List (Bool × Issue)}
    (plain : EditsPlainCode removals buffer)
    (filled : BlocksFilled (buffer.lines.map Line.text)) :
    ∀ done, done <+: removals →
      BlocksFilled ((done.foldl dropNext buffer).lines.map Line.text) := by
  induction removals generalizing buffer with
  | nil =>
      intro done isFront
      rw [List.prefix_nil.mp isFront]
      exact filled
  | cons removal removals induction =>
      intro done isFront
      cases done with
      | nil => exact filled
      | cons first done =>
          obtain ⟨rfl, front⟩ := List.cons_prefix_cons.mp isFront
          exact induction plain.2 (dropNext_blocksFilled plain.1 filled)
            done front

/-! The last import of a block gives way to `pass`, and which one is the last
depends on those that have gone before. -/

def nestedContent : Text :=
  "if x:\n    # note\n    import a, b  # c:\n    import c\ny = 1\n".toList

def nestedRemovals : List (Bool × Issue) :=
  [(4, "\x60c\x60 imported but unused"), (3, "\x60a\x60 imported but unused"),
    (3, "\x60b\x60 imported but unused")].map fun (line, message) =>
      (true,
        { file := ⟨"a.py"⟩, line, code := "F401", message,
          language := .python })

theorem nestedRemovals_blocksFilled :
    let buffer := Buffer.ofText nestedContent
    EditsPlainCode nestedRemovals buffer ∧
    BlocksFilled (buffer.lines.map Line.text) ∧
      (nestedRemovals.foldl dropNext buffer).render =
        "if x:\n    # note\n    pass\ny = 1\n".toList ∧
      ∀ done, done <+: nestedRemovals →
        BlocksFilled ((done.foldl dropNext buffer).lines.map Line.text) := by
  intro buffer
  have plain : EditsPlainCode nestedRemovals buffer := by decide +kernel
  have filled : BlocksFilled (buffer.lines.map Line.text) := by decide +kernel
  exact ⟨plain, filled, by decide +kernel,
    foldl_dropNext_blocksFilled plain filled⟩

end Fix

end LintMend
