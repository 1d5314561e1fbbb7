import LintMend.Fix.Apply
import LintMend.Proofs.Except
import LintMend.Proofs.Text.Trim

/-!
# Fixes of a single line

All mechanical fixes but two are addressed to the line that their issue names.
Such a fix puts lines in the place of that line and leaves every other
line where it is, before and behind. Only two fixes can leave nothing in its
place.
-/

namespace LintMend

/-- Puts other items in the place of one. A number outside the list changes
nothing. -/
def splice {α : Type} (number : Nat) (items list : List α) : List α :=
  if number = 0 ∨ list.length < number then list
  else list.take (number - 1) ++ items ++ list.drop number

theorem splice_of_inside {α : Type} {number : Nat} {items list : List α}
    (start : number ≠ 0) (inside : number ≤ list.length) :
    splice number items list = list.take (number - 1) ++ items ++
      list.drop number := by
  rw [splice, if_neg]
  omega

@[simp]
theorem map_splice {α β : Type} (f : α → β) (number : Nat)
    (items list : List α) :
    (splice number items list).map f =
      splice number (items.map f) (list.map f) := by
  rw [splice, splice, List.length_map]
  split
  · rfl
  · simp

/-- The item of a number, and what stands in front of it and behind it. -/
theorem exists_middle {α : Type} {list : List α} {start number : Nat}
    (above : start ≤ number) (below : number < start + list.length) :
    ∃ front item behind, list = front ++ item :: behind ∧
      number = start + front.length := by
  have bound : number - start < list.length := by omega
  refine ⟨list.take (number - start), list[number - start],
    list.drop (number - start + 1), ?_, ?_⟩
  · rw [← List.drop_eq_getElem_cons bound, List.take_append_drop]
  · rw [List.length_take]
    omega

/-- The items take the place of the one behind the front. -/
@[simp]
theorem splice_middle {α : Type} (front : List α) (item : α)
    (items behind : List α) :
    splice (front.length + 1) items (front ++ item :: behind) =
      front ++ items ++ behind := by
  rw [splice_of_inside (Nat.succ_ne_zero _) (by simp)]
  simp

/-- One line of the buffer gives way to lines that end as it did. -/
structure Buffer.Spliced (buffer : Buffer) (number : Nat) (texts : List Text)
    (fixed : Buffer) : Prop where
  start : number ≠ 0
  inside : number ≤ buffer.lineCount
  result : ∃ line, buffer.lines[number - 1]? = some line ∧
    fixed = { buffer with
      lines :=
        splice number (texts.map fun text => ⟨text, line.ending⟩) buffer.lines }

namespace Buffer

theorem index?_of_ne_zero {buffer : Buffer} {number : Nat} (start : number ≠ 0)
    (inside : number ≤ buffer.lineCount) :
    buffer.index? number = some (number - 1) := by
  rw [index?, if_neg]
  omega

theorem line?_of_getElem? {buffer : Buffer} {number : Nat} {line : Line}
    (start : number ≠ 0) (there : buffer.lines[number - 1]? = some line) :
    buffer.line? number = some line.text := by
  have inside := (List.getElem?_eq_some_iff.mp there).1
  have place : buffer.index? number = some (number - 1) := by
    apply index?_of_ne_zero start
    rw [lineCount]
    omega
  rw [line?, place, Option.bind_some, there, Option.map_some]

variable {buffer : Buffer} {number : Nat} {text : Text}

theorem line?_eq_some (found : buffer.line? number = some text) :
    number ≠ 0 ∧ number ≤ buffer.lineCount ∧
    buffer.index? number = some (number - 1) ∧
      ∃ line, buffer.lines[number - 1]? = some line ∧ line.text = text := by
  unfold line? at found
  cases place : buffer.index? number with
  | none =>
      rw [place] at found
      cases found
  | some index =>
      rw [place] at found
      obtain ⟨line, there, here⟩ := Option.map_eq_some_iff.mp found
      unfold index? at place
      split at place
      · cases place
      · next inside =>
          cases place
          exact ⟨by omega, by omega, rfl, line, there, here⟩

theorem lines_of_line? (found : buffer.line? number = some text) :
    ∃ front line behind, buffer.lines = front ++ line :: behind ∧
      number = front.length + 1 ∧
      line.text = text := by
  obtain ⟨start, inside, -, line, there, rfl⟩ := line?_eq_some found
  have below : number < 1 + buffer.lines.length := Nat.lt_one_add_iff.mpr inside
  obtain ⟨front, other, behind, whole, place⟩ :=
    exists_middle (Nat.one_le_iff_ne_zero.mpr start) below
  rw [Nat.add_comm] at place
  rw [whole, place, Nat.add_sub_cancel,
    List.getElem?_append_right (Nat.le_refl _), Nat.sub_self] at there
  cases there
  exact ⟨front, line, behind, whole, place, rfl⟩

/-- What stands in front of the line and behind it is kept. -/
theorem Spliced.eq_of_lines {texts : List Text} {fixed : Buffer}
    {front behind : List Line} {line : Line}
    (spliced : buffer.Spliced (front.length + 1) texts fixed)
    (whole : buffer.lines = front ++ line :: behind) :
    fixed = { buffer with
      lines :=
        front ++ (texts.map fun text => ⟨text, line.ending⟩) ++ behind } := by
  obtain ⟨-, -, other, there, rfl⟩ := spliced
  rw [whole, Nat.add_sub_cancel, List.getElem?_append_right (Nat.le_refl _),
    Nat.sub_self] at there
  cases there
  rw [whole, splice_middle]

/-- The lines that are put in the place of one stand there in order. -/
theorem Spliced.line?_eq {texts : List Text} {fixed : Buffer}
    (spliced : buffer.Spliced number texts fixed) {offset : Nat}
    {written : Text} (here : texts[offset]? = some written) :
    fixed.line? (number + offset) = some written := by
  obtain ⟨start, inside, line, -, same⟩ := spliced
  have front : (buffer.lines.take (number - 1)).length = number - 1 := by
    rw [lineCount] at inside
    rw [List.length_take]
    omega
  have place : number + offset - 1 = (number - 1) + offset := by omega
  have there : fixed.lines[number + offset - 1]? =
      some ⟨written, line.ending⟩ := by
    rw [same, splice_of_inside start inside, List.append_assoc,
      List.getElem?_append_right (by omega), front, place,
      Nat.add_sub_cancel_left, List.getElem?_append_left]
    · rw [List.getElem?_map, here, Option.map_some]
    · rw [List.length_map]
      exact (List.getElem?_eq_some_iff.mp here).1
  exact line?_of_getElem? (by omega) there

theorem Spliced.unique {texts : List Text} {fixed other : Buffer}
    (one : buffer.Spliced number texts fixed)
    (two : buffer.Spliced number texts other) :
    fixed = other := by
  obtain ⟨-, -, line, there, rfl⟩ := one
  obtain ⟨-, -, same, alsoThere, rfl⟩ := two
  cases there.symm.trans alsoThere
  rfl

theorem Spliced.texts_unique {texts others : List Text} {fixed : Buffer}
    (one : buffer.Spliced number texts fixed)
    (two : buffer.Spliced number others fixed) :
    texts = others := by
  obtain ⟨start, inside, line, there, rfl⟩ := one
  obtain ⟨-, -, same, alsoThere, whole⟩ := two
  cases there.symm.trans alsoThere
  have lines := congrArg Buffer.lines whole
  simp only [splice_of_inside start inside] at lines
  have items := List.append_cancel_left (List.append_cancel_right lines)
  simpa [Function.comp_def] using congrArg (List.map Line.text) items

theorem spliced_setLine (found : buffer.line? number = some text)
    (changed : Text) :
    buffer.Spliced number [changed] (buffer.setLine number changed) := by
  obtain ⟨start, inside, place, line, there, -⟩ := line?_eq_some found
  refine ⟨start, inside, line, there, ?_⟩
  have next : number - 1 + 1 = number := by omega
  obtain ⟨bound, here⟩ := List.getElem?_eq_some_iff.mp there
  simp only [setLine, place]
  rw [splice_of_inside start inside, List.modify_eq_take_cons_drop bound,
    next, here]
  simp

theorem line?_setLine (found : buffer.line? number = some text)
    (changed : Text) :
    (buffer.setLine number changed).buffer.line? number = some changed := by
  have here : [changed][0]? = some changed := rfl
  exact (spliced_setLine found changed).line?_eq here

theorem spliced_removeLine (found : buffer.line? number = some text) :
    buffer.Spliced number [] (buffer.removeLine number) := by
  obtain ⟨start, inside, place, line, there, -⟩ := line?_eq_some found
  refine ⟨start, inside, line, there, ?_⟩
  have next : number - 1 + 1 = number := by omega
  simp only [removeLine, place]
  rw [splice_of_inside start inside, List.eraseIdx_eq_take_drop_succ, next]
  simp

theorem spliced_spliceLine (found : buffer.line? number = some text)
    (texts : List Text) :
    buffer.Spliced number texts (buffer.spliceLine number texts) := by
  obtain ⟨start, inside, place, line, there, -⟩ := line?_eq_some found
  refine ⟨start, inside, line, there, ?_⟩
  have next : number - 1 + 1 = number := by omega
  obtain ⟨bound, here⟩ := List.getElem?_eq_some_iff.mp there
  simp only [spliceLine, place, List.drop_eq_getElem_cons bound, here, next]
  rw [splice_of_inside start inside]

end Buffer

namespace Fix

/-- Fixes that edit the line their issue names, and not the end of the file. -/
def isLineAddressed : Fix → Bool
  | ensureFinalNewline | trimTrailingBlankLines => false
  | _ => true

/-- Fixes that may remove the line. -/
def mayRemove : Fix → Bool
  | removeUnusedImport | removeExtraSemicolon => true
  | _ => false

variable {buffer fixed : Buffer} {number : Nat}

theorem lineOf_bind {next : Text → Result}
    (applied : (lineOf buffer number >>= next) = .ok fixed) :
    ∃ text, buffer.line? number = some text ∧ next text = .ok fixed := by
  obtain ⟨text, read, applied⟩ := bind_eq_ok_iff.mp applied
  unfold lineOf at read
  split at read
  · next found =>
      cases read
      exact ⟨_, found, applied⟩
  · cases read

theorem lineOf_eq {text : Text} (found : buffer.line? number = some text) :
    lineOf buffer number = .ok text := by
  rw [lineOf, found]

theorem lineOf_bind_eq {α : Type} {text : Text}
    (found : buffer.line? number = some text) (next : Text → Except Refusal α) :
    (lineOf buffer number >>= next) = next text := by
  rw [lineOf_eq found, ok_bind]

/-! ## What the fixes write -/

theorem changeCode_eq_ok {change : Text → Text} {nothing : Refusal}
    (applied : changeCode change nothing buffer number = .ok fixed) :
    ∃ text code comment, buffer.line? number = some text ∧
      Scan.splitComment ['#'] text = (code, comment) ∧ change code ≠ code ∧
      fixed = buffer.setLine number (change code ++ comment) := by
  obtain ⟨text, found, applied⟩ := lineOf_bind applied
  simp only at applied
  split at applied
  · cases applied
  · next changed =>
      cases applied
      exact ⟨text, _, _, found, rfl, changed, rfl⟩

theorem stripTrailing_eq_ok
    (applied : stripTrailing buffer number = .ok fixed) :
    ∃ text, buffer.line? number = some text ∧ Text.trimEnd text ≠ text ∧
      fixed = buffer.setLine number (Text.trimEnd text) := by
  obtain ⟨text, found, applied⟩ := lineOf_bind applied
  simp only at applied
  split at applied
  · cases applied
  · next changed =>
      cases applied
      exact ⟨text, found, changed, rfl⟩

theorem endLastLine_eq_ok (applied : endLastLine buffer = .ok fixed) :
    buffer.endsLine = false ∧ fixed = buffer.setEndsLine true := by
  unfold endLastLine at applied
  split at applied
  · cases applied
  · next unended =>
      cases applied
      exact ⟨Bool.eq_false_iff.mpr fun ended => unended (.inr ended), rfl⟩

theorem trimTail_eq_ok (applied : trimTail buffer = .ok fixed) :
    buffer.trimBlankTail.lineCount ≠ buffer.lineCount ∧
      fixed = buffer.trimBlankTail.setEndsLine true := by
  simp only [trimTail] at applied
  split at applied
  · cases applied
  · next fewer =>
      cases applied
      exact ⟨fewer, rfl⟩

theorem splitLine_eq_ok (applied : splitLine buffer number = .ok fixed) :
    ∃ text code comment, buffer.line? number = some text ∧
      Scan.splitComment ['#'] text = (code, comment) ∧
      2 ≤ (statements (Text.indent text) code).length ∧
      fixed = buffer.spliceLine number
        (commentLast comment (statements (Text.indent text) code)) := by
  obtain ⟨text, found, applied⟩ := lineOf_bind applied
  simp only at applied
  split at applied
  · cases applied
  · split at applied
    · cases applied
    · next several =>
        cases applied
        exact ⟨text, _, _, found, rfl, Nat.not_lt.mp several, rfl⟩

theorem dropFinalSemicolon_eq_ok
    (applied : dropFinalSemicolon buffer number = .ok fixed) :
    ∃ text code comment front, buffer.line? number = some text ∧
      Scan.splitComment ['#'] text = (code, comment) ∧
      Text.trimEnd code = front ++ [';'] ∧
      fixed = buffer.setLine number
        (Scan.withComment (Text.trimEnd (Text.dropEndWhile isSemicolon front))
          comment) := by
  obtain ⟨text, found, applied⟩ := lineOf_bind applied
  simp only at applied
  split at applied
  · next ends =>
      obtain ⟨front, ended⟩ := List.isSuffixOf_iff_suffix.mp ends
      have semicolon : isSemicolon ';' = true := rfl
      rw [← ended, Text.dropEndWhile_concat semicolon] at applied
      cases applied
      exact ⟨text, _, _, front, found, rfl, ended.symm, rfl⟩
  · cases applied

theorem letToConst_eq_ok (applied : letToConst buffer number = .ok fixed) :
    ∃ text code comment rest, buffer.line? number = some text ∧
      Scan.splitComment ['/', '/'] text = (code, comment) ∧
      afterLet? code = some rest ∧
      Scan.hasTopLevel ',' ['/', '/'] code = false ∧
      fixed = buffer.setLine number
        (Text.indent code ++ "const".toList ++ rest ++ comment) := by
  obtain ⟨text, found, applied⟩ := lineOf_bind applied
  simp only at applied
  split at applied
  · cases applied
  · next rest declared =>
      split at applied
      · cases applied
      · next undivided =>
          cases applied
          exact ⟨text, _, _, rest, found, rfl, declared,
            Bool.eq_false_iff.mpr undivided, rfl⟩

/-- One of the semicolons at the end of a text stays. -/
theorem dropEndWhile_semicolons (front : Text) :
    Text.dropEndWhile isSemicolon front ++ [';'] <+: front ++ [';'] := by
  have whole := @List.rdropWhile_append_rtakeWhile _ isSemicolon front
  rw [Text.dropEndWhile_eq_rdropWhile]
  cases dropped : front.rtakeWhile isSemicolon with
  | nil =>
      rw [dropped, List.append_nil] at whole
      exact ⟨[], by rw [List.append_nil, whole]⟩
  | cons c rest =>
      have semicolon : isSemicolon c = true := by
        apply List.mem_rtakeWhile_imp (l := front)
        rw [dropped]
        exact List.mem_cons_self
      obtain rfl : c = ';' := beq_iff_eq.mp semicolon
      conv => rhs; rw [← whole, dropped]
      exact ⟨rest ++ [';'], by simp⟩

/-- The line goes, or its code loses a part of its end, behind which the blanks
stay. -/
theorem dropExtraSemicolon_eq_ok
    (applied : dropExtraSemicolon buffer number = .ok fixed) :
    ∃ text code comment, buffer.line? number = some text ∧
      Scan.splitComment ['/', '/'] text = (code, comment) ∧
      (fixed = buffer.removeLine number ∨ ∃ kept, kept <+: Text.trimEnd code ∧
        kept.length < (Text.trimEnd code).length ∧ fixed = buffer.setLine number
          (kept ++ (code.drop (Text.trimEnd code).length ++ comment))) := by
  obtain ⟨text, found, applied⟩ := lineOf_bind applied
  refine ⟨text, (Scan.splitComment ['/', '/'] text).1,
    (Scan.splitComment ['/', '/'] text).2, found, rfl, ?_⟩
  simp only at applied
  split at applied
  · cases applied
    exact .inl rfl
  · split at applied
    · next ends =>
        obtain ⟨front, ended⟩ := List.isSuffixOf_iff_suffix.mp ends
        have twice : front ++ [';', ';'] = front ++ [';'] ++ [';'] := by simp
        have semicolon : isSemicolon ';' = true := rfl
        have dropped : Text.dropEndWhile isSemicolon
            (Text.trimEnd (Scan.splitComment ['/', '/'] text).1) =
              Text.dropEndWhile isSemicolon front := by
          rw [← ended, twice, Text.dropEndWhile_concat semicolon,
            Text.dropEndWhile_concat semicolon]
        have kept := dropEndWhile_semicolons front
        rw [dropped] at applied
        cases applied
        refine .inr ⟨_, ?_, ?_, rfl⟩
        · rw [← ended, twice]
          exact kept.trans (List.prefix_append _ _)
        · have shorter := kept.length_le
          rw [← ended]
          simp only [List.length_append, List.length_cons, List.length_nil]
            at shorter ⊢
          omega
    · split at applied
      · next ends =>
          obtain ⟨front, ended⟩ := List.isSuffixOf_iff_suffix.mp ends
          cases applied
          refine .inr ⟨_, List.dropLast_prefix _, ?_, rfl⟩
          rw [← ended]
          simp
      · cases applied

@[simp]
theorem length_commentLast (comment : Text) (lines : List Text) :
    (commentLast comment lines).length = lines.length := by
  induction lines with
  | nil => rfl
  | cons line lines induction =>
      cases lines with
      | nil => rfl
      | cons next lines =>
          simp only [commentLast, List.length_cons] at induction ⊢
          rw [induction]

/-! ## Where they write it -/

theorem changeCode_spliced {change : Text → Text} {nothing : Refusal}
    (applied : changeCode change nothing buffer number = .ok fixed) :
    ∃ text, buffer.Spliced number [text] fixed := by
  obtain ⟨text, code, comment, found, -, -, rfl⟩ := changeCode_eq_ok applied
  exact ⟨_, Buffer.spliced_setLine found _⟩

theorem stripTrailing_spliced
    (applied : stripTrailing buffer number = .ok fixed) :
    ∃ text, buffer.Spliced number [text] fixed := by
  obtain ⟨text, found, -, rfl⟩ := stripTrailing_eq_ok applied
  exact ⟨_, Buffer.spliced_setLine found _⟩

theorem letToConst_spliced (applied : letToConst buffer number = .ok fixed) :
    ∃ text, buffer.Spliced number [text] fixed := by
  obtain ⟨text, code, comment, rest, found, -, -, -, rfl⟩ :=
    letToConst_eq_ok applied
  exact ⟨_, Buffer.spliced_setLine found _⟩

theorem dropFinalSemicolon_spliced
    (applied : dropFinalSemicolon buffer number = .ok fixed) :
    ∃ text, buffer.Spliced number [text] fixed := by
  obtain ⟨text, code, comment, front, found, -, -, rfl⟩ :=
    dropFinalSemicolon_eq_ok applied
  exact ⟨_, Buffer.spliced_setLine found _⟩

theorem splitLine_spliced (applied : splitLine buffer number = .ok fixed) :
    ∃ texts, texts ≠ [] ∧ buffer.Spliced number texts fixed := by
  obtain ⟨text, code, comment, found, -, several, rfl⟩ :=
    splitLine_eq_ok applied
  refine ⟨_, ?_, Buffer.spliced_spliceLine found _⟩
  rw [← List.length_pos_iff, length_commentLast]
  omega

theorem dropExtraSemicolon_spliced
    (applied : dropExtraSemicolon buffer number = .ok fixed) :
    ∃ texts, buffer.Spliced number texts fixed := by
  obtain ⟨text, code, comment, found, -, rfl | ⟨ended, -, -, rfl⟩⟩ :=
    dropExtraSemicolon_eq_ok applied
  · exact ⟨_, Buffer.spliced_removeLine found⟩
  · exact ⟨_, Buffer.spliced_setLine found _⟩

/-! ## Imports -/

/-- The name that a message gives for an import, without the other name it may
go by. -/
def importName? (message : Text) : Option Text :=
  (quotedName? message).map fun target =>
    Text.trim (Text.upTo " as ".toList target)

/-- The items as they are written in a list. -/
def ImportItem.joined (items : List ImportItem) : Text :=
  [',', ' '].intercalate (items.map text)

/-- The code of a statement that goes on with the given items. -/
def importCode (text : Text) (statement : Import)
    (items : List ImportItem) : Text :=
  Text.indent text ++ statement.opening ++ ImportItem.joined items

/-- The line of that statement, with the comment of the old line. -/
def importLine (text : Text) (statement : Import)
    (items : List ImportItem) : Text :=
  Scan.withComment (importCode text statement items)
    (Scan.splitComment ['#'] text).2

/-- What becomes of the line of an import that keeps the given items only. -/
inductive ImportEdit (buffer : Buffer) (number : Nat) (text : Text)
    (statement : Import) :
    List ImportItem → Buffer → Prop
  | removed : isOnlyStatement buffer number (Text.indent text) = false →
      ImportEdit buffer number text statement [] (buffer.removeLine number)
  | passed : isOnlyStatement buffer number (Text.indent text) = true →
      ImportEdit buffer number text statement []
        (buffer.setLine number (Text.indent text ++ "pass".toList))
  | shortened {item : ImportItem} {items : List ImportItem} :
      ImportEdit buffer number text statement (item :: items)
        (buffer.setLine number (importLine text statement (item :: items)))

variable {keepPackageFiles : Bool} {path : Path} {message : Text}

theorem importEdit_iff {text : Text} {statement : Import}
    {items : List ImportItem} :
    ImportEdit buffer number text statement items fixed ↔
      (if items.map ImportItem.text = [] then
        if isOnlyStatement buffer number (Text.indent text) then
          .ok (buffer.setLine number (Text.indent text ++ "pass".toList))
        else .ok (buffer.removeLine number)
      else .ok (buffer.setLine number
          (importLine text statement items)) : Result) =
        .ok fixed := by
  constructor
  · intro edit
    cases edit with
    | removed several => simp [several]
    | passed only => simp [only]
    | shortened => rfl
  · intro same
    cases items with
    | nil =>
        rw [List.map_nil, if_pos rfl] at same
        split at same
        · next only =>
            cases same
            exact .passed only
        · next several =>
            cases same
            exact .removed (Bool.eq_false_iff.mpr several)
    | cons item items =>
        cases same
        exact .shortened

theorem ImportEdit.spliced {text : Text} {statement : Import}
    {items : List ImportItem}
    (edit : ImportEdit buffer number text statement items fixed)
    (found : buffer.line? number = some text) :
    ∃ texts, buffer.Spliced number texts fixed := by
  cases edit with
  | removed => exact ⟨_, Buffer.spliced_removeLine found⟩
  | passed => exact ⟨_, Buffer.spliced_setLine found _⟩
  | shortened => exact ⟨_, Buffer.spliced_setLine found _⟩

theorem dropImport_eq_ok_iff :
    dropImport keepPackageFiles path message buffer number = .ok fixed ↔
      (keepPackageFiles && isPackageFile path) = false ∧
        ∃ text name statement index, buffer.line? number = some text ∧
          importName? message = some name ∧
          importOn (Text.trim (Scan.splitComment ['#'] text).1) =
            .ok statement ∧
          statement.find? name = some index ∧
          ImportEdit buffer number text statement
            (statement.items.eraseIdx index) fixed := by
  constructor
  · intro applied
    unfold dropImport at applied
    split at applied
    · next target quoted =>
        split at applied
        · cases applied
        · next allowed =>
            obtain ⟨text, found, applied⟩ := lineOf_bind applied
            obtain ⟨statement, read, applied⟩ := bind_eq_ok_iff.mp applied
            simp only at applied
            split at applied
            · next index place =>
                have named : importName? message =
                    some (Text.trim (Text.upTo " as ".toList target)) := by
                  rw [importName?, quoted, Option.map_some]
                exact ⟨Bool.eq_false_iff.mpr allowed, text, _, statement, index,
                  found, named, read, place, importEdit_iff.mpr applied⟩
            · cases applied
    · split at applied
      · cases applied
      · obtain ⟨text, found, applied⟩ := lineOf_bind applied
        cases applied
  · rintro ⟨allowed, text, name, statement, index, found, named, read,
      place, edit⟩
    obtain ⟨target, quoted, rfl⟩ := Option.map_eq_some_iff.mp named
    simp only [dropImport, allowed, quoted, lineOf_bind_eq found, read,
      ok_bind, place, if_neg Bool.false_ne_true]
    exact importEdit_iff.mp edit

/-- An import is dropped in the line, or with it, or gives way to `pass`. -/
theorem dropImport_spliced
    (applied : dropImport keepPackageFiles path message buffer number =
      .ok fixed) :
    ∃ texts, buffer.Spliced number texts fixed := by
  obtain ⟨-, text, _, statement, _, found, -, -, -, edit⟩ :=
    dropImport_eq_ok_iff.mp applied
  exact edit.spliced found

/-- A fix of a single line replaces the line it is addressed to and no other. -/
theorem apply_spliced {fix : Fix} (addressed : fix.isLineAddressed = true)
    {keepPackageFiles : Bool} {issue : Issue}
    (applied : fix.apply keepPackageFiles issue buffer = .ok fixed) :
    ∃ texts, (texts = [] → fix.mayRemove = true) ∧
      buffer.Spliced issue.line texts fixed := by
  cases fix with
  | removeUnusedImport =>
      obtain ⟨texts, spliced⟩ := dropImport_spliced applied
      exact ⟨texts, fun _ => rfl, spliced⟩
  | removeExtraSemicolon =>
      obtain ⟨texts, spliced⟩ := dropExtraSemicolon_spliced applied
      exact ⟨texts, fun _ => rfl, spliced⟩
  | splitStatements =>
      obtain ⟨texts, several, spliced⟩ := splitLine_spliced applied
      exact ⟨texts, fun none => absurd none several, spliced⟩
  | plainStringLiteral | noneIdentityComparison | boolIdentityComparison =>
      obtain ⟨text, spliced⟩ := changeCode_spliced applied
      exact ⟨[text], nofun, spliced⟩
  | stripTrailingWhitespace =>
      obtain ⟨text, spliced⟩ := stripTrailing_spliced applied
      exact ⟨[text], nofun, spliced⟩
  | removeUselessSemicolon =>
      obtain ⟨text, spliced⟩ := dropFinalSemicolon_spliced applied
      exact ⟨[text], nofun, spliced⟩
  | preferConst =>
      obtain ⟨text, spliced⟩ := letToConst_spliced applied
      exact ⟨[text], nofun, spliced⟩
  | ensureFinalNewline | trimTrailingBlankLines => cases addressed

end Fix

end LintMend
