import Mathlib.Data.List.Forall2
import Mathlib.Data.List.TakeWhile
import LintMend.Proofs.Except
import LintMend.Proofs.Json.Numbers

/-!
# Values read back

A value is read back from the text that it is written as, on one line or
indented, and reading stops behind it. Strings, words and whole numbers are read
as they were; a double is read as the number that its text stands for.
-/

namespace LintMend

namespace JsonText

/-- A text that is read as the data, wherever it ends. -/
structure Reads (text : Text) (data : Data) : Prop where
  start : ∃ c ∈ text.head?, isBlank c = false ∧ c ≠ ']'
  read : ∀ {fuel : Nat} {behind : Text}, Ends behind → 2 * text.length ≤ fuel →
    readValue fuel (text ++ behind) = (data, some behind)

variable {text : Text} {data : Data}

/-- A text that starts a value takes up fuel. -/
theorem Reads.of_succ {c : Char} {rest : Text} (plain : isBlank c = false)
    (apart : c ≠ ']')
    (read : ∀ {fuel : Nat} {behind : Text},
      Ends behind → 2 * rest.length < fuel →
      readValue (fuel + 1) (c :: (rest ++ behind)) = (data, some behind)) :
    Reads (c :: rest) data where
  start := ⟨c, rfl, plain, apart⟩
  read {fuel behind} ended enough := by
    rw [List.length_cons] at enough
    obtain ⟨fuel, rfl⟩ := Nat.exists_eq_succ_of_ne_zero (by omega : fuel ≠ 0)
    exact read ended (by omega)

theorem skipBlanks_cons {c : Char} (plain : isBlank c = false) (rest : Text) :
    skipBlanks (c :: rest) = c :: rest :=
  List.dropWhile_cons_of_neg (by rw [plain]; decide)

theorem skipBlanks_append {blanks : Text}
    (blank : ∀ c ∈ blanks, isBlank c = true) (rest : Text) :
    skipBlanks (blanks ++ rest) = skipBlanks rest :=
  List.dropWhile_append_of_pos blank

theorem readValue_blanks {blanks : Text}
    (blank : ∀ c ∈ blanks, isBlank c = true) (fuel : Nat) (rest : Text) :
    readValue fuel (blanks ++ rest) = readValue fuel rest := by
  cases fuel with
  | zero => rfl
  | succ fuel => rw [readValue, readValue, skipBlanks_append blank]

/-! ## Scalars -/

theorem Reads.scalar {c : Char} {rest : Text} (plain : isBlank c = false)
    (bracket : c ≠ '[' ∧ c ≠ ']' ∧ c ≠ '\x7b')
    (read : ∀ {behind : Text}, Ends behind →
      readScalar? (c :: (rest ++ behind)) = some (data, behind)) :
    Reads (c :: rest) data := by
  refine Reads.of_succ plain bracket.2.1 fun ended _ => ?_
  rw [readValue, skipBlanks_cons plain]
  split
  next same => exact absurd (List.cons.inj same).1 bracket.1
  next same => exact absurd (List.cons.inj same).1 bracket.2.2
  next => simp only [read ended]

theorem reads_quoted (value : String) :
    Reads (Json.quoted value).toList (.string (some value)) := by
  have whole := readScalar?_quoted value
  rw [toList_quoted] at whole ⊢
  exact Reads.scalar rfl (by decide) fun _ => whole _

private theorem readWord?_eq (text : Text) :
    readWord? text =
      match Text.after? ['n', 'u', 'l', 'l'] text with
      | some rest => some (.null, rest)
      | none =>
        match Text.after? ['t', 'r', 'u', 'e'] text with
        | some rest => some (.bool true, rest)
        | none =>
          (Text.after? ['f', 'a', 'l', 's', 'e'] text).map fun rest =>
            (.bool false, rest) :=
  rfl

theorem reads_null : Reads ['n', 'u', 'l', 'l'] .null :=
  Reads.scalar rfl (by decide) fun _ =>
    by simp [readScalar?, readWord?_eq, Text.after?]

theorem reads_true : Reads ['t', 'r', 'u', 'e'] (.bool true) :=
  Reads.scalar rfl (by decide) fun _ =>
    by simp [readScalar?, readWord?_eq, Text.after?]

theorem reads_false : Reads ['f', 'a', 'l', 's', 'e'] (.bool false) :=
  Reads.scalar rfl (by decide) fun _ =>
    by simp [readScalar?, readWord?_eq, Text.after?]

/-- A numeral is read as the number that its pieces make. -/
theorem reads_figures (negative : Bool) {figures : Figures}
    (proper : figures.Proper) :
    Reads (figures.text negative) (figures.numeral negative).data := by
  have number {behind : Text} (ended : Ends behind) :=
    readNumber?_text negative proper ended
  obtain ⟨c, rest, cons, signOrDigit⟩ : ∃ c rest,
      figures.text negative = c :: rest ∧ (c = '-' ∨ c.isDigit = true) := by
    obtain ⟨first, rest, digits⟩ := List.exists_cons_of_ne_nil proper.whole.1.1
    cases negative with
    | true => exact ⟨_, _, rfl, .inl rfl⟩
    | false =>
        rw [Figures.text, digits]
        exact ⟨_, _, rfl,
          .inr (proper.whole.1.2 _ (digits ▸ List.mem_cons_self))⟩
  rw [cons] at number ⊢
  have apart {d : Char} (other : d ≠ '-' ∧ d.isDigit = false) : c ≠ d := by
    rintro rfl
    rcases signOrDigit with same | digit
    · exact other.1 same
    · rw [other.2] at digit
      cases digit
  have plain : isBlank c = false := by
    simp only [isBlank, Bool.or_eq_false_iff, beq_eq_false_iff_ne]
    exact ⟨⟨⟨apart (by decide), apart (by decide)⟩, apart (by decide)⟩,
      apart (by decide)⟩
  refine Reads.scalar plain ⟨apart (by decide), apart (by decide),
    apart (by decide)⟩ ?_
  intro behind ended
  have word : readWord? (c :: (rest ++ behind)) = none := by
    simp [readWord?_eq, Text.after?, Ne.symm (apart (d := 'n') (by decide)),
      Ne.symm (apart (d := 't') (by decide)),
      Ne.symm (apart (d := 'f') (by decide))]
  rw [readScalar?, word, Option.none_or]
  · exact number ended
  · rintro quoted same
    exact absurd (List.cons.inj same).1 (apart (by decide))

/-! ## Lists and objects -/

section

variable {blanks close : Text}

theorem ends_close (blank : ∀ c ∈ close, isBlank c = true) {mark : Char}
    (closes : mark = ',' ∨ mark = ']' ∨ mark = '\x7d') (behind : Text) :
    Ends (close ++ mark :: behind) := by
  cases close with
  | nil => exact ends_cons _ (.inr closes)
  | cons c rest => exact ends_cons _ (.inl (blank c List.mem_cons_self))

/-- The items of a list, each behind some blanks, with more of them in front of
the bracket. -/
theorem readItems_joined (blank : ∀ c ∈ blanks, isBlank c = true)
    (closeBlank : ∀ c ∈ close, isBlank c = true) {texts : List Text}
    {items : List Data} (reads : List.Forall₂ Reads texts items)
    (some : texts ≠ []) (fuel : Nat) (behind : Text)
    (enough : 2 * ([','].intercalate (texts.map (blanks ++ ·))).length < fuel) :
    readItems fuel ([','].intercalate (texts.map (blanks ++ ·)) ++
        (close ++ ']' :: behind)) =
      (items, .some behind) := by
  induction reads generalizing fuel with
  | nil => exact absurd rfl some
  | @cons text item texts items first rest induction =>
      obtain ⟨fuel, rfl⟩ := Nat.exists_eq_succ_of_ne_zero
        (Nat.ne_of_gt (Nat.lt_of_le_of_lt (Nat.zero_le _) enough))
      cases rest with
      | nil =>
          simp only [List.map_cons, List.map_nil, List.intercalate_singleton,
            List.length_append, List.append_assoc] at enough ⊢
          rw [readItems, readValue_blanks blank,
            first.read (ends_close closeBlank (.inr (.inl rfl)) behind)
              (by omega)]
          simp only [skipBlanks_append closeBlank]
          rw [skipBlanks_cons rfl]
          rfl
      | cons second rest =>
          have later := induction (List.cons_ne_nil _ _) fuel
          simp only [List.map_cons, List.intercalate_cons_cons,
            List.length_append, List.length_cons, List.append_assoc,
            List.cons_append, List.nil_append]
            at enough later ⊢
          rw [readItems, readValue_blanks blank,
            first.read (ends_cons _ (.inr (.inl rfl))) (by omega)]
          simp only [skipBlanks_cons (show isBlank ',' = false from rfl)]
          rw [later (by omega)]

/-- A field: its name in quotes, a colon, blanks and the value. -/
def ReadsField (text : Text) (field : Option String × Data) : Prop :=
  ∃ key gap value, text = (Json.quoted key).toList ++ ':' :: (gap ++ value) ∧
    (∀ c ∈ gap, isBlank c = true) ∧ field.1 = some key ∧ Reads value field.2

/-- The step that is common to the last field and the ones before it. -/
private theorem readField {text : Text} {field : Option String × Data}
    (reads : ReadsField text field) (blank : ∀ c ∈ blanks, isBlank c = true)
    {behind : Text} (ended : Ends behind) {fuel : Nat}
    (enough : 2 * text.length ≤ fuel) :
    readFields (fuel + 1) (blanks ++ (text ++ behind)) =
      match skipBlanks behind with
      | ',' :: rest =>
        let (fields, behind) := readFields fuel rest
        (field :: fields, behind)
      | '\x7d' :: rest => ([field], some rest)
      | _ => ([field], none) := by
  obtain ⟨key, gap, value, rfl, gapBlank, named, reads⟩ := reads
  obtain ⟨name, data⟩ := field
  obtain rfl : name = some key := named
  have room : 2 * value.length ≤ fuel := by
    simp only [List.length_append, List.length_cons] at enough
    omega
  rw [readFields, skipBlanks_append blank, toList_quoted]
  simp only [List.cons_append, List.append_assoc, List.nil_append,
    skipBlanks_cons (show isBlank '"' = false from rfl), readString_escaped,
    skipBlanks_cons (show isBlank ':' = false from rfl),
    readValue_blanks gapBlank, Option.map_some, String.ofList_toList]
  rewrite [reads.read ended room]
  rfl

theorem readFields_joined (blank : ∀ c ∈ blanks, isBlank c = true)
    (closeBlank : ∀ c ∈ close, isBlank c = true) {texts : List Text}
    {fields : List (Option String × Data)}
    (reads : List.Forall₂ ReadsField texts fields) (some : texts ≠ [])
    (fuel : Nat) (behind : Text)
    (enough : 2 * ([','].intercalate (texts.map (blanks ++ ·))).length < fuel) :
    readFields fuel
        ([','].intercalate (texts.map (blanks ++ ·)) ++
          (close ++ '\x7d' :: behind)) =
      (fields, .some behind) := by
  induction reads generalizing fuel with
  | nil => exact absurd rfl some
  | @cons text field texts fields first rest induction =>
      obtain ⟨fuel, rfl⟩ := Nat.exists_eq_succ_of_ne_zero
        (Nat.ne_of_gt (Nat.lt_of_le_of_lt (Nat.zero_le _) enough))
      cases rest with
      | nil =>
          simp only [List.map_cons, List.map_nil, List.intercalate_singleton,
            List.length_append, List.append_assoc] at enough ⊢
          rw [readField first blank
            (ends_close closeBlank (.inr (.inr rfl)) behind) (by omega),
            skipBlanks_append closeBlank, skipBlanks_cons rfl]
          rfl
      | cons second rest =>
          have later := induction (List.cons_ne_nil _ _) fuel
          simp only [List.map_cons, List.intercalate_cons_cons,
            List.length_append, List.length_cons, List.append_assoc,
            List.cons_append, List.nil_append]
            at enough later ⊢
          rw [readField first blank (ends_cons _ (.inr (.inl rfl))) (by omega),
            skipBlanks_cons rfl]
          simp only [later (by omega)]

/-- Behind the opening bracket, the first item is found behind its blanks. -/
private theorem skipBlanks_joined (blank : ∀ c ∈ blanks, isBlank c = true)
    {first : Text} {c : Char} (head : first.head? = some c)
    (plain : isBlank c = false) (rest : List Text) (behind : Text) :
    ∃ tail, skipBlanks
        ([','].intercalate ((first :: rest).map (blanks ++ ·)) ++ behind) =
      c :: tail := by
  obtain ⟨d, inner, rfl⟩ : ∃ d inner, first = d :: inner := by
    cases first with
    | nil => cases head
    | cons d inner => exact ⟨d, inner, rfl⟩
  obtain rfl : d = c := by simpa using head
  cases rest with
  | nil =>
      refine ⟨inner ++ behind, ?_⟩
      simp only [List.map_cons, List.map_nil, List.intercalate_singleton,
        List.append_assoc]
      rw [skipBlanks_append blank]
      exact skipBlanks_cons plain _
  | cons second rest =>
      refine ⟨inner
        ++ ([','] ++ ([','].intercalate ((second :: rest).map (blanks ++ ·))
        ++ behind)), ?_⟩
      simp only [List.map_cons, List.intercalate_cons_cons, List.append_assoc]
      rw [skipBlanks_append blank]
      exact skipBlanks_cons plain _

theorem Reads.array (blank : ∀ c ∈ blanks, isBlank c = true)
    (closeBlank : ∀ c ∈ close, isBlank c = true) {texts : List Text}
    {items : List Data} (reads : List.Forall₂ Reads texts items)
    (some : texts ≠ []) :
    Reads
      ('[' :: ([','].intercalate (texts.map (blanks ++ ·)) ++ (close ++ [']'])))
      (.array items true) := by
  refine Reads.of_succ rfl (by decide) fun {fuel behind} ended enough => ?_
  simp only [List.length_append] at enough
  have read :=
    readItems_joined blank closeBlank reads some fuel behind (by omega)
  obtain ⟨first, rest, rfl⟩ := List.exists_cons_of_ne_nil some
  obtain ⟨c, head, plain, apart⟩ :
      ∃ c ∈ first.head?, isBlank c = false ∧ c ≠ ']' := by
    cases reads with
    | cons firstReads => exact firstReads.start
  obtain ⟨tail, skipped⟩ :=
    skipBlanks_joined blank head plain rest (close ++ ']' :: behind)
  simp only [List.cons_append, List.append_assoc, List.nil_append]
  rw [readValue, skipBlanks_cons rfl]
  simp only [skipped]
  split
  next closed => exact absurd (List.cons.inj closed).1 apart
  next => rw [read]; rfl

theorem Reads.object (blank : ∀ c ∈ blanks, isBlank c = true)
    (closeBlank : ∀ c ∈ close, isBlank c = true) {texts : List Text}
    {fields : List (Option String × Data)}
    (reads : List.Forall₂ ReadsField texts fields) (some : texts ≠ []) :
    Reads ('\x7b' ::
        ([','].intercalate (texts.map (blanks ++ ·)) ++ (close ++ ['\x7d'])))
      (.object fields true) := by
  refine Reads.of_succ rfl (by decide) fun {fuel behind} ended enough => ?_
  simp only [List.length_append] at enough
  have read :=
    readFields_joined blank closeBlank reads some fuel behind (by omega)
  obtain ⟨first, rest, rfl⟩ := List.exists_cons_of_ne_nil some
  have head : first.head? = .some '"' := by
    cases reads with
    | cons first =>
        obtain ⟨key, gap, value, rfl, -⟩ := first
        rw [toList_quoted]
        rfl
  obtain ⟨tail, skipped⟩ :=
    skipBlanks_joined blank head rfl rest (close ++ '\x7d' :: behind)
  simp only [List.cons_append, List.append_assoc, List.nil_append]
  rw [readValue, skipBlanks_cons rfl]
  simp only [skipped]
  rw [read]
  rfl

theorem reads_emptyArray : Reads ['[', ']'] (.array [] true) :=
  Reads.of_succ rfl (by decide) fun _ _ => rfl

theorem reads_emptyObject : Reads ['\x7b', '\x7d'] (.object [] true) :=
  Reads.of_succ rfl (by decide) fun _ _ => rfl

end

end JsonText

/-! ## All values -/

namespace Json

open JsonText

theorem reads_integer {value : Int} (word : IsWord value) :
    Reads (toString value).toList (.integer value) := by
  rw [toList_toString_int, ← data_integer word]
  exact reads_figures _ (Figures.proper_ofNat _)

/-- What the text of a double is read as. -/
def floatData (x : Float) : Data :=
  match FloatParts.ofFloat x with
  | .finite negative magnitude =>
    ((Figures.ofDecimal (Decimal.shortest magnitude)).numeral negative).data
  | _ => .null

theorem reads_float (x : Float) : Reads (floatText x).toList (floatData x) := by
  cases parts : FloatParts.ofFloat x with
  | finite negative magnitude =>
      rw [toList_floatText parts]
      simp only [floatData, parts]
      exact reads_figures _ (Figures.proper_ofDecimal _)
  | infinite negative =>
      simp only [floatText, floatData, parts]
      exact reads_null
  | notANumber =>
      simp only [floatText, floatData, parts]
      exact reads_null

mutual

/-- The data that the text of a value stands for. -/
def written : Json → Data
  | null => .null
  | bool value => .bool value
  | integer value => .integer value
  | float value => floatData value
  | string value => .string (some value)
  | array items => .array (writtenItems items) true
  | object fields => .object (writtenFields fields) true

def writtenItems : List Json → List Data
  | [] => []
  | item :: items => item.written :: writtenItems items

def writtenFields : List (String × Json) → List (Option String × Data)
  | [] => []
  | (key, value) :: fields => (some key, value.written) :: writtenFields fields

end

mutual

/-- All integers fit into a word. -/
def Exact : Json → Prop
  | integer value => IsWord value
  | array items => ExactItems items
  | object fields => ExactFields fields
  | null | bool _ | float _ | string _ => True

def ExactItems : List Json → Prop
  | [] => True
  | item :: items => item.Exact ∧ ExactItems items

def ExactFields : List (String × Json) → Prop
  | [] => True
  | (_, value) :: fields => value.Exact ∧ ExactFields fields

end

theorem reads_bool (value : Bool) :
    Reads (bool value).compact.toList (.bool value) := by
  cases value
  · exact reads_false
  · exact reads_true

/-- What stands in front of an item of a bracketed list, and what in front of
its end. -/
def margin (depth : Nat) : Text :=
  '\n' :: List.replicate (2 * depth) ' '

theorem margin_blank (depth : Nat) : ∀ c ∈ margin depth, isBlank c = true := by
  simp only [margin, List.mem_cons, List.mem_replicate]
  rintro c (rfl | ⟨-, rfl⟩) <;> rfl

theorem margin_succ (depth : Nat) :
    margin (depth + 1) = margin depth ++ [' ', ' '] := by
  simp [margin, Nat.mul_add, List.replicate_add]

theorem toList_bracketed (first last : String) (depth : Nat)
    {items : List String} (some : items ≠ []) :
    (bracketed first last depth items).toList =
      first.toList ++ ([','].intercalate
        ((items.map String.toList).map (margin (depth + 1) ++ ·))
          ++ (margin depth ++ last.toList)) := by
  have pad : ("\n" ++ String.ofList (List.replicate (2 * depth) ' ')).toList =
      margin depth := by
    simp [margin]
  have shown : items.isEmpty = false := List.isEmpty_eq_false_iff.mpr some
  simp only [bracketed, shown, Bool.false_eq_true, if_false,
    String.toList_append, pad, String.toList_intercalate, List.map_map,
    Function.comp_def, margin_succ, List.append_assoc]
  rfl

section

variable {texts : List String}

theorem reads_array_compact {items : List Data}
    (reads : List.Forall₂ Reads (texts.map String.toList) items) :
    Reads ("[" ++ ",".intercalate texts ++ "]").toList (.array items true) := by
  cases texts with
  | nil =>
      cases reads
      exact reads_emptyArray
  | cons text texts =>
      have array := @Reads.array [] [] (by simp) (by simp) _ _ reads (by simp)
      simp only [List.nil_append, List.map_id'] at array
      simpa using array

theorem reads_array_bracketed (depth : Nat) {items : List Data}
    (reads : List.Forall₂ Reads (texts.map String.toList) items) :
    Reads (bracketed "[" "]" depth texts).toList (.array items true) := by
  cases texts with
  | nil =>
      cases reads
      simpa [bracketed] using reads_emptyArray
  | cons text texts =>
      rw [toList_bracketed _ _ _ (List.cons_ne_nil _ _)]
      exact Reads.array (margin_blank (depth + 1))
        (margin_blank depth) reads (by simp)

theorem reads_object_compact {fields : List (Option String × Data)}
    (reads : List.Forall₂ ReadsField (texts.map String.toList) fields) :
    Reads ("\x7b" ++ ",".intercalate texts ++ "\x7d").toList
      (.object fields true) := by
  cases texts with
  | nil =>
      cases reads
      exact reads_emptyObject
  | cons text texts =>
      have object := @Reads.object [] [] (by simp) (by simp) _ _ reads (by simp)
      simp only [List.nil_append, List.map_id'] at object
      simpa using object

theorem reads_object_bracketed (depth : Nat)
    {fields : List (Option String × Data)}
    (reads : List.Forall₂ ReadsField (texts.map String.toList) fields) :
    Reads (bracketed "\x7b" "\x7d" depth texts).toList
      (.object fields true) := by
  cases texts with
  | nil =>
      cases reads
      simpa [bracketed] using reads_emptyObject
  | cons text texts =>
      rw [toList_bracketed _ _ _ (List.cons_ne_nil _ _)]
      exact Reads.object (margin_blank (depth + 1))
        (margin_blank depth) reads (by simp)

end

theorem readsField_compact (key : String) {value : String} {data : Data}
    (reads : Reads value.toList data) :
    ReadsField (quoted key ++ ":" ++ value).toList (some key, data) :=
  ⟨key, [], value.toList, by simp, by simp, rfl, reads⟩

theorem readsField_spaced (key : String) {value : String} {data : Data}
    (reads : Reads value.toList data) :
    ReadsField (quoted key ++ ": " ++ value).toList (some key, data) :=
  ⟨key, [' '], value.toList, by simp, by simp [isBlank], rfl, reads⟩

mutual

/-- A value is read back from its text on one line. -/
theorem reads_compact (json : Json) (exact : json.Exact) :
    Reads json.compact.toList json.written := by
  cases json with
  | null => exact reads_null
  | bool value => exact reads_bool value
  | integer value => exact reads_integer exact
  | float value => exact reads_float value
  | string value => exact reads_quoted value
  | array items => exact reads_array_compact (reads_compactItems items exact)
  | object fields =>
      exact reads_object_compact (reads_compactFields fields exact)

theorem reads_compactItems (items : List Json) (exact : ExactItems items) :
    List.Forall₂ Reads ((compactItems items).map String.toList)
      (writtenItems items) := by
  cases items with
  | nil => exact .nil
  | cons item items =>
      exact .cons (reads_compact item exact.1)
        (reads_compactItems items exact.2)

theorem reads_compactFields (fields : List (String × Json))
    (exact : ExactFields fields) :
    List.Forall₂ ReadsField ((compactFields fields).map String.toList)
      (writtenFields fields) := by
  cases fields with
  | nil => exact .nil
  | cons field fields =>
      exact .cons (readsField_compact field.1 (reads_compact field.2 exact.1))
        (reads_compactFields fields exact.2)

end

mutual

/-- A value is read back from its indented text. -/
theorem reads_indented (depth : Nat) (json : Json) (exact : json.Exact) :
    Reads (json.indented depth).toList json.written := by
  cases json with
  | null =>
      rw [indented]
      exact reads_null
  | bool value =>
      cases value <;> rw [indented]
      · exact reads_false
      · exact reads_true
  | integer value => exact reads_integer exact
  | float value => exact reads_float value
  | string value => exact reads_quoted value
  | array items =>
      exact reads_array_bracketed depth
        (reads_indentedItems (depth + 1) items exact)
  | object fields =>
      exact reads_object_bracketed depth
        (reads_indentedFields (depth + 1) fields exact)

theorem reads_indentedItems (depth : Nat) (items : List Json)
    (exact : ExactItems items) :
    List.Forall₂ Reads ((indentedItems depth items).map String.toList)
      (writtenItems items) := by
  cases items with
  | nil => exact .nil
  | cons item items =>
      exact .cons (reads_indented depth item exact.1)
        (reads_indentedItems depth items exact.2)

theorem reads_indentedFields (depth : Nat) (fields : List (String × Json))
    (exact : ExactFields fields) :
    List.Forall₂ ReadsField ((indentedFields depth fields).map String.toList)
      (writtenFields fields) := by
  cases fields with
  | nil => exact .nil
  | cons field fields =>
      exact .cons (readsField_spaced field.1
          (reads_indented depth field.2 exact.1))
        (reads_indentedFields depth fields exact.2)

end

end Json

/-! ## Whole texts -/

namespace JsonText

/-- A text that holds one value and blanks is decoded from the data of the
value. -/
theorem decode_of_reads {α : Type} (decoder : Decoder α) (blanks behind : Text)
    {text : Text} {data : Data} (reads : Reads text data)
    (blank : ∀ c ∈ blanks, isBlank c = true)
    (rest : ∀ c ∈ behind, isBlank c = true) :
    decode decoder (blanks ++ (text ++ behind)) = decoder data := by
  have ended : Ends behind := by
    intro c member
    exact .inl (rest c (List.mem_of_mem_head? member))
  have skipped : skipBlanks behind = [] := by
    rw [skipBlanks, List.dropWhile_eq_nil_iff]
    exact rest
  have done :
      readValue (2 * (blanks ++ (text ++ behind)).length + 2) (text ++ behind) =
        (data, some behind) :=
    reads.read ended (by simp only [List.length_append]; omega)
  rw [decode, read, readValue_blanks blank, done]
  cases decoded : decoder data with
  | error fault => simp [decoded]
  | ok value => simp [decoded, skipped]

/-- A character that is blank, but not for JSON, starts no value. -/
theorem readScalar?_of_foreign {c : Char} (space : Text.isBlank c = true)
    (rest : Text) :
    readScalar? (c :: rest) = none := by
  have apart (mark : Char) (shown : Text.isBlank mark = false) : mark ≠ c := by
    rintro rfl
    rw [space] at shown
    cases shown
  have digit : c.isDigit = false := by
    by_contra found
    rw [Text.isBlank_of_isDigit (by simpa using found)] at space
    cases space
  have word : readWord? (c :: rest) = none := by
    simp [readWord?_eq, Text.after?, apart 'n' rfl, apart 't' rfl,
      apart 'f' rfl]
  have number : readNumber? (c :: rest) = none := by
    simp [readNumber?, takeDigits, (apart '-' rfl).symm, digit]
  unfold readScalar?
  split
  next same => exact absurd (List.cons.inj same).1.symm (apart '"' rfl)
  next => rw [word, number]; rfl

theorem read_of_foreign {blanks : Text} (blank : ∀ c ∈ blanks, isBlank c = true)
    {c : Char} (space : Text.isBlank c = true) (foreign : isBlank c = false)
    (rest : Text) :
    (read (blanks ++ c :: rest)).1 = .broken := by
  have scalar := readScalar?_of_foreign space rest
  rw [read, readValue_blanks blank, readValue, skipBlanks_cons foreign]
  split
  next same =>
    obtain ⟨rfl, -⟩ := List.cons.inj same
    cases space
  next same =>
    obtain ⟨rfl, -⟩ := List.cons.inj same
    cases space
  next => rw [scalar]

theorem decode_eq_ok {α : Type} {decoder : Decoder α} {text : Text} {value : α}
    (decoded : decode decoder text = .ok value) :
    decoder (read text).1 = .ok value := by
  obtain ⟨found, read, checked⟩ := bind_eq_ok_iff.mp decoded
  by_cases done : (JsonText.read text).2.map skipBlanks = some []
  · obtain rfl := Except.ok.inj ((if_pos done).symm.trans checked)
    exact read
  · cases (if_neg done).symm.trans checked

end JsonText

theorem Json.decode_compact {α : Type} (decoder : Decoder α) {json : Json}
    (exact : json.Exact) :
    JsonText.decode decoder json.compact.toList = decoder json.written := by
  have decoded := JsonText.decode_of_reads decoder [] []
    (json.reads_compact exact) (by simp) (by simp)
  rwa [List.append_nil, List.nil_append] at decoded

theorem Json.decode_pretty {α : Type} (decoder : Decoder α) {json : Json}
    (exact : json.Exact) :
    JsonText.decode decoder json.pretty.toList = decoder json.written := by
  have decoded := JsonText.decode_of_reads decoder [] []
    (json.reads_indented 0 exact) (by simp) (by simp)
  rwa [List.append_nil, List.nil_append] at decoded

end LintMend
