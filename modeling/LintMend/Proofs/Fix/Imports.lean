import LintMend.Proofs.Fix.Literals
import LintMend.Proofs.Path.Steps
import LintMend.Proofs.Scan.Pieces

/-!
# Import statements

An import statement is written again without one of its items, and what is
written reads as the statement with the other items. The item that goes is the
first one that the message may mean. One whose full name is in the message is no
better than one that goes by the last part of it, so the item that is meant goes
only if none in front of it resembles the name.
-/

namespace LintMend

namespace Fix

/-! ## Lists of items -/

namespace ImportItem

variable {item : ImportItem} {items : List ImportItem} {text : Text}

@[simp]
theorem ofText_text (text : Text) : (ofText text).text = text := by
  unfold ofText
  split <;> rfl

theorem text_subset (member : item ∈ list text) : item.text ⊆ text := by
  obtain ⟨piece, inside, rfl⟩ := List.mem_map.mp member
  obtain ⟨whole, cut, rfl⟩ := List.mem_map.mp (List.mem_filter.mp inside).1
  rw [ofText_text]
  exact List.Subset.trans (Text.trim_subset whole)
    (Text.splitOn_subset _ text whole cut)

/-- An item as it stands in a list: it is not empty and has no blanks at its
ends and no comma. -/
structure Listed (item : ImportItem) : Prop where
  some : item.text ≠ []
  trimmed : Text.trim item.text = item.text
  single : ',' ∉ item.text
  read : ofText item.text = item

theorem listed_of_mem (member : item ∈ list text) : item.Listed := by
  obtain ⟨piece, inside, rfl⟩ := List.mem_map.mp member
  obtain ⟨cut, some⟩ := List.mem_filter.mp inside
  obtain ⟨whole, part, rfl⟩ := List.mem_map.mp cut
  have single := Text.not_mem_of_mem_splitOn part
  constructor
  · rw [ofText_text]
    simpa using some
  · rw [ofText_text, Text.trim_trim]
  · rw [ofText_text]
    exact fun comma => single (Text.trim_subset whole comma)
  · rw [ofText_text]

@[simp]
theorem list_append (front behind : Text) :
    list (front ++ ',' :: behind) = list front ++ list behind := by
  simp [list, List.splitOn_append_cons_self]

theorem list_text (listed : item.Listed) : list item.text = [item] := by
  rw [list, List.splitOn_eq_singleton listed.single, List.map_singleton,
    listed.trimmed, List.filter_cons_of_pos (by simpa using listed.some),
    List.filter_nil, List.map_singleton, listed.read]

/-- A blank in front of a list belongs to no item. -/
@[simp]
theorem list_space (text : Text) : list (' ' :: text) = list text := by
  obtain ⟨piece, pieces, cut⟩ :=
    List.exists_cons_of_ne_nil (List.splitOn_ne_nil ',' text)
  have space : (' ' :: text).splitOn ',' = (' ' :: piece) :: pieces := by
    rw [List.splitOn_cons_eq_if_modifyHead, cut]
    rfl
  have same : Text.trim (' ' :: piece) = Text.trim piece := rfl
  rw [list, list, space, cut, List.map_cons, List.map_cons, same]

@[simp]
theorem joined_singleton (item : ImportItem) : joined [item] = item.text :=
  List.intercalate_singleton

@[simp]
theorem joined_cons_cons (item next : ImportItem) (items : List ImportItem) :
    joined (item :: next :: items) = item.text ++ ',' :: ' ' ::
      joined (next :: items) := by
  rw [joined, List.map_cons, List.map_cons, List.intercalate_cons_cons,
    List.append_assoc]
  rfl

theorem list_joined (listed : ∀ item ∈ items, item.Listed) :
    list (joined items) = items := by
  induction items with
  | nil => rfl
  | cons item items induction =>
      obtain ⟨here, behind⟩ := List.forall_mem_cons.mp listed
      cases items with
      | nil => rw [joined_singleton, list_text here]
      | cons next items =>
          rw [joined_cons_cons, list_append, list_text here, list_space,
            induction behind]
          rfl

theorem joined_ne_nil (listed : ∀ item ∈ items, item.Listed)
    (several : items ≠ []) :
    joined items ≠ [] := by
  cases items with
  | nil => exact absurd rfl several
  | cons item items =>
      obtain ⟨here, -⟩ := List.forall_mem_cons.mp listed
      cases items with
      | nil => simpa using here.some
      | cons next items => simp

theorem trimStart_joined (listed : ∀ item ∈ items, item.Listed) :
    Text.trimStart (joined items) = joined items := by
  cases items with
  | nil => rfl
  | cons item items =>
      obtain ⟨here, -⟩ := List.forall_mem_cons.mp listed
      have start := Text.trimStart_of_trimmed here.trimmed
      cases items with
      | nil => rw [joined_singleton, start]
      | cons next items =>
          rw [joined_cons_cons,
            Text.trimStart_append (by rw [start]; exact here.some), start]

theorem head_joined (listed : ∀ item ∈ items, item.Listed)
    (several : items ≠ []) :
    ∃ c rest, joined items = c :: rest ∧ Text.isBlank c = false := by
  have start := trimStart_joined listed
  rcases Text.trimStart_cases (joined items) with none | begins
  · rw [start] at none
    exact absurd none (joined_ne_nil listed several)
  · rwa [start] at begins

theorem trimEnd_joined (listed : ∀ item ∈ items, item.Listed) :
    Text.trimEnd (joined items) = joined items := by
  induction items with
  | nil => rfl
  | cons item items induction =>
      obtain ⟨here, behind⟩ := List.forall_mem_cons.mp listed
      cases items with
      | nil => rw [joined_singleton, Text.trimEnd_of_trimmed here.trimmed]
      | cons next items =>
          have last := induction behind
          have some := joined_ne_nil behind (List.cons_ne_nil next items)
          have cut : joined (item :: next :: items) =
              (item.text ++ [',', ' ']) ++ joined (next :: items) := by
            rw [joined_cons_cons, List.append_assoc]
            rfl
          rw [cut, Text.trimEnd_append (by rwa [last]), last]

end ImportItem

/-! ## Statements -/

namespace Import

variable {text rest code : Text} {statement : Import}

theorem afterBlanks?_suffix (found : afterBlanks? text = some rest) :
    rest <:+ text := by
  unfold afterBlanks? at found
  split at found
  · cases found
  · next c behind =>
      split at found
      · split at found
        · cases found
        · cases found
          exact (List.dropWhile_suffix _).trans (List.suffix_cons c behind)
      · cases found

/-- What follows blanks begins with something else. -/
theorem head_of_afterBlanks? (found : afterBlanks? text = some rest) :
    ∃ c behind, rest = c :: behind ∧ Text.isBlank c = false := by
  unfold afterBlanks? at found
  split at found
  · cases found
  · next c behind =>
      split at found
      · split at found
        · cases found
        · next some =>
            cases found
            rcases Text.trimStart_cases behind with none | begins
            · exact absurd none some
            · exact begins
      · cases found

theorem afterBlanks?_space {c : Char} (stays : Text.isBlank c = false)
    (rest : Text) :
    afterBlanks? (' ' :: c :: rest) = some (c :: rest) := by
  have space : Text.isBlank ' ' = true := rfl
  rw [afterBlanks?, if_pos space, Text.trimStart_cons stays]

theorem afterKeyword?_suffix {keyword : Text}
    (found : afterKeyword? keyword text = some rest) :
    rest <:+ text := by
  obtain ⟨middle, after, blanks⟩ := Option.bind_eq_some_iff.mp found
  rw [Text.after?_eq_some.mp after]
  exact (afterBlanks?_suffix blanks).trans (List.suffix_append keyword middle)

@[simp]
theorem afterKeyword?_append (keyword text : Text) :
    afterKeyword? keyword (keyword ++ text) = afterBlanks? text := by
  rw [afterKeyword?, Text.after?_eq_some.mpr rfl, Option.bind_some]

theorem ofFrom?_eq_some (read : ofFrom? code = some statement) :
    ∃ rest behind list, afterKeyword? "from".toList code = some rest ∧
      afterBlanks? (rest.drop (rest.takeWhile fun c =>
        !Text.isBlank c).length) = some behind ∧
      afterKeyword? "import".toList behind = some list ∧
      statement = { module := some (rest.takeWhile fun c => !Text.isBlank c)
                    items := ImportItem.list list } := by
  simp only [ofFrom?, Option.bind_eq_bind, Option.bind_eq_some_iff] at read
  obtain ⟨rest, from', behind, blanks, list, keyword, same⟩ := read
  cases same
  exact ⟨rest, behind, list, from', blanks, keyword, rfl⟩

theorem ofPlain?_eq_some (read : ofPlain? code = some statement) :
    ∃ list, afterKeyword? "import".toList code = some list ∧
      statement = { module := none, items := ImportItem.list list } := by
  simp only [ofPlain?, Option.bind_eq_bind, Option.bind_eq_some_iff] at read
  obtain ⟨list, keyword, same⟩ := read
  cases same
  exact ⟨list, keyword, rfl⟩

/-- An import is read from its code. -/
theorem ofCode?_subset (read : ofCode? code = some statement) :
    (∀ module ∈ statement.module, module ⊆ code) ∧
      ∀ item ∈ statement.items, item.text ⊆ code := by
  rcases Option.or_eq_some_iff.mp read with found | ⟨-, found⟩
  · obtain ⟨rest, behind, list, from', blanks, keyword, rfl⟩ :=
      ofFrom?_eq_some found
    have start := (afterKeyword?_suffix from').subset
    have later := (afterBlanks?_suffix blanks).subset
    have last := (afterKeyword?_suffix keyword).subset
    refine ⟨?_, fun item member c inside => ?_⟩
    · rintro module ⟨⟩ c inside
      exact start ((List.takeWhile_prefix _).subset inside)
    · have inList := last (ImportItem.text_subset member inside)
      exact start (List.mem_of_mem_drop (later inList))
  · obtain ⟨list, keyword, rfl⟩ := ofPlain?_eq_some found
    refine ⟨nofun, fun item member c inside => ?_⟩
    exact (afterKeyword?_suffix keyword).subset
      (ImportItem.text_subset member inside)

/-- An import begins with one of its keywords. -/
theorem begins_of_ofCode? (read : ofCode? code = some statement) :
    ∃ c behind, code = c :: behind ∧ (c = 'f' ∨ c = 'i') := by
  rcases Option.or_eq_some_iff.mp read with found | ⟨-, found⟩
  · obtain ⟨rest, behind, list, from', -, -, -⟩ := ofFrom?_eq_some found
    obtain ⟨middle, after, -⟩ := Option.bind_eq_some_iff.mp from'
    exact ⟨'f', _, Text.after?_eq_some.mp after, .inl rfl⟩
  · obtain ⟨list, keyword, -⟩ := ofPlain?_eq_some found
    obtain ⟨middle, after, -⟩ := Option.bind_eq_some_iff.mp keyword
    exact ⟨'i', _, Text.after?_eq_some.mp after, .inr rfl⟩

/-- A statement as it can be read: its module is a word, and its items stand in
a list. -/
structure Readable (statement : Import) : Prop where
  word : ∀ module ∈ statement.module, module ≠ [] ∧ ∀ c ∈ module,
    Text.isBlank c = false
  listed : ∀ item ∈ statement.items, item.Listed

theorem readable_of_ofCode? (read : ofCode? code = some statement) :
    statement.Readable := by
  rcases Option.or_eq_some_iff.mp read with found | ⟨-, found⟩
  · obtain ⟨rest, behind, list, from', -, -, rfl⟩ := ofFrom?_eq_some found
    refine ⟨?_, fun item member => ImportItem.listed_of_mem member⟩
    rintro module ⟨⟩
    obtain ⟨middle, -, blanks⟩ := Option.bind_eq_some_iff.mp from'
    obtain ⟨c, behind, rfl, stays⟩ := head_of_afterBlanks? blanks
    constructor
    · rw [List.takeWhile_cons_of_pos (by rw [stays]; rfl)]
      exact List.cons_ne_nil _ _
    · intro c member
      simpa using List.mem_takeWhile_imp member
  · obtain ⟨list, -, rfl⟩ := ofPlain?_eq_some found
    exact ⟨nofun, fun item member => ImportItem.listed_of_mem member⟩

theorem ofFrom?_written {module list : Text} (some : module ≠ [])
    (word : ∀ c ∈ module, Text.isBlank c = false)
    (keyword : afterKeyword? "import".toList ("import".toList ++ ' ' :: list) =
      .some list) :
    ofFrom? ("from".toList ++ ' ' ::
        (module ++ ' ' :: ("import".toList ++ ' ' :: list))) =
      .some { module := .some module, items := ImportItem.list list } := by
  obtain ⟨first, others, rfl⟩ := List.exists_cons_of_ne_nil some
  have opened : afterKeyword? "from".toList ("from".toList ++
      ' ' :: (first :: others ++ ' ' :: ("import".toList ++ ' ' :: list))) =
        .some (first :: others ++ ' ' :: ("import".toList ++ ' ' :: list)) := by
    rw [afterKeyword?_append]
    exact afterBlanks?_space (word first List.mem_cons_self) _
  have named :
      (first :: others ++ ' ' :: ("import".toList ++ ' ' :: list)).takeWhile
      (fun c => !Text.isBlank c) = first :: others := by
    rw [List.takeWhile_append_of_pos fun c member => by simp [word c member],
      List.takeWhile_cons_of_neg (by decide), List.append_nil]
  have behind : afterBlanks? (' ' :: ("import".toList ++ ' ' :: list)) =
      .some ("import".toList ++ ' ' :: list) :=
    afterBlanks?_space rfl _
  simp only [ofFrom?, Option.bind_eq_bind, opened, Option.bind_some, named,
    List.drop_left, behind, keyword]

@[simp]
theorem ofFrom?_import (rest : Text) :
    ofFrom? ("import".toList ++ rest) = none := by
  have other : Text.after? "from".toList ("import".toList ++ rest) = none := by
    simp [Text.after?]
  rw [ofFrom?, afterKeyword?, other]
  rfl

/-- A statement that is written is read again, with the items it is written
with. -/
theorem ofCode?_written (readable : statement.Readable)
    {items : List ImportItem} (fewer : items ⊆ statement.items)
    (several : items ≠ []) :
    ofCode? (statement.opening ++ ImportItem.joined items) =
      some { statement with items } := by
  have listed : ∀ item ∈ items, item.Listed :=
    fun item member => readable.listed item (fewer member)
  have read := ImportItem.list_joined listed
  have keyword : afterKeyword? "import".toList
        ("import".toList ++ ' ' :: ImportItem.joined items) =
      some (ImportItem.joined items) := by
    obtain ⟨c, rest, written, stays⟩ := ImportItem.head_joined listed several
    rw [afterKeyword?_append, written]
    exact afterBlanks?_space stays rest
  obtain ⟨module, old⟩ := statement
  cases module with
  | none =>
      change ofCode? ("import".toList ++ ' ' :: ImportItem.joined items) = _
      rw [ofCode?, ofFrom?_import, Option.none_or, ofPlain?, keyword,
        Option.bind_eq_bind, Option.bind_some, read]
  | some module =>
      obtain ⟨some, word⟩ := readable.word module rfl
      have whole : opening { module := .some module, items := old } ++
          ImportItem.joined items =
          "from".toList ++ ' ' ::
            (module ++ ' ' ::
              ("import".toList ++ ' ' :: ImportItem.joined items)) := by
        have front : "from ".toList = "from".toList ++ [' '] := rfl
        have middle : " import ".toList = [' '] ++ "import".toList ++ [' '] :=
          rfl
        change "from ".toList ++ module ++ " import ".toList ++
          ImportItem.joined items = _
        rw [front, middle]
        simp
      rw [whole, ofCode?, ofFrom?_written some word keyword,
        Option.some_or, read]

/-- A statement is written with the characters it was read from and those of its
keywords. -/
theorem written_subset (read : ofCode? code = some statement)
    {items : List ImportItem} (fewer : items ⊆ statement.items) :
    statement.opening ++ ImportItem.joined items ⊆
      "from import, ".toList ++ code := by
  obtain ⟨inModule, inItems⟩ := ofCode?_subset read
  refine List.append_subset.mpr ⟨?_, Text.intercalate_subset ?_ ?_⟩
  · obtain ⟨module, items⟩ := statement
    have blanks : " import ".toList ⊆ "from import, ".toList := by decide
    have behind := List.Subset.trans blanks (List.subset_append_left _ code)
    cases module with
    | none =>
        have keyword : "import ".toList ⊆ "from import, ".toList := by decide
        exact List.Subset.trans keyword (List.subset_append_left _ code)
    | some module =>
        have keyword : "from ".toList ⊆ "from import, ".toList := by decide
        have front := List.Subset.trans keyword (List.subset_append_left _ code)
        have named := List.Subset.trans (inModule module rfl)
          (List.subset_append_right "from import, ".toList code)
        exact List.append_subset.mpr
          ⟨List.append_subset.mpr ⟨front, named⟩, behind⟩
  · have comma : [',', ' '] ⊆ "from import, ".toList := by decide
    exact List.Subset.trans comma (List.subset_append_left _ code)
  · intro text member
    obtain ⟨item, inside, rfl⟩ := List.mem_map.mp member
    exact List.Subset.trans (inItems item (fewer inside))
      (List.subset_append_right _ code)

@[simp]
theorem trimStart_opening (statement : Import) (rest : Text) :
    Text.trimStart (statement.opening ++ rest) = statement.opening ++ rest := by
  obtain ⟨module, items⟩ := statement
  cases module <;> rfl

/-! ## The item that a name means -/

/-- The full name of an item, with the module it is imported from. -/
def qualified (statement : Import) (item : ImportItem) : Text :=
  match statement.module with
  | some module => module ++ ['.'] ++ item.imported
  | none => item.imported

/-- The item is called by the name, or by the last part of it, and may still not
be the one with this full name. -/
def Resembles (statement : Import) (name : Text) (item : ImportItem) : Prop :=
  item.alternative = some name ∨
  item.alternative = some (Text.afterLast '.' name) ∨
    statement.module ≠ none ∧
    (item.imported = name ∨ item.imported = Text.afterLast '.' name)

instance (statement : Import) (name : Text) (item : ImportItem) :
    Decidable (statement.Resembles name item) :=
  inferInstanceAs (Decidable (_ ∨ _ ∨ _))

theorem names_iff {name : Text} {item : ImportItem} :
    statement.names name item = true ↔
      statement.qualified item = name ∨ statement.Resembles name item := by
  obtain ⟨module, items⟩ := statement
  cases module with
  | none =>
      simp only [names, qualified, Resembles, Bool.or_eq_true, beq_iff_eq,
        Bool.false_eq_true]
      tauto
  | some module =>
      simp only [names, qualified, Resembles, Bool.or_eq_true, beq_iff_eq]
      tauto

/-- The first item that is named. -/
theorem find?_eq_some {name : Text} {index : Nat}
    (found : statement.find? name = some index) :
    ∃ front item behind, statement.items = front ++ item :: behind ∧
      index = front.length ∧
      statement.names name item = true ∧ ∀ other ∈ front,
      statement.names name other = false := by
  obtain ⟨bound, named, first⟩ := List.findIdx?_eq_some_iff_getElem.mp found
  obtain ⟨front, item, behind, whole, place⟩ :=
    exists_middle (Nat.zero_le index)
    (by rwa [Nat.zero_add])
  rw [Nat.zero_add] at place
  subst place
  refine ⟨front, item, behind, whole, rfl, ?_, fun other member => ?_⟩
  · simpa [whole] using named
  · obtain ⟨index, inside, rfl⟩ := List.mem_iff_getElem.mp member
    have before := first index inside
    simpa [whole, List.getElem_append_left inside] using before

end Import

theorem importOn_eq_ok {code : Text} {statement : Import}
    (read : importOn code = .ok statement) :
    Import.ofCode? code = some statement := by
  unfold importOn at read
  split at read
  · cases read
  · split at read
    · next found =>
        cases read
        exact found
    · cases read

/-! ## The line that is left -/

section

variable {text : Text} {statement : Import} {items : List ImportItem}

/-- The line of an import begins with a keyword behind its indent. -/
theorem begins_of_import
    (read : Import.ofCode? (Text.trim (Scan.splitComment ['#'] text).1) =
      some statement) :
    ∃ c behind, Text.trimStart text = c :: behind ∧ (c = 'f' ∨ c = 'i') := by
  obtain ⟨c, rest, code, keyword⟩ := Import.begins_of_ofCode? read
  obtain ⟨behind, start⟩ :=
    Text.trimEnd_isPrefix (Text.trimStart (Scan.splitComment ['#'] text).1)
  change Text.trim (Scan.splitComment ['#'] text).1 ++ behind = _ at start
  rw [code, List.cons_append] at start
  have some : Text.trimStart (Scan.splitComment ['#'] text).1 ≠ [] := by
    rw [← start]
    exact List.cons_ne_nil _ _
  have whole := Text.trimStart_append some (Scan.splitComment ['#'] text).2
  rw [Scan.splitComment_append, ← start] at whole
  exact ⟨c, _, whole, keyword⟩

theorem trim_importCode (text : Text) (listed : ∀ item ∈ items, item.Listed)
    (several : items ≠ []) :
    Text.trim (importCode text statement items) =
      statement.opening ++ ImportItem.joined items := by
  have last := ImportItem.trimEnd_joined listed
  have some := ImportItem.joined_ne_nil listed several
  rw [importCode, List.append_assoc, Text.trim,
    Text.trimStart_of_blank (Text.blank_indent text), Import.trimStart_opening,
    Text.trimEnd_append (by rwa [last]), last]

theorem trimEnd_importCode (text : Text) (statement : Import)
    (listed : ∀ item ∈ items, item.Listed) (several : items ≠ []) :
    Text.trimEnd (importCode text statement items) =
      importCode text statement items := by
  have last := ImportItem.trimEnd_joined listed
  have some := ImportItem.joined_ne_nil listed several
  rw [importCode, Text.trimEnd_append (by rwa [last]), last]

theorem importCode_ne_nil (text : Text) (statement : Import)
    (listed : ∀ item ∈ items, item.Listed) (several : items ≠ []) :
    importCode text statement items ≠ [] := by
  have some := ImportItem.joined_ne_nil listed several
  rw [importCode]
  exact fun none => some (List.append_eq_nil_iff.mp none).2

/-- The gap between code and a comment. -/
def gapBefore (comment : Text) : Text :=
  if comment = [] then [] else [' ', ' ']

theorem isBlank_of_mem_gap {comment : Text} :
    ∀ c ∈ gapBefore comment, Text.isBlank c = true := by
  unfold gapBefore
  split
  · exact List.forall_mem_nil _
  · exact List.all_eq_true.mp rfl

theorem importLine_eq (text : Text) (statement : Import)
    (listed : ∀ item ∈ items, item.Listed) (several : items ≠ []) :
    importLine text statement items =
      importCode text statement items ++
      gapBefore (Scan.splitComment ['#'] text).2 ++
        (Scan.splitComment ['#'] text).2 :=
  Scan.withComment_of_trimmed (importCode_ne_nil text statement listed several)
    (trimEnd_importCode text statement listed several) _

theorem isCode_importCode (unquoted : ∀ c ∈ (Scan.splitComment ['#'] text).1,
      Quoting.isQuote c = false)
    (read : Import.ofCode? (Text.trim (Scan.splitComment ['#'] text).1) =
      some statement)
    (fewer : items ⊆ statement.items) :
    ∀ c ∈ importCode text statement items, Scan.isCode c = true := by
  have keywords : ∀ c ∈ "from import, ".toList, Scan.isCode c = true :=
    List.all_eq_true.mp rfl
  intro c member
  rw [importCode, List.append_assoc] at member
  rcases List.mem_append.mp member with front | behind
  · exact Scan.isCode_of_isBlank (Text.blank_indent text c front)
  · rcases List.mem_append.mp (Import.written_subset read fewer behind) with
      own | old
    · exact keywords c own
    · exact Scan.isCode_of_unquoted unquoted c (Text.trim_subset _ old)

/-- Where no quote can mislead the scanner, it finds the code and the comment
again. -/
theorem splitComment_importLine
    (unquoted : ∀ c ∈ (Scan.splitComment ['#'] text).1,
      Quoting.isQuote c = false)
    (read : Import.ofCode? (Text.trim (Scan.splitComment ['#'] text).1) =
      some statement)
    (fewer : items ⊆ statement.items) (several : items ≠ []) :
    Scan.splitComment ['#'] (importLine text statement items) =
      (importCode text statement items ++
        gapBefore (Scan.splitComment ['#'] text).2,
        (Scan.splitComment ['#'] text).2) := by
  have listed : ∀ item ∈ items, item.Listed :=
    fun item member =>
      (Import.readable_of_ofCode? read).listed item (fewer member)
  rw [importLine_eq text statement listed several]
  refine Scan.splitComment_of_isCode ?_ (Scan.isComment_splitComment text)
  refine List.forall_mem_append.mpr ⟨isCode_importCode unquoted read fewer,
    fun c member => ?_⟩
  exact Scan.isCode_of_isBlank (isBlank_of_mem_gap c member)

/-- A line goes on with the given items of a statement. They stand in the list
as they were written, in order, and the indent, the module and the comment are
those of the old line. The scanner finds code and comment again where no quote
misleads it. -/
structure KeepsItems (text : Text) (statement : Import)
    (items : List ImportItem) (line : Text) : Prop where
  written : ∃ gap, (∀ c ∈ gap, c = ' ') ∧
    line = importCode text statement items ++ gap ++
      (Scan.splitComment ['#'] text).2
  indented : Text.indent line = Text.indent text
  read : Import.ofCode? (Text.trim (importCode text statement items)) =
    some { statement with items }
  scanned : (∀ c ∈ (Scan.splitComment ['#'] text).1,
      Quoting.isQuote c = false) →
    Import.ofCode? (Text.trim (Scan.splitComment ['#'] line).1) =
      some { statement with items } ∧
      (Scan.splitComment ['#'] line).2 = (Scan.splitComment ['#'] text).2

theorem keepsItems_importLine
    (read : Import.ofCode? (Text.trim (Scan.splitComment ['#'] text).1) =
      some statement)
    (fewer : items ⊆ statement.items) (several : items ≠ []) :
    KeepsItems text statement items (importLine text statement items) := by
  have readable := Import.readable_of_ofCode? read
  have listed : ∀ item ∈ items, item.Listed :=
    fun item member => readable.listed item (fewer member)
  have line := importLine_eq text statement listed several
  have again : Import.ofCode? (Text.trim (importCode text statement items)) =
      some { statement with items } := by
    rw [trim_importCode text listed several]
    exact Import.ofCode?_written readable fewer several
  refine ⟨⟨_, ?_, line⟩, ?_, again, fun unquoted => ?_⟩
  · unfold gapBefore
    split <;> simp
  · rw [line, importCode]
    simp only [List.append_assoc]
    exact Text.indent_append (Text.blank_indent text)
      (Import.trimStart_opening statement _)
  · rw [splitComment_importLine unquoted read fewer several,
      Text.trim_of_blank isBlank_of_mem_gap]
    exact ⟨again, rfl⟩

end

/-! ## The fix -/

variable {buffer fixed : Buffer} {number : Nat}

theorem ImportEdit.eq_of_nil {text : Text} {statement : Import}
    (edit : ImportEdit buffer number text statement [] fixed) :
    fixed = if isOnlyStatement buffer number (Text.indent text) then
        buffer.setLine number (Text.indent text ++ "pass".toList)
      else buffer.removeLine number := by
  cases edit with
  | removed several => rw [several, if_neg Bool.false_ne_true]
  | passed only => rw [if_pos only]

theorem ImportEdit.eq_of_ne_nil {text : Text} {statement : Import}
    {items : List ImportItem}
    (edit : ImportEdit buffer number text statement items fixed)
    (several : items ≠ []) :
    fixed = buffer.setLine number (importLine text statement items) := by
  cases edit with
  | shortened => rfl
  | removed | passed => exact absurd rfl several

/-- Of two items in a list, the first stands in front of the other if they are
not one. -/
theorem eq_or_mem_of_append_eq {α : Type}
    {front behind otherFront otherBehind : List α} {item other : α}
    (same : front ++ item :: behind = otherFront ++ other :: otherBehind)
    (first : other ∉ front) :
    (front = otherFront ∧ item = other) ∨ item ∈ otherFront := by
  rcases List.append_eq_append_iff.mp same with
    ⟨middle, whole, rest⟩ | ⟨middle, whole, rest⟩
  · cases middle with
    | nil =>
        cases rest
        exact .inl ⟨by rw [whole, List.append_nil], rfl⟩
    | cons next middle =>
        cases rest
        exact .inr (by simp [whole])
  · cases middle with
    | nil =>
        cases rest
        exact .inl ⟨by rw [whole, List.append_nil], rfl⟩
    | cons next middle =>
        cases rest
        exact absurd (by simp [whole]) first

/-- Of a statement that is fixed, one item goes: the first that the name may
mean. Where an item has this full name, that is it exactly if no item in front
of it resembles the name. All other items stay, on the line as it was. -/
theorem dropImport_drops_first {keepPackageFiles : Bool} {path : Path}
    {message : Text}
    (applied : dropImport keepPackageFiles path message buffer number =
      .ok fixed) :
    ∃ text name statement front item behind, buffer.line? number = some text ∧
      importName? message = some name ∧
      importOn (Text.trim (Scan.splitComment ['#'] text).1) = .ok statement ∧
      statement.items = front ++ item :: behind ∧
      (statement.qualified item = name ∨ statement.Resembles name item) ∧
      (∀ other ∈ front,
        ¬ (statement.qualified other = name ∨ statement.Resembles name other)) ∧
      (∀ exactFront exact exactBehind,
        statement.items = exactFront ++ exact :: exactBehind →
        (∀ other ∈ exactFront, statement.qualified other ≠ name) →
        statement.qualified exact = name →
        (statement.qualified item = name ↔
          ∀ other ∈ exactFront, ¬ statement.Resembles name other)) ∧
      (front ++ behind = [] → fixed =
        if isOnlyStatement buffer number (Text.indent text) then
          buffer.setLine number (Text.indent text ++ "pass".toList)
        else buffer.removeLine number) ∧
      (front ++ behind ≠ [] → ∃ line, fixed = buffer.setLine number line ∧
        KeepsItems text statement (front ++ behind) line) := by
  obtain ⟨-, text, name, statement, index, found, named, read, place, edit⟩ :=
    dropImport_eq_ok_iff.mp applied
  obtain ⟨front, item, behind, items, rfl, means, first⟩ :=
    Import.find?_eq_some place
  have kept : statement.items.eraseIdx front.length = front ++ behind := by
    rw [items, List.eraseIdx_append_of_length_le (Nat.le_refl _), Nat.sub_self]
    rfl
  have fewer : front ++ behind ⊆ statement.items := by
    rw [← kept]
    exact List.eraseIdx_subset
  have means := Import.names_iff.mp means
  have first : ∀ other ∈ front,
      ¬ (statement.qualified other = name ∨
          statement.Resembles name other) := by
    intro other member named
    have unnamed := first other member
    rw [Import.names_iff.mpr named] at unnamed
    cases unnamed
  rw [kept] at edit
  refine ⟨text, name, statement, front, item, behind, found, named, read, items,
    means, first, ?_, fun none => ?_, fun several => ?_⟩
  · intro exactFront exact exactBehind whole inexact full
    have later : exact ∉ front := fun member => first exact member (.inl full)
    rcases eq_or_mem_of_append_eq (items.symm.trans whole) later with
      ⟨rfl, rfl⟩ | before
    · refine iff_of_true full fun other member resembles => ?_
      exact first other member (.inr resembles)
    · refine iff_of_false (inexact item before) fun unlike => ?_
      exact unlike item before (means.resolve_left (inexact item before))
  · rw [none] at edit
    exact edit.eq_of_nil
  · exact ⟨_, edit.eq_of_ne_nil several,
      keepsItems_importLine (importOn_eq_ok read) fewer several⟩

/-! Another import that goes by the last part of the name is dropped in place of
the import that has it, if it comes first. -/

def aliasedLine : Text :=
  "import numpy as path, os.path".toList

def aliasedImports : Import :=
  { module := none
    items := ["numpy as path".toList, "os.path".toList].map ImportItem.ofText }

theorem aliasedLine_loses_other :
    let buffer := Buffer.ofText (aliasedLine ++ ['\n'])
    let fixed : Buffer := buffer.setLine 1 "import os.path".toList
    dropImport true ⟨"a.py"⟩ "\x60os.path\x60 imported but unused".toList buffer
    1 = .ok fixed ∧
      importOn aliasedLine = .ok aliasedImports ∧
      (∃ exact ∈ aliasedImports.items,
        aliasedImports.qualified exact = "os.path".toList) ∧
      ∃ front item behind, aliasedImports.items = front ++ item :: behind ∧
        aliasedImports.qualified item ≠ "os.path".toList ∧
        ∃ line, fixed = buffer.setLine 1 line ∧
          KeepsItems aliasedLine aliasedImports (front ++ behind) line := by
  intro buffer fixed
  have applied : dropImport true ⟨"a.py"⟩
        "\x60os.path\x60 imported but unused".toList buffer 1 =
      .ok fixed := by
    decide +kernel
  have isRead : importOn aliasedLine = .ok aliasedImports := by decide +kernel
  have line : buffer.line? 1 = some aliasedLine := by decide +kernel
  have isNamed : importName? "\x60os.path\x60 imported but unused".toList =
      some "os.path".toList := by
    decide +kernel
  have code : Text.trim (Scan.splitComment ['#'] aliasedLine).1 =
      aliasedLine := by decide +kernel
  have exact : ∃ exact ∈ aliasedImports.items,
      aliasedImports.qualified exact = "os.path".toList := by
    decide +kernel
  refine ⟨applied, isRead, exact, ?_⟩
  obtain ⟨text, name, statement, front, item, behind, found, named, read, items,
      -, -, choice, -,
    rest⟩ := dropImport_drops_first applied
  obtain rfl : aliasedLine = text := Option.some.inj (line.symm.trans found)
  obtain rfl : "os.path".toList = name :=
    Option.some.inj (isNamed.symm.trans named)
  rw [code] at read
  obtain rfl : aliasedImports = statement :=
    Except.ok.inj (isRead.symm.trans read)
  refine ⟨front, item, behind, items, fun full => ?_, rest fun none => ?_⟩
  · have inexact : ∀ other ∈ [ImportItem.ofText "numpy as path".toList],
        aliasedImports.qualified other ≠ "os.path".toList := by
      decide +kernel
    have last : aliasedImports.qualified (ImportItem.ofText "os.path".toList) =
        "os.path".toList := by
      decide +kernel
    have resembles : aliasedImports.Resembles "os.path".toList
        (ImportItem.ofText "numpy as path".toList) := by
      decide +kernel
    have unlike :=
      (choice [ImportItem.ofText "numpy as path".toList] _
        [] rfl inexact last).mp full
    exact unlike _ List.mem_cons_self resembles
  · obtain ⟨rfl, rfl⟩ := List.append_eq_nil_iff.mp none
    have one : 2 = 1 := congrArg List.length items
    cases one

end Fix

end LintMend
