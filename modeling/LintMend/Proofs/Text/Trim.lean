import Mathlib.Data.List.DropRight
import LintMend.Text.Basic

/-!
# Trimmed texts

Trimming the end of a text drops the longest run of blanks there, so it takes
away no other character, and a trimmed text ends in none. Whether a text is
blank, and what it comes to when it is trimmed, does not change when blanks are
dropped from it before.
-/

namespace LintMend

theorem rdropWhile_cons {α : Type} (drops : α → Bool) (item : α)
    (items : List α) :
    (item :: items).rdropWhile drops =
      if (items.rdropWhile drops).isEmpty then if drops item then [] else [item]
      else item :: items.rdropWhile drops := by
  simp only [List.rdropWhile, List.reverse_cons, List.dropWhile_append,
    List.isEmpty_reverse]
  split
  · cases dropped : drops item <;> simp [List.dropWhile, dropped]
  · simp

namespace Text

theorem dropEndWhile_eq_rdropWhile (drops : Char → Bool) (text : Text) :
    dropEndWhile drops text = text.rdropWhile drops := by
  induction text with
  | nil => rfl
  | cons c rest induction =>
      rw [dropEndWhile, induction, rdropWhile_cons]
      cases rest.rdropWhile drops <;> rfl

theorem dropEndWhile_prefix (drops : Char → Bool) (text : Text) :
    dropEndWhile drops text <+: text := by
  rw [dropEndWhile_eq_rdropWhile]
  exact List.rdropWhile_prefix drops text

theorem dropEndWhile_concat {drops : Char → Bool} {c : Char}
    (dropped : drops c = true) (text : Text) :
    dropEndWhile drops (text ++ [c]) = dropEndWhile drops text := by
  rw [dropEndWhile_eq_rdropWhile, dropEndWhile_eq_rdropWhile]
  exact List.rdropWhile_concat_pos drops text c dropped

/-- Nothing is dropped in front of a character that stays. -/
theorem dropEndWhile_append {drops : Char → Bool} {c : Char}
    (stays : drops c = false) (front rest : Text) :
    dropEndWhile drops (front ++ c :: rest) =
      front ++ c :: dropEndWhile drops rest := by
  induction front with
  | nil =>
      rw [List.nil_append, List.nil_append, dropEndWhile, stays,
        if_neg Bool.false_ne_true]
      cases dropEndWhile drops rest <;> rfl
  | cons d front induction =>
      rw [List.cons_append, dropEndWhile, induction]
      cases front <;> rfl

/-- What is dropped has the property. -/
theorem exists_dropEndWhile (drops : Char → Bool) (text : Text) :
    ∃ behind, text = dropEndWhile drops text ++ behind ∧ ∀ c ∈ behind,
      drops c = true := by
  refine ⟨text.rtakeWhile drops, ?_, fun c member =>
    List.mem_rtakeWhile_imp member⟩
  rw [dropEndWhile_eq_rdropWhile, List.rdropWhile_append_rtakeWhile]

theorem dropEndWhile_eq_self_iff {drops : Char → Bool} {text : Text} :
    dropEndWhile drops text = text ↔ ∀ c ∈ text.getLast?, drops c = false := by
  rw [dropEndWhile_eq_rdropWhile, List.rdropWhile_eq_self_iff]
  constructor
  · intro stays c last
    obtain ⟨some, rfl⟩ := List.mem_getLast?_eq_getLast last
    exact Bool.eq_false_iff.mpr (stays some)
  · intro stays some
    exact Bool.eq_false_iff.mp (stays _ (List.getLast?_eq_some_getLast some))

@[simp]
theorem dropEndWhile_dropEndWhile (drops : Char → Bool) (text : Text) :
    dropEndWhile drops (dropEndWhile drops text) = dropEndWhile drops text := by
  simp only [dropEndWhile_eq_rdropWhile, List.rdropWhile_idempotent]

theorem dropEndWhile_append_of_all {drops : Char → Bool} {rest : Text}
    (all : ∀ c ∈ rest, drops c = true) (front : Text) :
    dropEndWhile drops (front ++ rest) = dropEndWhile drops front := by
  induction front with
  | nil =>
      rw [dropEndWhile_eq_rdropWhile, dropEndWhile_eq_rdropWhile]
      exact List.rdropWhile_eq_nil_iff.mpr all
  | cons c front induction =>
      rw [List.cons_append, dropEndWhile, induction, dropEndWhile]

variable {text : Text}

theorem trimEnd_eq_rdropWhile (text : Text) :
    trimEnd text = text.rdropWhile isBlank :=
  dropEndWhile_eq_rdropWhile isBlank text

theorem trimEnd_isPrefix (text : Text) : trimEnd text <+: text :=
  dropEndWhile_prefix isBlank text

@[simp]
theorem trimEnd_trimEnd (text : Text) : trimEnd (trimEnd text) = trimEnd text :=
  dropEndWhile_dropEndWhile isBlank text

theorem trimEnd_eq_nil_iff : trimEnd text = [] ↔ blank text = true := by
  rw [trimEnd_eq_rdropWhile, List.rdropWhile_eq_nil_iff, blank,
    List.all_eq_true]

theorem trimEnd_concat {c : Char} (blank : isBlank c = true) (text : Text) :
    trimEnd (text ++ [c]) = trimEnd text :=
  dropEndWhile_concat blank text

/-- What trimming takes away is blank. -/
theorem exists_trimEnd (text : Text) :
    ∃ behind, text = trimEnd text ++ behind ∧ ∀ c ∈ behind, isBlank c = true :=
  exists_dropEndWhile isBlank text

/-- A trimmed text ends in no blank. -/
theorem ne_concat_of_trimmed (trimmed : trimEnd text = text) {c : Char}
    (blank : isBlank c = true) (front : Text) : text ≠ front ++ [c] := by
  rintro rfl
  rw [trimEnd_concat blank] at trimmed
  have short := (trimEnd_isPrefix front).length_le
  rw [trimmed, List.length_append, List.length_singleton] at short
  omega

/-- The characters of the text that are no blanks. -/
def visible (text : Text) : Text :=
  text.filter fun c => !isBlank c

@[simp]
theorem visible_append (front rest : Text) :
    visible (front ++ rest) = visible front ++ visible rest :=
  List.filter_append front rest

theorem visible_of_blank (blank : ∀ c ∈ text, isBlank c = true) :
    visible text = [] := by
  apply List.filter_eq_nil_iff.mpr
  intro c member
  simp [blank c member]

@[simp]
theorem visible_trimEnd (text : Text) :
    visible (trimEnd text) = visible text := by
  have whole := @List.rdropWhile_append_rtakeWhile _ isBlank text
  have dropped : visible (text.rtakeWhile isBlank) = [] := by
    apply visible_of_blank
    intro c member
    exact List.mem_rtakeWhile_imp member
  calc
    visible (trimEnd text)
      = visible (text.rdropWhile isBlank) ++
      visible (text.rtakeWhile isBlank) := by
        rw [trimEnd_eq_rdropWhile, dropped, List.append_nil]
    _ = visible text := by rw [← visible_append, whole]

/-! ## Both ends -/

theorem exists_trim (text : Text) :
    ∃ front behind, text = front ++ trim text ++ behind ∧
      (∀ c ∈ front, isBlank c = true) ∧ ∀ c ∈ behind, isBlank c = true := by
  obtain ⟨behind, whole, blank⟩ := exists_trimEnd (trimStart text)
  refine ⟨text.takeWhile isBlank, behind, ?_, fun c member =>
    List.mem_takeWhile_imp member, blank⟩
  rw [List.append_assoc, trim, ← whole]
  exact List.takeWhile_append_dropWhile.symm

theorem trimStart_cons {c : Char} (stays : isBlank c = false) (rest : Text) :
    trimStart (c :: rest) = c :: rest :=
  List.dropWhile_cons_of_neg (by simp [stays])

theorem trimStart_cases (text : Text) :
    trimStart text = [] ∨
      ∃ c rest, trimStart text = c :: rest ∧ isBlank c = false := by
  have stops := List.head?_dropWhile_not isBlank text
  cases kept : trimStart text with
  | nil => exact .inl rfl
  | cons c rest =>
      rw [trimStart] at kept
      rw [kept] at stops
      exact .inr ⟨c, rest, rfl, stops⟩

theorem trimStart_append {front : Text} (some : trimStart front ≠ [])
    (rest : Text) :
    trimStart (front ++ rest) = trimStart front ++ rest := by
  rw [trimStart, List.dropWhile_append, if_neg]
  · rfl
  · simpa [trimStart] using some

theorem trimStart_of_blank {front : Text}
    (blank : ∀ c ∈ front, isBlank c = true) (rest : Text) :
    trimStart (front ++ rest) = trimStart rest :=
  List.dropWhile_append_of_pos blank

theorem trimEnd_append {rest : Text} (some : trimEnd rest ≠ []) (front : Text) :
    trimEnd (front ++ rest) = front ++ trimEnd rest := by
  induction front with
  | nil => rfl
  | cons c front induction =>
      rw [List.cons_append, trimEnd, dropEndWhile, ← trimEnd, induction]
      cases whole : front ++ trimEnd rest with
      | nil => exact absurd (List.append_eq_nil_iff.mp whole).2 some
      | cons d kept => rw [List.cons_append, whole]

theorem trimEnd_of_blank {rest : Text} (blank : ∀ c ∈ rest, isBlank c = true)
    (front : Text) :
    trimEnd (front ++ rest) = trimEnd front :=
  dropEndWhile_append_of_all blank front

theorem trim_of_blank {rest : Text} (blank : ∀ c ∈ rest, isBlank c = true)
    (front : Text) :
    trim (front ++ rest) = trim front := by
  have dropped : trimStart rest = [] := List.dropWhile_eq_nil_iff.mpr blank
  by_cases none : trimStart front = []
  · have all := List.dropWhile_eq_nil_iff.mp none
    rw [trim, trimStart_of_blank all, dropped, trim, none]
  · rw [trim, trimStart_append none, trimEnd_of_blank blank, trim]

@[simp]
theorem trim_trim (text : Text) : trim (trim text) = trim text := by
  have start : trimStart (trim text) = trim text := by
    rcases trimStart_cases text with none | ⟨c, rest, kept, stays⟩
    · rw [trim, none]
      rfl
    · rw [trim, kept, trimEnd, ← List.nil_append (c :: rest),
        dropEndWhile_append stays]
      exact trimStart_cons stays _
  rw [trim, start, trim, trimEnd_trimEnd]

theorem trimStart_of_trimmed (trimmed : trim text = text) :
    trimStart text = text := by
  rcases trimStart_cases text with none | ⟨c, rest, kept, stays⟩
  · rw [trim, none] at trimmed
    rw [none, ← trimmed]
    rfl
  · rw [← trimmed, trim, kept, trimEnd, ← List.nil_append (c :: rest),
      dropEndWhile_append stays]
    exact trimStart_cons stays _

theorem trimEnd_of_trimmed (trimmed : trim text = text) :
    trimEnd text = text := by
  rw [← trimmed, trim, trimEnd_trimEnd]

theorem blank_indent (text : Text) : ∀ c ∈ indent text, isBlank c = true :=
  fun _ member => List.mem_takeWhile_imp member

theorem indent_append {front rest : Text}
    (blank : ∀ c ∈ front, isBlank c = true) (trimmed : trimStart rest = rest) :
    indent (front ++ rest) = front := by
  have none : rest.takeWhile isBlank = [] := by
    have whole := List.takeWhile_append_dropWhile (p := isBlank) (l := rest)
    rw [trimStart] at trimmed
    rw [trimmed] at whole
    exact List.append_left_eq_self.mp whole
  rw [indent, List.takeWhile_append_of_pos blank, none, List.append_nil]

@[simp]
theorem indent_append_trimStart (text : Text) :
    indent text ++ trimStart text = text :=
  List.takeWhile_append_dropWhile

/-! ## Dropping blanks -/

variable {drops : Char → Bool}

@[simp]
theorem blank_append (front rest : Text) :
    blank (front ++ rest) = (blank front && blank rest) :=
  List.all_append

theorem blank_of_all (all : ∀ c ∈ text, isBlank c = true) : blank text = true :=
  List.all_eq_true.mpr all

/-- Blanks that go do not decide whether a text is blank. -/
theorem blank_dropEndWhile (blanks : ∀ c, drops c = true → isBlank c = true)
    (text : Text) : blank (dropEndWhile drops text) = blank text := by
  obtain ⟨behind, whole, all⟩ := exists_dropEndWhile drops text
  have behindBlank := blank_of_all fun c member => blanks c (all c member)
  conv => rhs; rw [whole]
  rw [blank_append, behindBlank, Bool.and_true]

theorem blank_dropWhile (blanks : ∀ c, drops c = true → isBlank c = true)
    (text : Text) : blank (text.dropWhile drops) = blank text := by
  have frontBlank := blank_of_all fun c member =>
    blanks c (List.mem_takeWhile_imp (l := text) member)
  have whole := blank_append (text.takeWhile drops) (text.dropWhile drops)
  rwa [List.takeWhile_append_dropWhile, frontBlank, Bool.true_and,
    eq_comm] at whole

@[simp]
theorem blank_trim (text : Text) : blank (trim text) = blank text := by
  rw [trim, trimEnd, blank_dropEndWhile fun _ => id, trimStart,
    blank_dropWhile fun _ => id]

theorem trim_append_of_blank {front : Text}
    (blank : ∀ c ∈ front, isBlank c = true) (rest : Text) :
    trim (front ++ rest) = trim rest := by
  rw [trim, trimStart_of_blank blank, trim]

theorem trimEnd_dropEndWhile (blanks : ∀ c, drops c = true → isBlank c = true)
    (text : Text) :
    trimEnd (dropEndWhile drops text) = trimEnd text := by
  obtain ⟨behind, whole, all⟩ := exists_dropEndWhile drops text
  conv => rhs; rw [whole]
  exact (trimEnd_of_blank (fun c member => blanks c (all c member)) _).symm

theorem trim_dropEndWhile (blanks : ∀ c, drops c = true → isBlank c = true)
    (text : Text) :
    trim (dropEndWhile drops text) = trim text := by
  obtain ⟨behind, whole, all⟩ := exists_dropEndWhile drops text
  conv => rhs; rw [whole]
  exact (trim_of_blank (fun c member => blanks c (all c member)) _).symm

@[simp]
theorem trim_trimEnd (text : Text) : trim (trimEnd text) = trim text :=
  trim_dropEndWhile (fun _ => id) text

theorem trim_dropWhile (blanks : ∀ c, drops c = true → isBlank c = true)
    (text : Text) :
    trim (text.dropWhile drops) = trim text := by
  conv => rhs; rw [← List.takeWhile_append_dropWhile (p := drops) (l := text)]
  exact (trim_append_of_blank (fun c member =>
    blanks c (List.mem_takeWhile_imp member)) _).symm

/-- A text that ends in a visible character is trimmed there. -/
theorem trimEnd_visible {c : Char} (visible : isBlank c = false)
    (front : Text) :
    trimEnd (front ++ [c]) = front ++ [c] :=
  dropEndWhile_append visible front []

/-- Only the blanks behind the last visible character go. -/
theorem indent_trimEnd (visible : blank text = false) :
    indent (trimEnd text) = indent text := by
  rcases trimStart_cases text with none | ⟨c, rest, kept, stays⟩
  · rw [← blank_trim, trim, none] at visible
    cases visible
  · have trimmed : trimStart (c :: rest) = c :: rest :=
      trimStart_cons stays rest
    rw [← indent_append_trimStart text, kept, trimEnd,
      dropEndWhile_append stays, indent_append (blank_indent text) trimmed,
      indent_append (blank_indent text) (trimStart_cons stays _)]

end Text

end LintMend
