import LintMend.Proofs.Text.Trim

/-!
# Weights of texts

A measure of texts under which each mechanical fix makes a line lighter. Blanks
weigh nothing, so the weight is that of the visible characters. An equals sign
and an exclamation mark weigh more than a letter, for `is not` to be lighter
than `!=`, and so does the letter that `let` loses to `const`.
-/

namespace LintMend.Text

open scoped Arithmetic

def charWeight (c : Char) : Nat :=
  if isBlank c then 0
  else if c = '=' ∨ c = '!' then 3
  else if c = 'l' then 4
  else 1

def weight (text : Text) : Nat :=
  (text.map charWeight).sum

variable {text front rest new old middle : Text}

@[simp]
theorem weight_nil : weight [] = 0 :=
  rfl

@[simp]
theorem weight_cons (c : Char) (rest : Text) :
    weight (c :: rest) = charWeight c + weight rest := by
  rw [weight, List.map_cons, List.sum_cons, weight]

@[simp]
theorem weight_append (front rest : Text) :
    weight (front ++ rest) = weight front + weight rest := by
  induction front with
  | nil => simp
  | cons c front induction => simp [induction, Nat.add_assoc]

theorem charWeight_of_blank {c : Char} (blank : isBlank c = true) :
    charWeight c = 0 :=
  if_pos blank

theorem charWeight_pos {c : Char} (visible : isBlank c = false) :
    0 < charWeight c := by
  rw [charWeight, if_neg (by simp [visible])]
  split
  · decide
  · split <;> decide

theorem weight_of_blank (blank : ∀ c ∈ text, isBlank c = true) :
    weight text = 0 := by
  induction text with
  | nil => rfl
  | cons c rest induction =>
      obtain ⟨here, behind⟩ := List.forall_mem_cons.mp blank
      rw [weight_cons, charWeight_of_blank here, induction behind]

theorem weight_pos {c : Char} (member : c ∈ text)
    (visible : isBlank c = false) :
    0 < weight text := by
  obtain ⟨front, rest, rfl⟩ := List.append_of_mem member
  have here := charWeight_pos visible
  rw [weight_append, weight_cons]
  omega

@[simp]
theorem weight_visible (text : Text) : weight (visible text) = weight text := by
  induction text with
  | nil => rfl
  | cons c rest induction =>
      cases blank : isBlank c with
      | true => simp [visible, blank, charWeight_of_blank blank, ← induction]
      | false => simp [visible, blank, ← induction]

theorem weight_eq_of_visible (same : visible new = visible old) :
    weight new = weight old := by
  rw [← weight_visible new, same, weight_visible]

@[simp]
theorem weight_trimEnd (text : Text) : weight (trimEnd text) = weight text :=
  weight_eq_of_visible (visible_trimEnd text)

@[simp]
theorem weight_trim (text : Text) : weight (trim text) = weight text := by
  obtain ⟨front, behind, whole, before, after⟩ := exists_trim text
  conv => rhs; rw [whole]
  rw [weight_append, weight_append, weight_of_blank before,
    weight_of_blank after]
  omega

theorem weight_le_of_suffix (suffix : rest <:+ text) :
    weight rest ≤ weight text := by
  obtain ⟨front, rfl⟩ := suffix
  rw [weight_append]
  omega

theorem weight_le_of_prefix (isPrefix : front <+: text) :
    weight front ≤ weight text := by
  obtain ⟨rest, rfl⟩ := isPrefix
  rw [weight_append]
  omega

/-- A part of a trimmed text has lost its last character at least, which is no
blank. -/
theorem weight_lt_of_prefix (trimmed : trimEnd text = text)
    (isPrefix : front <+: text) (shorter : front.length < text.length) :
    weight front < weight text := by
  obtain ⟨rest, rfl⟩ := isPrefix
  rcases List.eq_nil_or_concat rest with rfl | ⟨inside, c, rfl⟩
  · simp at shorter
  · have visible : isBlank c = false := by
      rw [← Bool.not_eq_true]
      intro blank
      exact ne_concat_of_trimmed trimmed blank (front ++ inside) (by simp)
    have last := charWeight_pos visible
    simp only [List.concat_eq_append, weight_append, weight_cons]
    omega

/-- Between pieces that are joined stands a separator. -/
theorem weight_intercalate {separator : Text} {pieces : List Text}
    (some : pieces ≠ []) :
    weight (separator.intercalate pieces) + weight separator =
      weight pieces.flatten + pieces.length * weight separator := by
  induction pieces with
  | nil => exact absurd rfl some
  | cons piece pieces induction =>
      cases pieces with
      | nil => simp
      | cons next pieces =>
          have behind := induction (List.cons_ne_nil _ _)
          rw [List.intercalate_cons_cons, List.flatten_cons, List.length_cons,
            Nat.succ_mul]
          simp only [weight_append]
          omega

theorem weight_flatten (texts : List Text) :
    weight texts.flatten = (texts.map weight).sum := by
  induction texts with
  | nil => rfl
  | cons text texts induction => simp [induction]

/-- The text is the old one or weighs less. -/
def Lighter (new old : Text) : Prop :=
  new = old ∨ weight new < weight old

namespace Lighter

theorem refl (text : Text) : Lighter text text :=
  .inl rfl

theorem le (lighter : Lighter new old) : weight new ≤ weight old := by
  rcases lighter with rfl | less
  · exact Nat.le_refl _
  · exact Nat.le_of_lt less

theorem lt_of_ne (lighter : Lighter new old) (other : new ≠ old) :
    weight new < weight old :=
  lighter.resolve_left other

theorem trans (second : Lighter new middle) (first : Lighter middle old) :
    Lighter new old := by
  rcases second with rfl | less
  · exact first
  · exact .inr (Nat.lt_of_lt_of_le less first.le)

theorem append {newRest oldRest : Text} (front : Lighter new old)
    (rest : Lighter newRest oldRest) :
    Lighter (new ++ newRest) (old ++ oldRest) := by
  have frontLe := front.le
  have restLe := rest.le
  rcases front with rfl | less
  · rcases rest with rfl | less
    · exact .refl _
    · right
      simp only [weight_append]
      omega
  · right
    simp only [weight_append]
    omega

theorem flatMap {α : Type} {items : List α} {change keep : α → Text}
    (each : ∀ item ∈ items, Lighter (change item) (keep item)) :
    Lighter (items.flatMap change) (items.flatMap keep) := by
  induction items with
  | nil => exact .refl _
  | cons item items induction =>
      obtain ⟨here, behind⟩ := List.forall_mem_cons.mp each
      rw [List.flatMap_cons, List.flatMap_cons]
      exact here.append (induction behind)

end Lighter

end LintMend.Text
