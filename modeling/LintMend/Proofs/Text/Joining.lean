import LintMend.Text.Basic

/-!
# Pieces of a text

A text that is put together from pieces begins with what its first pieces come
to, and goes on with its last piece. The pieces that a text is cut into consist
of its characters, all but the one that it is cut at.
-/

namespace LintMend.Text

/-! ## Putting together -/

section

variable {separator : Text} {pieces front behind : List Text}

theorem intercalate_append (frontSome : front ≠ []) (behindSome : behind ≠ []) :
    separator.intercalate (front ++ behind) =
      separator.intercalate front ++ separator ++
        separator.intercalate behind := by
  induction front with
  | nil => exact absurd rfl frontSome
  | cons piece front induction =>
      cases front with
      | nil =>
          rw [List.singleton_append, List.intercalate_cons_of_ne_nil behindSome,
            List.intercalate_singleton]
      | cons next front =>
          have inner := induction (List.cons_ne_nil next front)
          rw [List.cons_append] at inner ⊢
          rw [List.cons_append, List.intercalate_cons_cons,
            List.intercalate_cons_cons, inner]
          simp

theorem intercalate_prefix (separator : Text) (front behind : List Text) :
    separator.intercalate front <+:
      separator.intercalate (front ++ behind) := by
  by_cases frontSome : front = []
  · rw [frontSome, List.intercalate_nil]
    exact List.nil_prefix
  · by_cases behindSome : behind = []
    · simp [behindSome]
    · rw [intercalate_append frontSome behindSome, List.append_assoc]
      exact List.prefix_append _ _

theorem intercalate_concat (separator : Text) (front : List Text)
    (inside rest : Text) :
    separator.intercalate (front ++ [inside ++ rest]) =
      separator.intercalate (front ++ [inside]) ++ rest := by
  by_cases some : front = []
  · simp [some]
  · rw [intercalate_append some (List.cons_ne_nil _ _),
      intercalate_append some (List.cons_ne_nil _ _), List.append_assoc]
    simp

theorem intercalate_modifyHead (c : Char) (some : pieces ≠ []) :
    separator.intercalate (pieces.modifyHead (c :: ·)) =
      c :: separator.intercalate pieces := by
  obtain ⟨piece, pieces, rfl⟩ := List.exists_cons_of_ne_nil some
  exact List.intercalate_cons_cons_left

/-- Each character of a joined text is one of a separator or of a piece. -/
theorem intercalate_subset {bound : Text} (between : separator ⊆ bound)
    (inside : ∀ piece ∈ pieces, piece ⊆ bound) :
    separator.intercalate pieces ⊆ bound := by
  induction pieces with
  | nil => exact List.nil_subset bound
  | cons piece pieces induction =>
      obtain ⟨here, behind⟩ := List.forall_mem_cons.mp inside
      cases pieces with
      | nil =>
          rw [List.intercalate_singleton]
          exact here
      | cons next pieces =>
          rw [List.intercalate_cons_cons]
          exact List.append_subset.mpr
            ⟨List.append_subset.mpr ⟨here, between⟩, induction behind⟩

end

/-! ## Cutting -/

section

variable {c : Char} {rest : Text} {pieces : List Text}

theorem subset_of_cut (inside : ∀ piece ∈ pieces, piece ⊆ rest) :
    ∀ piece ∈ [] :: pieces, piece ⊆ c :: rest := by
  intro piece member
  rcases List.mem_cons.mp member with rfl | later
  · exact List.nil_subset _
  · exact List.Subset.trans (inside piece later) (List.subset_cons_self c rest)

theorem subset_of_modifyHead (inside : ∀ piece ∈ pieces, piece ⊆ rest) :
    ∀ piece ∈ pieces.modifyHead (c :: ·), piece ⊆ c :: rest := by
  cases pieces with
  | nil => simp
  | cons first pieces =>
      intro piece member
      rcases List.mem_cons.mp member with rfl | later
      · exact List.cons_subset_cons c (inside first List.mem_cons_self)
      · exact List.Subset.trans (inside piece (List.mem_cons_of_mem _ later))
          (List.subset_cons_self c rest)

theorem splitOn_subset (separator : Char) (text : Text) :
    ∀ piece ∈ text.splitOn separator, piece ⊆ text := by
  induction text with
  | nil => simp
  | cons c rest induction =>
      rw [List.splitOn_cons_eq_if_modifyHead]
      split
      · exact subset_of_cut induction
      · exact subset_of_modifyHead induction

theorem not_mem_of_mem_splitOn {separator : Char} {text piece : Text}
    (member : piece ∈ text.splitOn separator) : separator ∉ piece := by
  induction text generalizing piece with
  | nil =>
      obtain rfl := List.mem_singleton.mp (List.splitOn_nil separator ▸ member)
      exact List.not_mem_nil
  | cons c rest induction =>
      rw [List.splitOn_cons_eq_if_modifyHead] at member
      split at member
      · rcases List.mem_cons.mp member with rfl | later
        · exact List.not_mem_nil
        · exact induction later
      · next other =>
          obtain ⟨first, pieces, cut⟩ :=
            List.exists_cons_of_ne_nil (List.splitOn_ne_nil separator rest)
          rw [cut] at induction member
          rcases List.mem_cons.mp member with rfl | later
          · rw [List.mem_cons, not_or]
            exact ⟨fun same => other (beq_iff_eq.mpr same.symm),
              induction List.mem_cons_self⟩
          · exact induction (List.mem_cons_of_mem _ later)

end

end LintMend.Text
