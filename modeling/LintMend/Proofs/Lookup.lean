/-!
# Association lists

What `List.lookup` finds behind an entry, and among the entries whose keys are
kept.
-/

namespace LintMend

variable {κ α : Type} [BEq κ] [LawfulBEq κ]

@[simp]
theorem lookup_entry [DecidableEq κ] (key here : κ) (found : α)
    (entries : List (κ × α)) :
    ((here, found) :: entries).lookup key =
      if key = here then some found else entries.lookup key := by
  rw [List.lookup_cons]
  by_cases same : key = here
  · simp [same]
  · rw [if_neg same, beq_eq_false_iff_ne.mpr same]

/-- Where entries are taken away by their keys, the others are found as
before. -/
@[simp]
theorem lookup_filter (keeps : κ → Bool) (key : κ)
    (entries : List (κ × α)) :
    (entries.filter fun entry => keeps entry.1).lookup key =
      if keeps key then entries.lookup key else none := by
  classical
  induction entries with
  | nil => simp
  | cons entry entries induction =>
      obtain ⟨here, found⟩ := entry
      rw [List.filter_cons, lookup_entry]
      by_cases same : key = here
      · subst same
        by_cases kept : keeps key <;> simp [kept, induction]
      · by_cases kept : keeps here <;> simp [kept, same, induction]

end LintMend
