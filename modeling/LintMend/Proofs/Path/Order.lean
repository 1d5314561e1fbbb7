import LintMend.Path

/-!
# The order of paths

Comparing paths is a linear order on their components: two paths compare as
equal exactly when they name the same steps.
-/

namespace LintMend

namespace Component

/-- The text that tells steps of one rank apart. -/
def label : Component → String
  | name text => text
  | _ => ""

theorem compare_eq_then (left right : Component) :
    left.compare right =
      (Ord.compare left.rank right.rank).then
        (Ord.compare left.label right.label) := by
  cases left <;> cases right <;> simp [compare, rank, label] <;> rfl

theorem compare_eq_compareLex :
    compare = compareLex (compareOn rank) (compareOn label) := by
  funext left right
  exact compare_eq_then left right

instance : Std.TransCmp compare := by
  rw [compare_eq_compareLex]
  infer_instance

theorem eq_of_compare {left right : Component}
    (equal : left.compare right = .eq) :
    left = right := by
  rw [compare_eq_then, Ordering.then_eq_eq] at equal
  have sameRank : left.rank = right.rank :=
    Std.LawfulEqCmp.eq_of_compare equal.1
  have sameLabel : left.label = right.label :=
    Std.LawfulEqCmp.eq_of_compare equal.2
  cases left <;> cases right <;> simp_all [rank, label]

instance : Std.LawfulEqCmp compare where
  compare_self := Std.ReflCmp.compare_self
  eq_of_compare := eq_of_compare

end Component

namespace Path

theorem compareSteps_eq_compareLex :
    compareSteps = List.compareLex Component.compare := by
  funext left right
  induction left generalizing right with
  | nil => cases right <;> rfl
  | cons step steps induction =>
      cases right with
      | nil => rfl
      | cons other others =>
          rw [compareSteps, List.compareLex_cons_cons, induction]

instance : Std.TransCmp compareSteps := by
  rw [compareSteps_eq_compareLex]
  infer_instance

instance : Std.LawfulEqCmp compareSteps := by
  rw [compareSteps_eq_compareLex]
  infer_instance

theorem compare_eq_eq_iff {left right : Path} :
    left.compare right = .eq ↔ left.components = right.components := by
  change compareSteps left.components right.components = .eq ↔ _
  exact Std.LawfulEqCmp.compare_eq_iff_eq

instance : Std.TransCmp compare where
  eq_swap {left right} := by
    change compareSteps left.components right.components =
      (compareSteps right.components left.components).swap
    exact Std.OrientedCmp.eq_swap
  isLE_trans {first second third} := by
    change (compareSteps first.components second.components).isLE →
      (compareSteps second.components third.components).isLE →
        (compareSteps first.components third.components).isLE
    exact Std.TransCmp.isLE_trans

theorem same_iff {left right : Path} :
    left.same right = true ↔ left.components = right.components := by
  simp [same]

@[simp]
theorem same_self (path : Path) : path.same path = true :=
  same_iff.mpr rfl

theorem same_comm (left right : Path) : left.same right = right.same left := by
  rw [Bool.eq_iff_iff, same_iff, same_iff, eq_comm]

/-- A path is the same file as all the paths that the other one is the same file
as. -/
theorem same_congr {left right : Path} (equal : left.same right = true)
    (path : Path) :
    left.same path = right.same path := by
  simp only [same, same_iff.mp equal]

/-- Paths in strict order are different files. -/
theorem same_eq_false_of_lt {left right : Path}
    (less : left.compare right = .lt) :
    left.same right = false := by
  rw [Bool.eq_false_iff]
  intro equal
  rw [compare_eq_eq_iff.mpr (same_iff.mp equal)] at less
  cases less

end Path

end LintMend
