import LintMend.Repository.Run
import LintMend.Proofs.Path.Steps

/-!
# Places and their paths

The path that is written for a place of names takes these names as its steps,
and the paths of the places in front of it lead to it.
-/

namespace LintMend

/-- The names of a place as they stand in directories. -/
def Place.Named (place : Place) : Prop :=
  ∀ name ∈ place, '/' ∉ name.toList ∧
    Path.ofPiece? name.toList = some (.name name)

theorem Place.Named.pieces {place : Place} (named : place.Named) :
    (place.map String.toList).filterMap Path.ofPiece? =
      place.map Component.name := by
  induction place with
  | nil => rfl
  | cons name place induction =>
      have rest := induction fun other member =>
        named other (List.mem_cons_of_mem _ member)
      rw [List.map_cons,
        List.filterMap_cons_some (named name List.mem_cons_self).2, rest,
        List.map_cons]

/-- A first name is no mark of a root or of the directory itself. -/
theorem Place.Named.head {place : Place} (named : place.Named) {piece : Text}
    (first : (place.map String.toList).head? = some piece) :
    piece ≠ [] ∧ piece ≠ ['.'] := by
  cases place with
  | nil => cases first
  | cons name place =>
      cases first
      have step := (named name List.mem_cons_self).2
      constructor
      · intro empty
        rw [empty] at step
        cases step
      · intro dot
        rw [dot] at step
        cases step

namespace Repository

end Repository

end LintMend
