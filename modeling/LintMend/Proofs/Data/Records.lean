import Mathlib.Data.List.Nodup
import LintMend.Data.Decode
import LintMend.Proofs.Except

/-!
# Records read from objects

An object in which all fields of a record stand in their order is read field by
field.
-/

namespace LintMend.Decoder

variable {σ : Type} {manner : Manner}

/-- Reads the value of a field into a record. -/
def fill (record : σ) (field : Field σ × Data) : Except DecodeFault σ :=
  field.1.read field.2 record

def labelled (fields : List (Field σ × Data)) : List (Option String × Data) :=
  fields.map fun field => (some field.1.name, field.2)

theorem readFields_ordered {front rest : List (Field σ × Data)}
    (distinct : ((front ++ rest).map fun field => field.1.name).Nodup)
    (record : σ) :
    readFields manner ((front ++ rest).map Prod.fst) (labelled rest)
        (front.map fun field => field.1.name).reverse record =
      (rest.foldlM fill record).map
        fun record =>
        (((front ++ rest).map fun field => field.1.name).reverse, record) := by
  induction rest generalizing front record with
  | nil => simp [labelled, readFields, pure, Except.pure]
  | cons field rest induction =>
      have apart : ∀ other ∈ front, other.1.name ≠ field.1.name := by
        rw [List.map_append, List.nodup_append] at distinct
        exact fun other member => distinct.2.2 _ (List.mem_map_of_mem member) _
          (List.mem_map_of_mem List.mem_cons_self)
      have here : ((front ++ field :: rest).map Prod.fst).find?
            (·.name = field.1.name) =
          some field.1 := by
        rw [List.find?_map, List.find?_append, List.find?_eq_none.mpr]
        · simp
        · simpa using apart
      have new : (front.map fun field =>
        field.1.name).reverse.contains field.1.name = false := by
        simpa using apart
      have later := @induction (front ++ [field]) (by simpa using distinct)
      simp only [labelled, List.map_cons, readFields, here, new,
        Bool.false_eq_true, if_false, List.foldlM_cons, fill]
      cases field.1.read field.2 record with
      | error fault => rfl
      | ok next => simpa [labelled, fill] using later next

/-- A record of whose fields none is missing is read field by field. -/
theorem record_ordered {fields : List (Field σ × Data)}
    (distinct : (fields.map fun field => field.1.name).Nodup) (start : σ) :
    record manner (fields.map Prod.fst) start (.object (labelled fields) true) =
      fields.foldlM fill start := by
  have read := @readFields_ordered σ manner [] fields distinct start
  have whole : missing? (fields.map Prod.fst) (fields.map fun field =>
    field.1.name).reverse =
      none := by
    simp only [missing?, Option.map_eq_none_iff, List.find?_eq_none,
      List.mem_map, Bool.and_eq_true, Bool.not_eq_true', List.contains_eq_mem,
      List.mem_reverse]
    rintro field ⟨pair, member, rfl⟩ ⟨-, missing⟩
    exact absurd ⟨pair, member, rfl⟩ (of_decide_eq_false missing)
  simp only [List.nil_append, List.map_nil, List.reverse_nil] at read
  rw [record, read]
  cases fields.foldlM fill start with
  | error fault => rfl
  | ok ended => simp [whole]

end LintMend.Decoder
