import LintMend.Path
import LintMend.Proofs.Text.Joining

/-!
# The steps of a path

A path below a directory goes on behind the text of the directory with a slash.
It takes all steps of the directory first, so whatever is said of one of these
steps holds on the way to the path too.
-/

namespace LintMend

namespace Text

theorem afterLast_of_not_mem {separator : Char} {text : Text}
    (none : separator ∉ text) :
    afterLast separator text = text := by
  rw [afterLast, List.splitOn_eq_singleton none]
  rfl

@[simp]
theorem afterLast_append (separator : Char) (front behind : Text) :
    afterLast separator (front ++ separator :: behind) =
      afterLast separator behind := by
  have some := List.splitOn_ne_nil separator behind
  simp [afterLast, List.splitOn_append_cons_self,
    List.getLast?_eq_some_getLast some]

/-- What is behind the last separator has none. It is all of the text, or
follows one. -/
theorem afterLast_spec (separator : Char) (text : Text) :
    separator ∉ afterLast separator text ∧
      (text = afterLast separator text ∨
        ∃ front, text = front ++ separator :: afterLast separator text) := by
  induction text with
  | nil => simp [afterLast_of_not_mem]
  | cons c rest induction =>
      obtain ⟨none, whole | ⟨front, cut⟩⟩ := induction
      · rw [← whole] at none
        by_cases here : c = separator
        · have last : afterLast separator (c :: rest) = rest := by
            rw [here, ← List.nil_append (separator :: rest),
              afterLast_append, ← whole]
          rw [last]
          exact ⟨none, .inr ⟨[], by rw [here, List.nil_append]⟩⟩
        · have never : separator ∉ c :: rest := by
            rw [List.mem_cons, not_or]
            exact ⟨Ne.symm here, none⟩
          rw [afterLast_of_not_mem never]
          exact ⟨never, .inl rfl⟩
      · have last : afterLast separator (c :: rest) =
            afterLast separator rest := by
          conv => lhs; rw [cut, ← List.cons_append]
          rw [afterLast_append, afterLast_of_not_mem none]
        rw [last]
        exact ⟨none, .inr ⟨c :: front, by rw [List.cons_append, ← cut]⟩⟩

/-- Behind the last one of the separators that were put between pieces stands
the last piece. -/
theorem afterLast_intercalate {separator : Char} {last : Text}
    (none : separator ∉ last) (pieces : List Text) :
    afterLast separator ([separator].intercalate (pieces ++ [last])) =
      last := by
  induction pieces with
  | nil =>
      rw [List.nil_append, List.intercalate_singleton]
      exact afterLast_of_not_mem none
  | cons piece pieces induction =>
      rw [List.cons_append, List.intercalate_cons_of_ne_nil (by simp),
        List.append_assoc, List.singleton_append, afterLast_append]
      exact induction

/-- A text without separators goes on what is behind the last one. -/
theorem afterLast_append_of_not_mem {separator : Char} {rest : Text}
    (none : separator ∉ rest) (front : Text) :
    afterLast separator (front ++ rest) =
      afterLast separator front ++ rest := by
  obtain ⟨clean, whole | ⟨before, cut⟩⟩ := afterLast_spec separator front
  · have never : separator ∉ front ++ rest := by
      rw [List.mem_append, not_or, whole]
      exact ⟨clean, none⟩
    rw [afterLast_of_not_mem never, ← whole]
  · have never : separator ∉ afterLast separator front ++ rest := by
      rw [List.mem_append, not_or]
      exact ⟨clean, none⟩
    conv => lhs; rw [cut, List.append_assoc, List.cons_append]
    rw [afterLast_append, afterLast_of_not_mem never]

end Text

namespace Path

/-- A path goes on below a directory, whose own path ends in a step. -/
structure LeadsTo (directory path : Path) : Prop where
  goesOn : ∃ behind, path.text.toList = directory.text.toList ++ '/' :: behind
  endsInStep : ∃ step ∈ directory.components,
    step.text.toList = Text.afterLast '/' directory.text.toList

theorem LeadsTo.text_ne_nil {directory path : Path}
    (leads : directory.LeadsTo path) :
    directory.text.toList ≠ [] := by
  obtain ⟨step, member, -⟩ := leads.endsInStep
  intro empty
  simp [components, empty, Text.startsWith, ofPiece?] at member

/-- The path takes the steps of the directory first. -/
theorem LeadsTo.components {directory path : Path}
    (leads : directory.LeadsTo path) :
    directory.components <+: path.components := by
  obtain ⟨behind, text⟩ := leads.goesOn
  unfold Path.components
  rw [text]
  cases front : directory.text.toList with
  | nil => exact absurd front leads.text_ne_nil
  | cons c rest =>
      have some := List.splitOn_ne_nil '/' (c :: rest)
      have head : ((c :: rest).splitOn '/' ++ behind.splitOn '/').head? =
          ((c :: rest).splitOn '/').head? := by
        rw [List.head?_append, List.head?_eq_some_head some]
        rfl
      simp only [List.splitOn_append_cons_self, head, List.filterMap_append,
        ← List.append_assoc]
      exact List.prefix_append _ _

/-! ## File names -/

/-- What stands behind the last slash is the last step, if it is one. -/
theorem getLast?_components {path : Path} {name : String}
    (last : Text.afterLast '/' path.text.toList = name.toList)
    (step : ofPiece? name.toList = some (.name name)) :
    path.components.getLast? = some (.name name) := by
  have pieces := List.splitOn_ne_nil '/' path.text.toList
  rw [Text.afterLast, List.getLastD_eq_getLast?,
    List.getLast?_eq_some_getLast pieces, Option.getD_some] at last
  have cut : path.text.toList.splitOn '/' =
      (path.text.toList.splitOn '/').dropLast ++ [name.toList] := by
    rw [← last, List.dropLast_concat_getLast]
  have steps : (path.text.toList.splitOn '/').filterMap ofPiece? =
      (path.text.toList.splitOn '/').dropLast.filterMap ofPiece? ++
      [.name name] := by
    rw [cut, List.filterMap_append, List.filterMap_cons_some step,
      List.dropLast_concat]
    rfl
  simp only [components, steps, ← List.append_assoc, List.getLast?_concat]

theorem fileName?_eq_some {path : Path} {name : String} :
    path.fileName? = some name ↔
      path.components.getLast? = some (.name name) := by
  unfold fileName?
  split
  next text last => simp [last]
  next none =>
    constructor
    · intro impossible
      cases impossible
    · exact fun last => absurd last (none name)

theorem afterLast_ofComponents (steps : List Component) {name : String}
    (clean : '/' ∉ name.toList) :
    Text.afterLast '/' (ofComponents (steps ++ [.name name])).text.toList =
      name.toList := by
  have joined (steps : List Component) :
      Text.afterLast '/'
        ("/".intercalate
          ((steps ++ [Component.name name]).map Component.text)).toList =
        name.toList := by
    rw [String.toList_intercalate, List.map_append, List.map_append]
    exact Text.afterLast_intercalate clean _
  cases steps with
  | nil => exact joined []
  | cons step steps =>
      cases step with
      | root =>
          simp only [List.cons_append, ofComponents, String.toList_append]
          exact (Text.afterLast_append '/' [] _).trans (joined steps)
      | here | up | name => exact joined (_ :: steps)

/-- A name without a slash is the file name of the path that it is put at
the end of. -/
theorem fileName?_withLast (path : Path) {name : String}
    (clean : '/' ∉ name.toList)
    (step : ofPiece? name.toList = some (.name name)) :
    (path.withLast name).fileName? = some name :=
  fileName?_eq_some.mpr
    (getLast?_components (afterLast_ofComponents _ clean) step)

/-- File names have no slashes. -/
theorem not_mem_of_fileName? {path : Path} {name : String}
    (named : path.fileName? = some name) :
    '/' ∉ name.toList := by
  have member := List.mem_of_getLast? (fileName?_eq_some.mp named)
  rcases List.mem_append.mp member with front | later
  · split at front
    · simp at front
    · split at front <;> simp at front
  · obtain ⟨piece, inside, step⟩ := List.mem_filterMap.mp later
    unfold ofPiece? at step
    split at step
    · cases step
    · split at step
      · cases step
      · obtain rfl := Component.name.inj (Option.some.inj step)
        rw [String.toList_ofList]
        exact Text.not_mem_of_mem_splitOn inside

end Path

end LintMend
