/-!
# Results of steps

A computation that may fail has a result only if each of its steps has one, and
a property that each step keeps holds of the result.
-/

namespace LintMend

section

variable {ε α β : Type}

@[simp]
theorem ok_bind (value : α) (next : α → Except ε β) :
    (.ok value >>= next) = next value :=
  rfl

@[simp]
theorem error_bind (fault : ε) (next : α → Except ε β) :
    (.error fault >>= next) = .error fault :=
  rfl

@[simp]
theorem map_ok (change : α → β) (value : α) :
    (.ok value : Except ε α).map change = .ok (change value) :=
  rfl

@[simp]
theorem map_error (change : α → β) (fault : ε) :
    (.error fault : Except ε α).map change = .error fault :=
  rfl

end

theorem bind_eq_ok_iff {ε α β : Type} {first : Except ε α}
    {next : α → Except ε β} {value : β} :
    (first >>= next) = .ok value ↔
      ∃ middle, first = .ok middle ∧ next middle = .ok value := by
  cases first with
  | error fault => simp
  | ok middle => simp

theorem mapError_eq_ok_iff {ε δ α : Type} {result : Except ε α} {change : ε → δ}
    {value : α} :
    result.mapError change = .ok value ↔ result = .ok value := by
  cases result with
  | error fault =>
      constructor
      · intro impossible
        cases impossible
      · intro impossible
        cases impossible
  | ok found =>
      change Except.ok found = Except.ok value ↔ _
      rw [Except.ok.injEq, Except.ok.injEq]

/-- What every step of a fold keeps holds at its end. -/
theorem foldlM_keeps {ε α β : Type} {holds : β → Prop}
    {step : β → α → Except ε β} {items : List α}
    (keeps : ∀ item ∈ items, ∀ {state next},
      step state item = .ok next → holds state →
      holds next) {start ended : β} (done : items.foldlM step start = .ok ended)
    (held : holds start) : holds ended := by
  induction items generalizing start with
  | nil =>
      obtain rfl : start = ended := Except.ok.inj done
      exact held
  | cons item items induction =>
      rw [List.foldlM_cons] at done
      obtain ⟨next, first, rest⟩ := bind_eq_ok_iff.mp done
      exact induction (fun item member =>
        keeps item (List.mem_cons_of_mem _ member)) rest
        (keeps item List.mem_cons_self first held)

/-- What a step brings about for its item, and no step undoes, holds of all
items at the end. -/
theorem foldlM_reaches {ε α β : Type} {motive : α → β → Prop}
    {step : β → α → Except ε β} {items : List α}
    (reaches : ∀ item ∈ items, ∀ {state next}, step state item = .ok next →
      motive item next ∧ ∀ other, motive other state → motive other next)
    {start ended : β} (done : items.foldlM step start = .ok ended) :
    ∀ item ∈ items, motive item ended := by
  induction items generalizing start with
  | nil => simp
  | cons item items induction =>
      rw [List.foldlM_cons] at done
      obtain ⟨next, first, rest⟩ := bind_eq_ok_iff.mp done
      have later : ∀ item ∈ items, ∀ {state next}, step state item = .ok next →
          motive item next ∧ ∀ other, motive other state → motive other next :=
        fun item member => reaches item (List.mem_cons_of_mem _ member)
      rintro other member
      rcases List.mem_cons.mp member with rfl | member
      · exact foldlM_keeps (fun item member _ _ stepped =>
          (later item member stepped).2 other)
          rest (reaches other List.mem_cons_self first).1
      · exact induction later rest other member

/-- Steps that change nothing. -/
theorem foldlM_of_idle {ε α β : Type} {step : β → α → Except ε β}
    {items : List α} {state : β}
    (idle : ∀ item ∈ items, step state item = .ok state) :
    items.foldlM step state = .ok state := by
  induction items with
  | nil => rfl
  | cons item items induction =>
      rw [List.foldlM_cons, idle item List.mem_cons_self]
      exact induction fun other member =>
        idle other (List.mem_cons_of_mem _ member)

end LintMend
