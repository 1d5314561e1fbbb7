import LintMend.Plan
import LintMend.Proofs.Path.Order

/-!
# The entries of a plan

A plan names every file once: its entries stand in the strict order of their
paths. Within an entry every finding has the strategy of its rule, and no
finding stands before one on a later line.
-/

namespace LintMend

namespace Plan

/-- The entries stand in the strict order of their paths. -/
def InOrder (entries : List FilePlan) : Prop :=
  (entries.map FilePlan.file).Pairwise fun earlier later =>
    earlier.compare later = .lt

theorem InOrder.tail {entry : FilePlan} {entries : List FilePlan}
    (ordered : InOrder (entry :: entries)) : InOrder entries :=
  (List.pairwise_cons.mp ordered).2

/-- No later entry is for the file of the first one. -/
theorem InOrder.not_same {entry : FilePlan} {entries : List FilePlan}
    (ordered : InOrder (entry :: entries)) :
    ∀ later ∈ entries, entry.file.same later.file = false := by
  intro later member
  have less := (List.pairwise_cons.mp ordered).1 later.file
    (List.mem_map_of_mem member)
  exact Path.same_eq_false_of_lt less

theorem InOrder.eq_of_same {entries : List FilePlan} (ordered : InOrder entries)
    {left right : FilePlan} (leftIn : left ∈ entries)
    (rightIn : right ∈ entries) (same : left.file.same right.file = true) :
    left = right := by
  induction entries with
  | nil => cases leftIn
  | cons entry entries induction =>
      have apart := ordered.not_same
      rcases List.mem_cons.mp leftIn with leftHere | leftLater
      · rcases List.mem_cons.mp rightIn with rightHere | rightLater
        · rw [leftHere, rightHere]
        · rw [leftHere, apart right rightLater] at same
          cases same
      · rcases List.mem_cons.mp rightIn with rightHere | rightLater
        · rw [rightHere, Path.same_comm, apart left leftLater] at same
          cases same
        · exact induction ordered.tail leftLater rightLater

/-! ## Grouping by file -/

theorem file_of_mem_addToFile {item : PlannedIssue} {entries : List FilePlan}
    {file : Path} (member : file ∈ (addToFile item entries).map FilePlan.file) :
    file = item.issue.file ∨ file ∈ entries.map FilePlan.file := by
  induction entries with
  | nil => simpa [addToFile] using member
  | cons entry entries induction =>
      rw [addToFile] at member
      split at member
      · exact .inr member
      · simpa using member
      · rw [List.map_cons, List.mem_cons] at member
        rcases member with here | later
        · exact .inr (by simp [here])
        · rcases induction later with new | old
          · exact .inl new
          · exact .inr (List.mem_cons_of_mem _ old)

theorem addToFile_inOrder {item : PlannedIssue} {entries : List FilePlan}
    (ordered : InOrder entries) : InOrder (addToFile item entries) := by
  induction entries with
  | nil => simp [addToFile, InOrder]
  | cons entry entries induction =>
      have ⟨before, rest⟩ := List.pairwise_cons.mp ordered
      rw [addToFile]
      split
      · exact ordered
      · next less =>
          refine List.pairwise_cons.mpr ⟨?_, ordered⟩
          intro later member
          rcases List.mem_cons.mp member with here | behind
          · rw [here]
            exact less
          · exact Std.TransCmp.lt_trans less (before later behind)
      · next greater =>
          refine List.pairwise_cons.mpr ⟨?_, induction rest⟩
          intro later member
          rcases file_of_mem_addToFile member with new | old
          · rw [new]
            exact Std.OrientedCmp.lt_of_gt greater
          · exact before later old

/-- What adding a finding keeps holds of the groups of all findings. -/
theorem groupByFile_of_add {items : List PlannedIssue}
    {motive : List FilePlan → Prop} (nothing : motive [])
    (added : ∀ item ∈ items, ∀ entries,
      motive entries → motive (addToFile item entries)) :
    motive (groupByFile items) :=
  List.foldlRecOn items _ nothing fun entries before item inside =>
    added item inside entries before

theorem groupByFile_inOrder (items : List PlannedIssue) :
    InOrder (groupByFile items) := by
  apply groupByFile_of_add
  · exact List.Pairwise.nil
  · intro item _ entries ordered
    exact addToFile_inOrder ordered

/-- Every entry is for the file of some finding. -/
theorem file_of_mem_groupByFile {items : List PlannedIssue} {file : Path}
    (member : file ∈ (groupByFile items).map FilePlan.file) :
    ∃ item ∈ items, item.issue.file = file := by
  revert member
  apply groupByFile_of_add (motive := fun entries =>
    file ∈ entries.map FilePlan.file → ∃ item ∈ items, item.issue.file = file)
  · intro member
    cases member
  · intro item inside entries before member
    rcases file_of_mem_addToFile member with new | old
    · exact ⟨item, inside, new.symm⟩
    · exact before old

/-- A finding of a group is the one that was added, or was there before. -/
theorem mem_addToFile {item found : PlannedIssue} {entries : List FilePlan}
    {entry : FilePlan} (member : entry ∈ addToFile item entries)
    (inside : found ∈ entry.issues) :
    found = item ∨ ∃ old ∈ entries, found ∈ old.issues := by
  induction entries with
  | nil =>
      simp only [addToFile, List.mem_singleton] at member
      subst member
      exact .inl (by simpa using inside)
  | cons head entries induction =>
      rw [addToFile] at member
      split at member
      · rcases List.mem_cons.mp member with here | later
        · subst here
          rcases List.mem_append.mp inside with old | new
          · exact .inr ⟨head, List.mem_cons_self, old⟩
          · exact .inl (by simpa using new)
        · exact .inr ⟨entry, List.mem_cons_of_mem _ later, inside⟩
      · rcases List.mem_cons.mp member with here | later
        · subst here
          exact .inl (by simpa using inside)
        · exact .inr ⟨entry, later, inside⟩
      · rcases List.mem_cons.mp member with here | later
        · subst here
          exact .inr ⟨entry, List.mem_cons_self, inside⟩
        · rcases induction later with new | ⟨old, oldMember, found⟩
          · exact .inl new
          · exact .inr ⟨old, List.mem_cons_of_mem _ oldMember, found⟩

theorem mem_groupByFile {items : List PlannedIssue} {found : PlannedIssue}
    {entry : FilePlan} (member : entry ∈ groupByFile items)
    (inside : found ∈ entry.issues) : found ∈ items := by
  suffices grouped : ∀ entry ∈ groupByFile items,
      found ∈ entry.issues → found ∈ items from
        grouped entry member inside
  apply groupByFile_of_add
    (motive := fun entries => ∀ entry ∈ entries,
      found ∈ entry.issues → found ∈ items)
  · intro entry member
    cases member
  · intro item itemIn entries before entry member inside
    rcases mem_addToFile member inside with new | ⟨old, oldMember, there⟩
    · rw [new]
      exact itemIn
    · exact before old oldMember there

end Plan

/-! ## The entries as they are planned -/

/-- An entry in which every finding has the strategy of its rule, and whose
findings stand in their order. -/
structure FilePlan.Arranged (entry : FilePlan) : Prop where
  strategy : ∀ item ∈ entry.issues,
    item.strategy = .ofRule item.issue.code item.issue.language
  sorted : entry.issues.Pairwise fun earlier later =>
    Plan.before earlier later = true

theorem FilePlan.Arranged.take {entry : FilePlan} (arranged : entry.Arranged)
    (count : Nat) :
    FilePlan.Arranged { entry with issues := entry.issues.take count } :=
  { strategy := fun item member =>
    arranged.strategy item (List.mem_of_mem_take member)
    sorted := arranged.sorted.sublist (List.take_sublist count entry.issues) }

namespace Plan

theorem before_trans {first second third : PlannedIssue}
    (left : before first second = true) (right : before second third = true) :
    before first third = true := by
  simp only [before, Bool.or_eq_true, Bool.and_eq_true, decide_eq_true_eq,
    beq_iff_eq, Bool.not_eq_true', decide_eq_false_iff_not] at left right ⊢
  rcases left with left | ⟨sameLeft, left⟩
  · left
    rcases right with right | ⟨sameRight, _⟩ <;> omega
  · rcases right with right | ⟨sameRight, right⟩
    · left
      omega
    · right
      refine ⟨by omega, ?_⟩
      exact String.le_trans left right

theorem before_total (left right : PlannedIssue) :
    (before left right || before right left) = true := by
  simp only [before, Bool.or_eq_true, Bool.and_eq_true, decide_eq_true_eq,
    beq_iff_eq, Bool.not_eq_true', decide_eq_false_iff_not]
  rcases Nat.lt_trichotomy left.issue.line right.issue.line with
    less | equal | greater
  · exact .inr (.inl less)
  · rcases String.le_total left.issue.code right.issue.code with le | ge
    · exact .inl (.inr ⟨equal.symm, le⟩)
    · exact .inr (.inr ⟨equal, ge⟩)
  · exact .inl (.inl greater)

theorem line_le_of_before {earlier later : PlannedIssue}
    (ordered : before earlier later = true) :
    later.issue.line ≤ earlier.issue.line := by
  simp only [before, Bool.or_eq_true, Bool.and_eq_true, decide_eq_true_eq,
    beq_iff_eq] at ordered
  omega

theorem sortEntry_arranged {entry : FilePlan}
    (strategies : ∀ item ∈ entry.issues,
      item.strategy = .ofRule item.issue.code item.issue.language) :
    (sortEntry entry).Arranged :=
  { strategy := fun item member =>
    strategies item (List.mem_mergeSort.mp member)
    sorted :=
      @List.pairwise_mergeSort _ before (fun _ _ _ left right =>
        before_trans left right)
        before_total entry.issues }

theorem cap_files_sublist (remaining : Nat) (entries : List FilePlan) :
    ((cap remaining entries).map FilePlan.file).Sublist
      (entries.map FilePlan.file) := by
  induction entries generalizing remaining with
  | nil => exact List.Sublist.refl _
  | cons entry entries induction =>
      simp only [cap]
      split
      · exact (induction _).cons _
      · exact (induction _).cons_cons _

/-- What a cap keeps of an entry is a front of it. -/
theorem mem_cap {remaining : Nat} {entries : List FilePlan} {entry : FilePlan}
    (member : entry ∈ cap remaining entries) :
    ∃ whole ∈ entries, ∃ count,
      entry = { whole with issues := whole.issues.take count } := by
  induction entries generalizing remaining with
  | nil => cases member
  | cons head entries induction =>
      simp only [cap] at member
      split at member
      · obtain ⟨whole, wholeMember, count, equality⟩ := induction member
        exact ⟨whole, List.mem_cons_of_mem _ wholeMember, count, equality⟩
      · rcases List.mem_cons.mp member with here | later
        · exact ⟨head, List.mem_cons_self, remaining, here⟩
        · obtain ⟨whole, wholeMember, count, equality⟩ := induction later
          exact ⟨whole, List.mem_cons_of_mem _ wholeMember, count, equality⟩

/-- The entries before the cap. -/
def uncapped (table : RuleTable) (filter : RuleFilter) (options : PlanOptions)
    (triage : Triage) : List FilePlan :=
  let selected :=
    (triage.safe.map ClassifiedIssue.issue).filter (selects filter options)
  (groupByFile ((distinct [] selected).map (planned table))).map sortEntry

theorem entries_ofTriage (table : RuleTable) (filter : RuleFilter)
    (options : PlanOptions) (triage : Triage) :
    (ofTriage table filter options triage).entries =
      match options.maxIssues with
      | some limit => cap limit (uncapped table filter options triage)
      | none => uncapped table filter options triage :=
  rfl

/-- What holds of the entries before the cap, and what a cap keeps, holds of a
plan. -/
theorem entries_of_cap {table : RuleTable} {filter : RuleFilter}
    {options : PlanOptions} {triage : Triage} {motive : List FilePlan → Prop}
    (whole : motive (uncapped table filter options triage))
    (capped : ∀ limit entries, motive entries → motive (cap limit entries)) :
    motive (ofTriage table filter options triage).entries := by
  rw [entries_ofTriage]
  cases options.maxIssues with
  | none => exact whole
  | some limit => exact capped limit _ whole

theorem uncapped_inOrder (table : RuleTable) (filter : RuleFilter)
    (options : PlanOptions) (triage : Triage) :
    InOrder (uncapped table filter options triage) := by
  simpa [InOrder, uncapped, sortEntry, Function.comp_def]
    using groupByFile_inOrder _

theorem uncapped_arranged {table : RuleTable} {filter : RuleFilter}
    {options : PlanOptions} {triage : Triage} {entry : FilePlan}
    (member : entry ∈ uncapped table filter options triage) :
    entry.Arranged := by
  obtain ⟨group, groupMember, rfl⟩ := List.mem_map.mp member
  apply sortEntry_arranged
  intro item inside
  obtain ⟨issue, _, rfl⟩ := List.mem_map.mp (mem_groupByFile groupMember inside)
  rfl

theorem ofTriage_inOrder (table : RuleTable) (filter : RuleFilter)
    (options : PlanOptions) (triage : Triage) :
    InOrder (ofTriage table filter options triage).entries := by
  apply entries_of_cap (uncapped_inOrder table filter options triage)
  intro limit entries ordered
  exact ordered.sublist (cap_files_sublist limit entries)

theorem mem_of_mem_distinct {seen issues : List Issue} {issue : Issue}
    (member : issue ∈ distinct seen issues) : issue ∈ issues := by
  induction issues generalizing seen with
  | nil => cases member
  | cons first issues induction =>
      rw [distinct] at member
      split at member
      · exact List.mem_cons_of_mem _ (induction member)
      · rcases List.mem_cons.mp member with here | later
        · exact here ▸ List.mem_cons_self
        · exact List.mem_cons_of_mem _ (induction later)

/-- A plan is for files with safe findings that are asked for. -/
theorem file_of_mem_ofTriage {table : RuleTable} {filter : RuleFilter}
    {options : PlanOptions} {triage : Triage} {file : Path}
    (member : file ∈ (ofTriage table filter options triage).entries.map
      FilePlan.file) :
    ∃ found ∈ triage.safe, selects filter options found.issue = true ∧
      found.issue.file = file := by
  have whole :
      file ∈ (uncapped table filter options triage).map FilePlan.file := by
    revert member
    apply entries_of_cap (motive := fun entries =>
      file ∈ entries.map FilePlan.file → _) id
    intro limit entries before member
    exact before ((cap_files_sublist limit entries).subset member)
  rw [uncapped, List.map_map] at whole
  obtain ⟨item, planned, rfl⟩ := file_of_mem_groupByFile whole
  obtain ⟨issue, selected, rfl⟩ := List.mem_map.mp planned
  obtain ⟨safe, selected⟩ := List.mem_filter.mp (mem_of_mem_distinct selected)
  obtain ⟨found, there, rfl⟩ := List.mem_map.mp safe
  exact ⟨found, there, selected, rfl⟩

theorem ofTriage_arranged {table : RuleTable} {filter : RuleFilter}
    {options : PlanOptions} {triage : Triage} {entry : FilePlan}
    (member : entry ∈ (ofTriage table filter options triage).entries) :
    entry.Arranged := by
  suffices arranged : ∀ entry ∈ (ofTriage table filter options triage).entries,
      entry.Arranged from arranged entry member
  apply entries_of_cap (motive := fun entries =>
    ∀ entry ∈ entries, entry.Arranged)
  · intro entry member
    exact uncapped_arranged member
  · intro limit entries whole entry member
    obtain ⟨group, groupMember, count, rfl⟩ := mem_cap member
    exact (whole group groupMember).take count

end Plan

end LintMend
