import LintMend.Proofs.Plan.Entries

/-!
# The order of a plan

The entries of a plan, one behind the other, are one list of findings. It is in
order by path, then from the last line to the first, then by rule code, and
findings that agree in all three keep the order in which they were reported:
collecting the findings file by file and sorting every file on its own gives the
stable sort of all of them (`issues_of_groups`).
-/

namespace LintMend

/-! ## Stable sorting -/

namespace Ranking

variable {α : Type} {le : α → α → Bool}

/-- Neither of two members has to stand before the other one. -/
def ties (le : α → α → Bool) (left right : α) : Bool :=
  le left right && le right left

theorem ties_self
    (total : ∀ left right, (le left right || le right left) = true) (item : α) :
    ties le item item = true := by
  simpa [ties] using total item item

/-- The first member of a list in order comes before every member, itself
included. -/
theorem head_le (total : ∀ left right, (le left right || le right left) = true)
    {first : α} {rest : List α}
    (sorted : (first :: rest).Pairwise fun earlier later =>
      le earlier later = true) {item : α} (member : item ∈ first :: rest) :
    le first item = true := by
  rcases List.mem_cons.mp member with here | later
  · rw [here]
    simpa using total first first
  · exact (List.pairwise_cons.mp sorted).1 item later

/-- A member of one list has its ties, and with them itself, in the other
one. -/
theorem mem_of_ties
    (total : ∀ left right, (le left right || le right left) = true)
    {left right : List α}
    (agree : ∀ item, left.filter (ties le item) = right.filter (ties le item))
    {item : α} (member : item ∈ left) : item ∈ right := by
  have found : item ∈ left.filter (ties le item) :=
    List.mem_filter.mpr ⟨member, ties_self total item⟩
  rw [agree item] at found
  exact (List.mem_filter.mp found).1

/-- Lists in order are equal if ties stand in the same order in both of them. -/
theorem eq_of_ties
    (total : ∀ left right, (le left right || le right left) = true)
    {left right : List α}
    (leftSorted : left.Pairwise fun earlier later => le earlier later = true)
    (rightSorted : right.Pairwise fun earlier later => le earlier later = true)
    (agree : ∀ item, left.filter (ties le item) = right.filter (ties le item)) :
    left = right := by
  induction left generalizing right with
  | nil =>
      cases right with
      | nil => rfl
      | cons other right =>
          have found :=
            mem_of_ties total (fun item => (agree item).symm) List.mem_cons_self
          cases found
  | cons first left induction =>
      cases right with
      | nil =>
          have found := mem_of_ties total agree List.mem_cons_self
          cases found
      | cons other right =>
          have otherIn : other ∈ first :: left :=
            mem_of_ties total (fun item => (agree item).symm) List.mem_cons_self
          have firstIn : first ∈ other :: right :=
            mem_of_ties total agree List.mem_cons_self
          have tied : ties le first other = true := by
            rw [ties, head_le total leftSorted otherIn,
              head_le total rightSorted firstIn]
            rfl
          -- Each is the first of the ties of the other one.
          have heads := agree first
          rw [List.filter_cons_of_pos (ties_self total first),
            List.filter_cons_of_pos tied]
            at heads
          obtain ⟨rfl, _⟩ := List.cons.inj heads
          have tails : left = right := by
            apply induction leftSorted.tail rightSorted.tail
            intro item
            have whole := agree item
            by_cases tied : ties le item first = true
            · rw [List.filter_cons_of_pos tied,
                List.filter_cons_of_pos tied] at whole
              exact (List.cons.inj whole).2
            · rwa [List.filter_cons_of_neg tied,
                List.filter_cons_of_neg tied] at whole
          rw [tails]

/-- A stable sort leaves ties in their order. -/
theorem filter_ties_mergeSort
    (trans : ∀ first second third, le first second = true →
      le second third = true →
      le first third = true)
    (total : ∀ left right, (le left right || le right left) = true)
    (items : List α) (item : α) :
    (items.mergeSort le).filter (ties le item) =
      items.filter (ties le item) := by
  have sorted : (items.filter (ties le item)).Pairwise
      fun earlier later => le earlier later = true := by
    refine List.pairwise_of_forall_mem_list
      fun earlier earlierIn later laterIn => ?_
    have earlierTied := (List.mem_filter.mp earlierIn).2
    have laterTied := (List.mem_filter.mp laterIn).2
    simp only [ties, Bool.and_eq_true] at earlierTied laterTied
    exact trans earlier item later earlierTied.2 laterTied.1
  have kept := List.sublist_mergeSort trans total sorted List.filter_sublist
  have within : (items.filter (ties le item)).Sublist
      ((items.mergeSort le).filter (ties le item)) := by
    have filtered := kept.filter (ties le item)
    rwa [List.filter_filter, funext fun other =>
      Bool.and_self (ties le item other)] at filtered
  have many := ((List.mergeSort_perm items le).filter (ties le item)).length_eq
  exact (within.eq_of_length many.symm).symm

end Ranking

/-! ## The order of the whole plan -/

/-- Whether a finding may stand before another one in a plan: its path comes
first, or it is the same path and a later line, or the same line and a rule code
that is not greater. -/
def Issue.precedes (left right : Issue) : Bool :=
  match left.file.compare right.file with
  | .lt => true
  | .gt => false
  | .eq =>
    decide (right.line < left.line)
      || (decide (right.line = left.line) && decide (left.code ≤ right.code))

namespace Plan

/-- The order of a whole plan, on planned findings. -/
def precedes (left right : PlannedIssue) : Bool :=
  left.issue.precedes right.issue

theorem precedes_of_lt {left right : PlannedIssue}
    (less : left.issue.file.compare right.issue.file = .lt) :
    precedes left right = true := by
  simp only [precedes, Issue.precedes, less]

theorem precedes_of_same {left right : PlannedIssue}
    (file : left.issue.file.same right.issue.file = true) :
    precedes left right = before left right := by
  have equal := Path.compare_eq_eq_iff.mpr (Path.same_iff.mp file)
  simp only [precedes, Issue.precedes, equal, before]
  congr 1
  simp only [← String.not_lt, decide_not]
  rfl

theorem precedes_of_gt {left right : PlannedIssue}
    (greater : left.issue.file.compare right.issue.file = .gt) :
    precedes left right = false := by
  simp only [precedes, Issue.precedes, greater]

theorem precedes_trans (first second third : PlannedIssue)
    (left : precedes first second = true)
    (right : precedes second third = true) :
    precedes first third = true := by
  cases firstSecond : first.issue.file.compare second.issue.file with
  | gt => rw [precedes_of_gt firstSecond] at left; cases left
  | lt =>
      cases secondThird : second.issue.file.compare third.issue.file with
      | gt => rw [precedes_of_gt secondThird] at right; cases right
      | lt =>
          exact precedes_of_lt (Std.TransCmp.lt_trans firstSecond secondThird)
      | eq =>
          exact precedes_of_lt
            (Std.TransCmp.lt_of_lt_of_eq firstSecond secondThird)
  | eq =>
      cases secondThird : second.issue.file.compare third.issue.file with
      | gt => rw [precedes_of_gt secondThird] at right; cases right
      | lt =>
          exact precedes_of_lt
            (Std.TransCmp.lt_of_eq_of_lt firstSecond secondThird)
      | eq =>
          have sameLeft :=
            Path.same_iff.mpr (Path.compare_eq_eq_iff.mp firstSecond)
          have sameRight :=
            Path.same_iff.mpr (Path.compare_eq_eq_iff.mp secondThird)
          have sameBoth :=
            (Path.same_congr sameLeft third.issue.file).trans sameRight
          rw [precedes_of_same sameLeft] at left
          rw [precedes_of_same sameRight] at right
          rw [precedes_of_same sameBoth]
          exact before_trans left right

theorem precedes_total (left right : PlannedIssue) :
    (precedes left right || precedes right left) = true := by
  cases comparison : left.issue.file.compare right.issue.file with
  | lt => rw [precedes_of_lt comparison, Bool.true_or]
  | gt =>
      rw [precedes_of_lt (Std.OrientedCmp.lt_of_gt comparison), Bool.or_true]
  | eq =>
      have same := Path.same_iff.mpr (Path.compare_eq_eq_iff.mp comparison)
      rw [precedes_of_same same,
        precedes_of_same ((Path.same_comm _ _).trans same)]
      exact before_total left right

/-- Findings that tie in the plan are findings of one file that tie in its
entry. -/
theorem ties_precedes (left right : PlannedIssue) :
    Ranking.ties precedes left right =
      (left.issue.file.same right.issue.file &&
        Ranking.ties before left right) := by
  cases file : left.issue.file.same right.issue.file with
  | true =>
      have swapped := (Path.same_comm _ _).trans file
      simp [Ranking.ties, precedes_of_same file, precedes_of_same swapped]
  | false =>
      rw [Bool.false_and, Ranking.ties]
      cases comparison : left.issue.file.compare right.issue.file with
      | lt =>
          have swapped : right.issue.file.compare left.issue.file = .gt :=
            Std.OrientedCmp.gt_of_lt comparison
          rw [precedes_of_gt swapped, Bool.and_false]
      | gt => rw [precedes_of_gt comparison, Bool.false_and]
      | eq =>
          rw [Path.same_iff.mpr (Path.compare_eq_eq_iff.mp comparison)] at file
          cases file

/-! ## Groups by file -/

/-- All findings of an entry are findings of its file. -/
def Homed (entries : List FilePlan) : Prop :=
  ∀ entry ∈ entries, ∀ item ∈ entry.issues,
    item.issue.file.same entry.file = true

/-- No entry is without findings. -/
def Filled (entries : List FilePlan) : Prop :=
  ∀ entry ∈ entries, entry.issues ≠ []

theorem addToFile_homed {item : PlannedIssue} {entries : List FilePlan}
    (homed : Homed entries) : Homed (addToFile item entries) := by
  induction entries with
  | nil => simp [Homed, addToFile]
  | cons entry entries induction =>
      obtain ⟨here, behind⟩ := List.forall_mem_cons.mp homed
      rw [addToFile]
      split
      · next equal =>
          refine List.forall_mem_cons.mpr ⟨fun found inside => ?_, behind⟩
          rcases List.mem_append.mp inside with old | new
          · exact here found old
          · rw [List.mem_singleton.mp new]
            exact Path.same_iff.mpr (Path.compare_eq_eq_iff.mp equal)
      · exact List.forall_mem_cons.mpr ⟨by simp, homed⟩
      · exact List.forall_mem_cons.mpr ⟨here, induction behind⟩

theorem addToFile_filled {item : PlannedIssue} {entries : List FilePlan}
    (filled : Filled entries) : Filled (addToFile item entries) := by
  induction entries with
  | nil => simp [Filled, addToFile]
  | cons entry entries induction =>
      obtain ⟨here, behind⟩ := List.forall_mem_cons.mp filled
      rw [addToFile]
      split
      · exact List.forall_mem_cons.mpr ⟨by simp, behind⟩
      · exact List.forall_mem_cons.mpr ⟨by simp, filled⟩
      · exact List.forall_mem_cons.mpr ⟨here, induction behind⟩

/-- Entries for other files hold no finding of a file. -/
theorem ofFile_eq_nil {entries : List FilePlan} (path : Path)
    (homed : Homed entries)
    (apart : ∀ entry ∈ entries, path.same entry.file = false) :
    (entries.flatMap FilePlan.issues).filter (fun found =>
      path.same found.issue.file) = [] := by
  refine List.filter_eq_nil_iff.mpr fun found member => ?_
  obtain ⟨entry, entryIn, inside⟩ := List.mem_flatMap.mp member
  rw [Path.same_comm, Path.same_congr (homed entry entryIn found inside),
    Path.same_comm, apart entry entryIn]
  exact Bool.false_ne_true

/-- A finding joins the ones of its file, behind them, and all others stay as
they are. -/
theorem addToFile_ofFile {item : PlannedIssue} {entries : List FilePlan}
    (path : Path) (ordered : InOrder entries) (homed : Homed entries) :
    ((addToFile item entries).flatMap FilePlan.issues).filter
        (fun found => path.same found.issue.file) =
      (entries.flatMap FilePlan.issues ++ [item]).filter
        (fun found => path.same found.issue.file) := by
  induction entries with
  | nil => simp [addToFile]
  | cons entry entries induction =>
      obtain ⟨_, behind⟩ := List.forall_mem_cons.mp homed
      rw [addToFile]
      split
      · next equal =>
          -- Only this entry holds findings of the file, so the new one is the
          -- last of them.
          have entryFile := Path.same_iff.mpr (Path.compare_eq_eq_iff.mp equal)
          simp only [List.flatMap_cons, List.filter_append, List.append_assoc]
          congr 1
          cases asked : path.same item.issue.file with
          | false => simp [asked]
          | true =>
              have nowhere := ofFile_eq_nil path behind fun later member => by
                rw [Path.same_congr asked, Path.same_congr entryFile]
                exact ordered.not_same later member
              simp [nowhere]
      · next less =>
          -- The new entry stands in front of entries that are all for other
          -- files.
          change (([item] ++ (entry :: entries).flatMap FilePlan.issues).filter
              _) = _
          rw [List.filter_append, List.filter_append]
          cases asked : path.same item.issue.file with
          | false => simp [asked]
          | true =>
              have nowhere := ofFile_eq_nil path homed fun later member => by
                rw [Path.same_congr asked]
                apply Path.same_eq_false_of_lt
                rcases List.mem_cons.mp member with head | tail
                · rw [head]
                  exact less
                · have further := (List.pairwise_cons.mp ordered).1 later.file
                    (List.mem_map_of_mem tail)
                  exact Std.TransCmp.lt_trans less further
              rw [nowhere, List.append_nil, List.nil_append]
      · simp only [List.flatMap_cons, List.filter_append, List.append_assoc]
          at induction ⊢
        rw [induction ordered.tail behind]

theorem groupByFile_homed (items : List PlannedIssue) :
    Homed (groupByFile items) := by
  apply groupByFile_of_add
  · simp [Homed]
  · intro item _ entries homed
    exact addToFile_homed homed

theorem groupByFile_filled (items : List PlannedIssue) :
    Filled (groupByFile items) := by
  apply groupByFile_of_add
  · simp [Filled]
  · intro item _ entries filled
    exact addToFile_filled filled

private theorem foldl_addToFile_ofFile (items : List PlannedIssue)
    {entries : List FilePlan} (path : Path) (ordered : InOrder entries)
    (homed : Homed entries) :
    ((items.foldl (fun entries item => addToFile item entries) entries).flatMap
        FilePlan.issues).filter (fun found => path.same found.issue.file) =
      (entries.flatMap FilePlan.issues ++ items).filter
        (fun found => path.same found.issue.file) := by
  induction items generalizing entries with
  | nil => rw [List.foldl_nil, List.append_nil]
  | cons item items induction =>
      rw [List.foldl_cons,
        induction (addToFile_inOrder ordered) (addToFile_homed homed),
        List.filter_append, addToFile_ofFile path ordered homed,
        ← List.filter_append, List.append_assoc, List.singleton_append]

/-- The groups hold the findings of each file in the order in which they
came. -/
theorem groupByFile_ofFile (items : List PlannedIssue) (path : Path) :
    ((groupByFile items).flatMap FilePlan.issues).filter
        (fun found => path.same found.issue.file) =
      items.filter (fun found => path.same found.issue.file) :=
  foldl_addToFile_ofFile items path List.Pairwise.nil (by simp [Homed])

/-! ## Sorted groups -/

theorem sortEntry_homed {entries : List FilePlan} (homed : Homed entries) :
    Homed (entries.map sortEntry) := by
  intro entry member item inside
  obtain ⟨group, groupIn, rfl⟩ := List.mem_map.mp member
  exact homed group groupIn item (List.mem_mergeSort.mp inside)

theorem sortEntry_filled {entries : List FilePlan} (filled : Filled entries) :
    Filled (entries.map sortEntry) := by
  intro entry member
  obtain ⟨group, groupIn, rfl⟩ := List.mem_map.mp member
  intro empty
  have sorted := List.mergeSort_perm group.issues before
  rw [show group.issues.mergeSort before = [] from empty] at sorted
  exact filled group groupIn (List.nil_perm.mp sorted)

/-- Sorting every entry leaves the ties of the whole plan in their order. -/
theorem filter_ties_sortEntry {entries : List FilePlan} (homed : Homed entries)
    (item : PlannedIssue) :
    ((entries.map sortEntry).flatMap FilePlan.issues).filter
        (Ranking.ties precedes item) =
      (entries.flatMap FilePlan.issues).filter
        (Ranking.ties precedes item) := by
  rw [List.flatMap_map, List.filter_flatMap, List.filter_flatMap]
  refine congrArg List.flatten (List.map_congr_left fun entry member => ?_)
  change (entry.issues.mergeSort before).filter _ = entry.issues.filter _
  -- Ties with the finding are its ties in the order of this entry, or there are
  -- none here.
  have tied {found : PlannedIssue} (inside : found ∈ entry.issues) :
      Ranking.ties precedes item found =
        (item.issue.file.same entry.file &&
          Ranking.ties before item found) := by
    rw [ties_precedes, Path.same_comm,
      Path.same_congr (homed entry member found inside), Path.same_comm]
  rw [List.filter_congr fun found inside => tied (List.mem_mergeSort.mp inside),
    List.filter_congr fun found inside => tied inside]
  cases item.issue.file.same entry.file with
  | false =>
      rw [List.filter_eq_nil_iff.mpr (by simp),
        List.filter_eq_nil_iff.mpr (by simp)]
  | true =>
      simpa only [Bool.true_and] using @Ranking.filter_ties_mergeSort _ before
        (fun _ _ _ left right => before_trans left right) before_total
        entry.issues item

/-- Entries in the order of their paths that are sorted each are in order one
behind the other. -/
theorem issues_sorted {entries : List FilePlan} (ordered : InOrder entries)
    (homed : Homed entries)
    (sorted : ∀ entry ∈ entries,
      entry.issues.Pairwise fun earlier later => before earlier later = true) :
    (entries.flatMap FilePlan.issues).Pairwise
      fun earlier later => precedes earlier later = true := by
  refine List.pairwise_flatMap.mpr ⟨fun entry member => ?_, ?_⟩
  · refine (sorted entry member).imp_of_mem fun earlierIn laterIn inOrder => ?_
    rw [precedes_of_same]
    · exact inOrder
    · rw [Path.same_congr (homed entry member _ earlierIn), Path.same_comm]
      exact homed entry member _ laterIn
  · refine (List.pairwise_map.mp ordered).imp_of_mem
      fun earlierIn laterIn less => ?_
    intro earlier earlierInside later laterInside
    have earlierFile := Path.compare_eq_eq_iff.mpr
      (Path.same_iff.mp (homed _ earlierIn earlier earlierInside))
    have laterFile := Path.compare_eq_eq_iff.mpr
      (Path.same_iff.mp (homed _ laterIn later laterInside)).symm
    exact precedes_of_lt
      (Std.TransCmp.lt_of_eq_of_lt earlierFile
        (Std.TransCmp.lt_of_lt_of_eq less laterFile))

/-- Collecting findings file by file and sorting every file is one stable
sort. -/
theorem issues_of_groups (items : List PlannedIssue) :
    ((groupByFile items).map sortEntry).flatMap FilePlan.issues =
      items.mergeSort precedes := by
  have homed := groupByFile_homed items
  apply Ranking.eq_of_ties precedes_total
  · apply issues_sorted _ (sortEntry_homed homed)
    · intro entry member
      obtain ⟨group, _, rfl⟩ := List.mem_map.mp member
      exact @List.pairwise_mergeSort _ before (fun _ _ _ left right =>
        before_trans left right)
        before_total group.issues
    · simpa [InOrder, sortEntry, Function.comp_def]
        using groupByFile_inOrder items
  · exact List.pairwise_mergeSort precedes_trans precedes_total items
  · intro item
    rw [filter_ties_sortEntry homed,
      Ranking.filter_ties_mergeSort precedes_trans precedes_total]
    have narrow (found : PlannedIssue) : Ranking.ties precedes item found =
        (Ranking.ties before item found &&
          item.issue.file.same found.issue.file) := by
      rw [ties_precedes, Bool.and_comm]
    simp only [funext narrow, ← List.filter_filter]
    rw [groupByFile_ofFile]

end Plan

end LintMend
