import LintMend.Proofs.Plan.Order

/-!
# What a plan selects

The findings that a plan is asked to fix are the safe ones that the rules allow,
each one once, in the order of the plan (`Plan.wanted`). A plan holds the front
of this list that the cap leaves, cut up by file, and its summary accounts for
every safe finding (`Plan.ofTriage_fulfils`).
-/

namespace LintMend

open scoped Arithmetic

namespace Issue

theorem same_iff {left right : Issue} :
    left.same right = true ↔
      left.file.components = right.file.components ∧ left.line = right.line ∧
        left.code = right.code ∧ left.message = right.message ∧
        left.language = right.language := by
  have file : (left.file == right.file) = true ↔
      left.file.components = right.file.components := Path.same_iff
  simp [same, file, and_assoc]

@[simp]
theorem same_self (issue : Issue) : issue.same issue = true := by
  simp [same_iff]

end Issue

/-! ## Triage -/

namespace Triage

/-- Whether findings of a rule have a category. -/
def isOf (table : RuleTable) (category : Category) (issue : Issue) : Bool :=
  decide ((table.classify issue.code issue.language).category = category)

/-- Each category holds its findings in their order, and every finding is in one
of the three. -/
structure Partitions (table : RuleTable) (issues : List Issue)
    (triage : Triage) : Prop where
  bucket : ∀ category,
    (triage.bucket category).map ClassifiedIssue.issue =
      issues.filter (isOf table category)
  classified : ∀ category, ∀ found ∈ triage.bucket category,
    found.classification = table.classify found.issue.code found.issue.language
  whole : ((triage.safe ++ triage.risky ++ triage.suggest).map
      ClassifiedIssue.issue).Perm issues

theorem filter_isOf_perm (table : RuleTable) (issues : List Issue) :
    (issues.filter (isOf table .safe) ++ issues.filter (isOf table .risky) ++
      issues.filter (isOf table .suggest)).Perm issues := by
  have notSafe := List.filter_append_perm (isOf table .safe) issues
  have notRisky := List.filter_append_perm (isOf table .risky)
    (issues.filter fun issue => !isOf table .safe issue)
  rw [List.filter_filter, List.filter_filter] at notRisky
  have risky (issue : Issue) :
      (isOf table .risky issue && !isOf table .safe issue) =
        isOf table .risky issue := by
    simp only [isOf]
    cases (table.classify issue.code issue.language).category <;> rfl
  have suggest (issue : Issue) :
      (!isOf table .risky issue && !isOf table .safe issue) =
        isOf table .suggest issue := by
    simp only [isOf]
    cases (table.classify issue.code issue.language).category <;> rfl
  rw [funext risky, funext suggest] at notRisky
  rw [List.append_assoc]
  exact (notRisky.append_left _).trans notSafe

theorem ofIssues_partitions (table : RuleTable) (issues : List Issue) :
    (ofIssues table issues).Partitions table issues := by
  have bucket (category : Category) :
      ((ofIssues table issues).bucket category).map ClassifiedIssue.issue =
        issues.filter (isOf table category) := by
    cases category <;>
      simp [ofIssues, Triage.bucket, List.filter_map, Function.comp_def] <;> rfl
  refine ⟨bucket, fun category found member => ?_, ?_⟩
  · have here : found ∈ issues.map fun issue =>
        { issue, classification := table.classify issue.code issue.language :
          ClassifiedIssue } := by
      cases category <;> exact (List.mem_filter.mp member).1
    obtain ⟨issue, _, rfl⟩ := List.mem_map.mp here
    rfl
  · rw [List.map_append, List.map_append]
    have whole := filter_isOf_perm table issues
    rw [← bucket .safe, ← bucket .risky, ← bucket .suggest] at whole
    exact whole

end Triage

namespace Tally

@[simp]
theorem total_add (key : String) (tally : Tally) :
    total (add key tally) = total tally + 1 := by
  induction tally with
  | nil => rfl
  | cons head rest induction =>
      obtain ⟨other, count⟩ := head
      simp only [total] at induction ⊢
      rw [add]
      split
      · simp only [List.map_cons, List.sum_cons]
        omega
      · split
        · simp only [List.map_cons, List.sum_cons]
          omega
        · simp only [List.map_cons, List.sum_cons, induction]
          omega

@[simp]
theorem total_ofList (keys : List String) :
    total (ofList keys) = keys.length := by
  have general (tally : Tally) :
      total (keys.foldl (fun tally key => add key tally) tally) =
        total tally + keys.length := by
    induction keys generalizing tally with
    | nil => rfl
    | cons key keys induction =>
        rw [List.foldl_cons, induction, total_add, List.length_cons]
        omega
  rw [ofList, general]
  exact Nat.zero_add _

end Tally

namespace Plan

/-! ## The findings that are wanted -/

/-- A finding may be fixed if its rule is not disabled, and is among the enabled
rules and among those that are asked for, wherever there are any. -/
def Allowed (filter : RuleFilter) (options : PlanOptions)
    (issue : Issue) : Prop :=
  issue.code ∉ filter.disabled ∧
    (filter.enabled = [] ∨ issue.code ∈ filter.enabled) ∧
    (options.onlyRules = [] ∨ issue.code ∈ options.onlyRules)

instance (filter : RuleFilter) (options : PlanOptions) :
    DecidablePred (Allowed filter options) :=
  fun _ => inferInstanceAs (Decidable (_ ∧ _ ∧ _))

theorem selects_iff {filter : RuleFilter} {options : PlanOptions}
    {issue : Issue} :
    selects filter options issue = true ↔ Allowed filter options issue := by
  simp [selects, RuleFilter.allows, Allowed, and_assoc]

/-- The safe findings that may be fixed. -/
def selected (table : RuleTable) (filter : RuleFilter) (options : PlanOptions)
    (issues : List Issue) : List Issue :=
  (issues.filter (Triage.isOf table .safe)).filter (Allowed filter options ·)

/-- Each of the selected findings once, in the order of the plan. -/
def wanted (table : RuleTable) (filter : RuleFilter) (options : PlanOptions)
    (issues : List Issue) : List Issue :=
  ((selected table filter options issues).eraseDupsBy Issue.same).mergeSort
    Issue.precedes

private theorem loop_eq_distinct (seen issues : List Issue) :
    List.eraseDupsBy.loop Issue.same issues seen =
      seen.reverse ++ distinct seen issues := by
  induction issues generalizing seen with
  | nil => simp [List.eraseDupsBy.loop, distinct]
  | cons issue issues induction =>
      rw [List.eraseDupsBy.loop, distinct]
      cases repeated : seen.any issue.same with
      | true => simp [induction]
      | false => simp [induction]

theorem distinct_eq_eraseDupsBy (issues : List Issue) :
    distinct [] issues = issues.eraseDupsBy Issue.same := by
  rw [List.eraseDupsBy, loop_eq_distinct, List.reverse_nil, List.nil_append]

/-- What is not kept is the same as something that is. -/
theorem distinct_dropped (seen issues : List Issue) :
    ∃ dropped, (distinct seen issues ++ dropped).Perm issues ∧
      ∀ issue ∈ dropped, ∃ kept ∈ seen ++ distinct seen issues,
      issue.same kept = true := by
  induction issues generalizing seen with
  | nil => exact ⟨[], .refl _, by simp⟩
  | cons issue issues induction =>
      rw [distinct]
      split
      · next repeated =>
          obtain ⟨dropped, whole, witnessed⟩ := induction seen
          refine ⟨issue :: dropped,
            List.perm_middle.trans (whole.cons issue), ?_⟩
          refine List.forall_mem_cons.mpr ⟨?_, witnessed⟩
          obtain ⟨kept, member, same⟩ := List.any_eq_true.mp repeated
          exact ⟨kept, List.mem_append_left _ member, same⟩
      · obtain ⟨dropped, whole, witnessed⟩ := induction (issue :: seen)
        refine ⟨dropped, whole.cons issue, fun other member => ?_⟩
        obtain ⟨kept, member, same⟩ := witnessed other member
        refine ⟨kept, ?_, same⟩
        simp only [List.cons_append, List.mem_cons, List.mem_append] at member ⊢
        rcases member with new | before | later
        · exact .inr (.inl new)
        · exact .inl before
        · exact .inr (.inr later)

theorem selected_of_triage (table : RuleTable) (filter : RuleFilter)
    (options : PlanOptions) (issues : List Issue) :
    ((Triage.ofIssues table issues).safe.map ClassifiedIssue.issue).filter
      (selects filter options) = selected table filter options issues := by
  have safe := (Triage.ofIssues_partitions table issues).bucket .safe
  have allowed : selects filter options =
      (decide <| Allowed filter options ·) := by
    funext issue
    rw [Bool.eq_iff_iff, selects_iff, decide_eq_true_iff]
  rw [selected, ← safe, allowed]
  rfl

/-- Before the cap the entries, one behind the other, are the findings that are
wanted. -/
theorem issues_uncapped (table : RuleTable) (filter : RuleFilter)
    (options : PlanOptions) (issues : List Issue) :
    (uncapped table filter options (Triage.ofIssues table issues)).flatMap
        FilePlan.issues =
      (wanted table filter options issues).map (planned table) := by
  rw [uncapped, issues_of_groups, selected_of_triage,
    distinct_eq_eraseDupsBy, wanted]
  exact (List.map_mergeSort (f := planned table) fun _ _ _ _ => rfl).symm

theorem uncapped_homed (table : RuleTable) (filter : RuleFilter)
    (options : PlanOptions) (triage : Triage) :
    Homed (uncapped table filter options triage) :=
  sortEntry_homed (groupByFile_homed _)

theorem uncapped_filled (table : RuleTable) (filter : RuleFilter)
    (options : PlanOptions) (triage : Triage) :
    Filled (uncapped table filter options triage) :=
  sortEntry_filled (groupByFile_filled _)

/-! ## The cap -/

/-- A cap keeps a front of the findings. -/
@[simp]
theorem issues_cap (limit : Nat) (entries : List FilePlan) :
    (cap limit entries).flatMap FilePlan.issues =
      (entries.flatMap FilePlan.issues).take limit := by
  induction entries generalizing limit with
  | nil => simp [cap]
  | cons entry entries induction =>
      rw [List.flatMap_cons, List.take_append, cap]
      have rest : limit - (entry.issues.take limit).length =
          limit - entry.issues.length := by
        rw [List.length_take]
        omega
      simp only [rest]
      split
      · next none =>
          rw [induction, List.isEmpty_iff.mp none, List.nil_append]
      · rw [List.flatMap_cons, induction]

theorem cap_filled (limit : Nat) (entries : List FilePlan) :
    Filled (cap limit entries) := by
  induction entries generalizing limit with
  | nil => simp [Filled, cap]
  | cons entry entries induction =>
      simp only [cap]
      split
      · exact induction _
      · next some =>
          refine List.forall_mem_cons.mpr ⟨fun none => some ?_, induction _⟩
          rw [show entry.issues.take limit = [] from none]
          rfl

theorem cap_homed {entries : List FilePlan} (homed : Homed entries)
    (limit : Nat) :
    Homed (cap limit entries) := by
  intro entry member item inside
  obtain ⟨whole, wholeIn, count, rfl⟩ := mem_cap member
  exact homed whole wholeIn item (List.mem_of_mem_take inside)

theorem count_eq_length (entries : List FilePlan) :
    count entries = (entries.flatMap FilePlan.issues).length :=
  List.length_flatMap.symm

@[simp]
theorem count_cap (limit : Nat) (entries : List FilePlan) :
    count (cap limit entries) = min limit (count entries) := by
  rw [count_eq_length, issues_cap, List.length_take, ← count_eq_length]

theorem cap_eq_self {limit : Nat} {entries : List FilePlan}
    (filled : Filled entries) (room : count entries ≤ limit) :
    cap limit entries = entries := by
  induction entries generalizing limit with
  | nil => rfl
  | cons entry entries induction =>
      have ⟨here, behind⟩ := List.forall_mem_cons.mp filled
      simp only [count, List.map_cons, List.sum_cons] at room
      have all : entry.issues.take limit = entry.issues :=
        List.take_of_length_le (by omega)
      simp only [cap, all]
      rw [induction behind (by simp only [count]; omega),
        if_neg (by simpa using here)]

/-- The difference of two counts, if it is one. -/
def less? (whole part : Nat) : Option Nat :=
  if part ≤ whole then some (whole - part) else none

/-- How many of some findings are too many for the counter. -/
def beyond? (size remaining : Nat) : Option Nat :=
  if remaining < size then less? size remaining else some 0

/-- Fills a plan entry by entry. The counter says how many findings may still be
planned, and there is no plan if it would fall below zero; the second number
counts the findings that are left out. -/
def fill? : Nat → List FilePlan → Option (List FilePlan × Nat)
  | _, [] => some ([], 0)
  | remaining, entry :: entries =>
    let kept := entry.issues.take remaining
    match beyond? entry.issues.length remaining,
      less? remaining kept.length with
    | some beyond, some left =>
      (fill? left entries).map fun (behind, spilled) =>
        (if kept.isEmpty then behind
          else { entry with issues := kept } :: behind, beyond + spilled)
    | _, _ => none

/-- The counter never falls below zero, and what is left out is what is missing
at the end. -/
theorem fill?_eq_cap (remaining : Nat) (entries : List FilePlan) :
    fill? remaining entries =
      some (cap remaining entries,
          count entries - count (cap remaining entries)) := by
  induction entries generalizing remaining with
  | nil => rfl
  | cons entry entries induction =>
      have beyond : beyond? entry.issues.length remaining =
          some (entry.issues.length - remaining) := by
        rw [beyond?]
        split
        · rw [less?, if_pos (by omega)]
        · rw [Nat.sub_eq_zero_of_le (by omega)]
      have left : less? remaining (entry.issues.take remaining).length =
          some (remaining - (entry.issues.take remaining).length) := by
        rw [less?, if_pos (List.length_take_le _ _)]
      have counts : entry.issues.length - remaining +
            (count entries -
              min (remaining - (entry.issues.take remaining).length)
              (count entries)) =
          count (entry :: entries) - min remaining
          (count (entry :: entries)) := by
        have whole : count (entry :: entries) =
            entry.issues.length + count entries := rfl
        rw [whole, List.length_take]
        omega
      rw [count_cap]
      simp only [fill?, beyond, left, induction, count_cap, Option.map_some,
        counts, cap]

/-! ## The whole plan -/

/-- A plan for some findings does what the rules, the options and the cap ask of
it. -/
structure Fulfils (table : RuleTable) (filter : RuleFilter)
    (options : PlanOptions) (issues : List Issue) (plan : Plan) : Prop where
  /-- The entries, one behind the other, are the front of what is wanted. -/
  front : plan.entries.flatMap FilePlan.issues =
    ((wanted table filter options issues).take
      (options.maxIssues.getD (wanted table filter options issues).length)).map
    (planned table)
  inOrder : InOrder plan.entries
  homed : Homed plan.entries
  filled : Filled plan.entries
  safe : ∀ entry ∈ plan.entries, ∀ item ∈ entry.issues,
    (table.classify item.issue.code item.issue.language).category = .safe
  willFix : plan.summary.willFix = plan.issueCount
  byRule : plan.summary.fixesByRule.total = plan.issueCount
  overLimit : plan.summary.overLimit + plan.summary.willFix =
    (wanted table filter options issues).length
  /-- Every safe finding is excluded, a repetition of one that is wanted, behind
  the cap or planned. -/
  accounted : ∃ dropped,
    (wanted table filter options issues ++ dropped).Perm
    (selected table filter options issues) ∧
    (∀ issue ∈ dropped, ∃ kept ∈ wanted table filter options issues,
      issue.same kept = true) ∧
    plan.summary.filteredOut + dropped.length + plan.summary.overLimit +
      plan.summary.willFix =
      (issues.filter (Triage.isOf table .safe)).length
  needsReview : plan.summary.needsReview =
    (issues.filter (Triage.isOf table .risky)).length
  suggestions : plan.summary.suggestions =
    (issues.filter (Triage.isOf table .suggest)).length

section

variable (table : RuleTable) (filter : RuleFilter) (options : PlanOptions)
  (issues : List Issue)

theorem issues_ofTriage :
    (ofTriage table filter options
      (Triage.ofIssues table issues)).entries.flatMap
        FilePlan.issues =
      ((wanted table filter options issues).take
        (options.maxIssues.getD
          (wanted table filter options issues).length)).map
          (planned table) := by
  rw [entries_ofTriage]
  cases options.maxIssues with
  | none => rw [Option.getD_none, List.take_length, issues_uncapped]
  | some limit =>
      rw [Option.getD_some, issues_cap, issues_uncapped, List.map_take]

theorem ofTriage_homed (triage : Triage) :
    Homed (ofTriage table filter options triage).entries := by
  apply entries_of_cap (uncapped_homed table filter options triage)
  intro limit entries homed
  exact cap_homed homed limit

theorem ofTriage_filled (triage : Triage) :
    Filled (ofTriage table filter options triage).entries := by
  apply entries_of_cap (uncapped_filled table filter options triage)
  intro limit entries _
  exact cap_filled limit entries

theorem count_uncapped :
    count (uncapped table filter options (Triage.ofIssues table issues)) =
      (wanted table filter options issues).length := by
  rw [count_eq_length, issues_uncapped, List.length_map]

/-- The loop that fills a plan up to a limit gives the entries and the number of
findings left out. A plan without a cap may take any limit that is not
reached. -/
theorem fill?_ofTriage {limit : Nat}
    (asked : options.maxIssues = some limit ∨
      options.maxIssues = none ∧
      (wanted table filter options issues).length ≤ limit) :
    let triage := Triage.ofIssues table issues
    let plan := ofTriage table filter options triage
    fill? limit (uncapped table filter options triage) =
      some (plan.entries, plan.summary.overLimit) := by
  intro triage plan
  have entries : plan.entries =
      cap limit (uncapped table filter options triage) := by
    rw [entries_ofTriage]
    rcases asked with capped | ⟨free, room⟩
    · rw [capped]
    · rw [free, cap_eq_self (uncapped_filled table filter options triage)]
      rw [count_uncapped]
      exact room
  rw [fill?_eq_cap, ← entries]
  rfl

theorem wanted_perm_distinct :
    (wanted table filter options issues).Perm
      (distinct [] (selected table filter options issues)) := by
  rw [distinct_eq_eraseDupsBy]
  exact List.mergeSort_perm _ _

theorem wanted_dropped :
    ∃ dropped,
      (wanted table filter options issues ++ dropped).Perm
        (selected table filter options issues) ∧
      ∀ issue ∈ dropped, ∃ kept ∈ wanted table filter options issues,
        issue.same kept = true := by
  obtain ⟨dropped, whole, witnessed⟩ :=
    distinct_dropped [] (selected table filter options issues)
  have once := wanted_perm_distinct table filter options issues
  refine ⟨dropped, (once.append_right dropped).trans whole,
    fun issue member => ?_⟩
  obtain ⟨kept, inside, same⟩ := witnessed issue member
  exact ⟨kept, once.mem_iff.mpr (by simpa using inside), same⟩

theorem mem_selected_of_mem_wanted {issue : Issue}
    (member : issue ∈ wanted table filter options issues) :
    issue ∈ selected table filter options issues :=
  mem_of_mem_distinct
    ((wanted_perm_distinct table filter options issues).mem_iff.mp member)

theorem filteredOut_ofTriage :
    (ofTriage table filter options
      (Triage.ofIssues table issues)).summary.filteredOut +
        (selected table filter options issues).length =
      (issues.filter (Triage.isOf table .safe)).length := by
  have safe : (Triage.ofIssues table issues).safe.map ClassifiedIssue.issue =
      issues.filter (Triage.isOf table .safe) :=
    (Triage.ofIssues_partitions table issues).bucket .safe
  have fewer : (selected table filter options issues).length ≤
      (issues.filter (Triage.isOf table .safe)).length :=
    List.length_filter_le _ _
  change ((Triage.ofIssues table issues).safe.map
      ClassifiedIssue.issue).length -
    (((Triage.ofIssues table issues).safe.map ClassifiedIssue.issue).filter
      (selects filter options)).length + _ = _
  rw [selected_of_triage, safe]
  omega

theorem overLimit_ofTriage :
    let plan := ofTriage table filter options (Triage.ofIssues table issues)
    plan.summary.overLimit + plan.summary.willFix =
      (wanted table filter options issues).length := by
  intro plan
  have few : count plan.entries ≤
      (wanted table filter options issues).length := by
    rw [count_eq_length, issues_ofTriage, List.length_map]
    exact List.length_take_le' _ _
  change count (uncapped table filter options (Triage.ofIssues table issues)) -
    count plan.entries + count plan.entries = _
  rw [count_uncapped]
  omega

theorem byRule_ofTriage (triage : Triage) :
    let plan := ofTriage table filter options triage
    plan.summary.fixesByRule.total = plan.issueCount := by
  intro plan
  change Tally.total (Tally.ofList (plan.entries.flatMap fun entry =>
    entry.issues.map fun item => item.issue.code)) = count plan.entries
  rw [Tally.total_ofList, count_eq_length, List.length_flatMap,
    List.length_flatMap]
  simp

variable {table filter options issues}

theorem mem_selected_of_mem_ofTriage {entry : FilePlan} {item : PlannedIssue}
    (member : entry ∈
      (ofTriage table filter options (Triage.ofIssues table issues)).entries)
    (inside : item ∈ entry.issues) :
    item.issue ∈ selected table filter options issues := by
  have planned := List.mem_flatMap.mpr ⟨entry, member, inside⟩
  rw [issues_ofTriage] at planned
  obtain ⟨issue, front, rfl⟩ := List.mem_map.mp planned
  exact mem_selected_of_mem_wanted table filter options issues
    (List.mem_of_mem_take front)

theorem ofTriage_safe {entry : FilePlan} {item : PlannedIssue}
    (member : entry ∈
      (ofTriage table filter options (Triage.ofIssues table issues)).entries)
    (inside : item ∈ entry.issues) :
    (table.classify item.issue.code item.issue.language).category = .safe := by
  have chosen := mem_selected_of_mem_ofTriage member inside
  exact of_decide_eq_true (List.mem_filter.mp (List.mem_filter.mp chosen).1).2

theorem mem_of_mem_ofTriage {entry : FilePlan} {item : PlannedIssue}
    (member : entry ∈
      (ofTriage table filter options (Triage.ofIssues table issues)).entries)
    (inside : item ∈ entry.issues) : item.issue ∈ issues := by
  have chosen := mem_selected_of_mem_ofTriage member inside
  exact (List.mem_filter.mp (List.mem_filter.mp chosen).1).1

/-- Without a cap every selected finding of a file is in its entry, or one that
is the same. -/
theorem exists_item_of_selected (uncapped : options.maxIssues = none)
    {issue : Issue} (chosen : issue ∈ selected table filter options issues)
    {entry : FilePlan}
    (member : entry ∈
      (ofTriage table filter options (Triage.ofIssues table issues)).entries)
    (home : issue.file.same entry.file = true) :
    ∃ item ∈ entry.issues, issue.same item.issue = true := by
  have kept : ∃ kept ∈ wanted table filter options issues,
      issue.same kept = true := by
    obtain ⟨dropped, whole, repeated⟩ :=
      wanted_dropped table filter options issues
    rcases List.mem_append.mp (whole.mem_iff.mpr chosen) with
      inWanted | inDropped
    · exact ⟨issue, inWanted, issue.same_self⟩
    · exact repeated issue inDropped
  obtain ⟨kept, inWanted, same⟩ := kept
  have planned : planned table kept ∈
      (ofTriage table filter options
        (Triage.ofIssues table issues)).entries.flatMap
        FilePlan.issues := by
    rw [issues_ofTriage, uncapped, Option.getD_none, List.take_length]
    exact List.mem_map_of_mem inWanted
  obtain ⟨other, otherIn, inside⟩ := List.mem_flatMap.mp planned
  have keptHome := ofTriage_homed table filter options _ other otherIn _ inside
  have file : issue.file.same kept.file = true :=
    Path.same_iff.mpr (Issue.same_iff.mp same).1
  have equal : other = entry := by
    apply InOrder.eq_of_same (ofTriage_inOrder table filter options _)
      otherIn member
    rw [← Path.same_congr keptHome]
    change kept.file.same entry.file = true
    rw [← Path.same_congr file]
    exact home
  subst equal
  exact ⟨_, inside, same⟩

end

/-- A plan over the triage of some findings fixes the front of those that are
wanted and counts all of them, and its counter of what may still be planned
never falls below zero. -/
theorem ofTriage_fulfils (table : RuleTable) (filter : RuleFilter)
    (options : PlanOptions) (issues : List Issue) :
    let triage := Triage.ofIssues table issues
    let plan := ofTriage table filter options triage
    triage.Partitions table issues ∧ Fulfils table filter options issues plan ∧
      ∀ limit,
        (options.maxIssues = some limit ∨
          options.maxIssues = none ∧
          (wanted table filter options issues).length ≤ limit) →
        fill? limit (uncapped table filter options triage) =
          some (plan.entries, plan.summary.overLimit) := by
  intro triage plan
  have partitions := Triage.ofIssues_partitions table issues
  refine ⟨partitions, ?_, fun limit =>
    fill?_ofTriage table filter options issues⟩
  have overLimit : plan.summary.overLimit + plan.summary.willFix = _ :=
    overLimit_ofTriage table filter options issues
  refine
    { front := issues_ofTriage table filter options issues
      inOrder := ofTriage_inOrder table filter options triage
      homed := ofTriage_homed table filter options triage
      filled := ofTriage_filled table filter options triage
      safe := fun entry member item inside =>
        ofTriage_safe member inside
      willFix := rfl
      byRule := byRule_ofTriage table filter options triage
      overLimit
      accounted := ?_
      needsReview := ?_
      suggestions := ?_ }
  · obtain ⟨dropped, whole, witnessed⟩ :=
      wanted_dropped table filter options issues
    refine ⟨dropped, whole, witnessed, ?_⟩
    have excluded : plan.summary.filteredOut + _ = _ :=
      filteredOut_ofTriage table filter options issues
    rw [← whole.length_eq, List.length_append] at excluded
    omega
  · exact (List.length_map _).symm.trans
      (congrArg List.length (partitions.bucket .risky))
  · exact (List.length_map _).symm.trans
      (congrArg List.length (partitions.bucket .suggest))

end Plan

end LintMend
