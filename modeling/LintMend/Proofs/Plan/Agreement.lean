import Mathlib.Logic.Basic
import LintMend.Proofs.Plan.Selection
import LintMend.Proofs.Text.Trim

/-!
# Agreement on the rule of a finding

A finding is classified by its code without the blanks at the ends; filters and
strategies look at the code as it is. They agree with the classification
wherever the code has no such blanks. A code that has some is in no table of
fixes, and passes a filter that keeps its rule out.
-/

namespace LintMend

/-- The rule of a finding, which it is classified by. -/
def Issue.rule (issue : Issue) : String :=
  Text.trimmed issue.code

/-- The finding as it would be with the plain code of its rule. -/
def Issue.plain (issue : Issue) : Issue :=
  { issue with code := issue.rule }

/-- Filters, strategy and classification take a planned finding for one of the
same rule. -/
structure PlannedIssue.Agrees (table : RuleTable) (filter : RuleFilter)
    (options : PlanOptions) (item : PlannedIssue) : Prop where
  allowed : item.issue.rule ∉ filter.disabled
  enabled : filter.enabled = [] ∨ item.issue.rule ∈ filter.enabled
  asked : options.onlyRules = [] ∨ item.issue.rule ∈ options.onlyRules
  strategy : (∃ fix, item.strategy = .mechanical fix) ↔
    (table.describe item.issue.code item.issue.language).mechanical = true

@[simp]
theorem Text.trimmed_trimmed (s : String) :
    trimmed (trimmed s) = trimmed s := by
  rw [trimmed, trimmed, String.toList_ofList, trim_trim]

namespace Strategy

variable {code : String} {language : Language}

theorem ofRule_eq_mechanical {fix : Fix}
    (found : ofRule code language = .mechanical fix) :
    (code, fix) ∈ fixes language := by
  unfold ofRule at found
  split at found
  · next there =>
      cases found
      obtain ⟨front, behind, whole, -⟩ := List.lookup_eq_some_iff.mp there
      simp [whole]
  · cases found

/-- No rule with a fix has blanks at the ends of its code. -/
theorem trimmed_of_mem_fixes {fix : Fix}
    (member : (code, fix) ∈ fixes language) :
    Text.trimmed code = code := by
  have all : ∀ entry ∈ fixes language, Text.trimmed entry.1 = entry.1 := by
    cases language <;> decide +kernel
  exact all (code, fix) member

theorem ofRule_of_padded (padded : Text.trimmed code ≠ code) :
    ofRule code language = .assisted := by
  cases found : ofRule code language with
  | assisted => rfl
  | mechanical fix =>
      exact absurd (trimmed_of_mem_fixes (ofRule_eq_mechanical found)) padded

end Strategy

namespace RuleTable

/-- A safe rule is said to be fixed mechanically exactly if there is a fix for
it. -/
theorem mechanical_describe {table : RuleTable} {code : String}
    {language : Language}
    (safe : (table.classify code language).category = .safe) :
    (table.describe code language).mechanical = true ↔
      ∃ fix, Strategy.ofRule (Text.trimmed code) language =
        .mechanical fix := by
  have isSafe : (table.classify (Text.trimmed code) language).isSafe =
      true := by
    rw [classify, Text.trimmed_trimmed]
    exact decide_eq_true safe
  rw [describe, isSafe, Bool.true_and]
  cases Strategy.ofRule (Text.trimmed code) language with
  | mechanical fix => exact iff_of_true rfl ⟨fix, rfl⟩
  | assisted => exact iff_of_false nofun nofun

end RuleTable

namespace Plan

variable {table : RuleTable} {filter : RuleFilter} {options : PlanOptions}
  {issues : List Issue}

/-- The plan for one finding that is safe and selected. -/
theorem entries_of_single {issue : Issue} (uncapped : options.maxIssues = none)
    (safe : (table.classify issue.code issue.language).category = .safe)
    (selected : selects filter options issue = true) :
    (ofTriage table filter options (Triage.ofIssues table [issue])).entries =
      [{ file := issue.file, issues := [planned table issue] }] := by
  have found : (Triage.ofIssues table [issue]).safe.map ClassifiedIssue.issue =
      [issue] := by
    simp [Triage.ofIssues, safe]
  rw [entries_ofTriage, uncapped]
  simp only [Plan.uncapped, found, List.filter_cons_of_pos selected,
    List.filter_nil]
  simp [distinct, groupByFile, addToFile, sortEntry, planned]

theorem planned_of_mem_ofTriage {entry : FilePlan} {item : PlannedIssue}
    (member : entry ∈
      (ofTriage table filter options (Triage.ofIssues table issues)).entries)
    (inside : item ∈ entry.issues) :
    item.strategy = .ofRule item.issue.code item.issue.language ∧
      selects filter options item.issue = true ∧
      (table.classify item.issue.code item.issue.language).category =
        .safe := by
  refine ⟨(ofTriage_arranged member).strategy item inside, ?_,
    ofTriage_safe member inside⟩
  have chosen :=
    (List.mem_filter.mp (mem_selected_of_mem_ofTriage member inside)).2
  exact selects_iff.mpr (of_decide_eq_true chosen)

/-- A planned finding whose code has no blanks at its ends is of one rule to all
that look at it. Any other one is left to the assistant, and is of one rule
exactly if the filters would let the plain code pass and there is no fix for
it. -/
theorem planned_agrees_iff {entry : FilePlan} {item : PlannedIssue}
    (member : entry ∈
      (ofTriage table filter options (Triage.ofIssues table issues)).entries)
    (inside : item ∈ entry.issues) :
    (item.issue.rule ≠ item.issue.code → item.strategy = .assisted) ∧
      (item.Agrees table filter options ↔
        item.issue.rule = item.issue.code ∨
          selects filter options item.issue.plain = true ∧
            Strategy.ofRule item.issue.rule item.issue.language =
              .assisted) := by
  obtain ⟨strategy, selected, safe⟩ := planned_of_mem_ofTriage member inside
  have mechanical := RuleTable.mechanical_describe safe
  have left (padded : item.issue.rule ≠ item.issue.code) :
      item.strategy = .assisted := by
    rw [strategy]
    exact Strategy.ofRule_of_padded padded
  refine ⟨left, ?_⟩
  constructor
  · intro agrees
    by_cases plain : item.issue.rule = item.issue.code
    · exact .inl plain
    · refine .inr
        ⟨selects_iff.mpr ⟨agrees.allowed, agrees.enabled, agrees.asked⟩, ?_⟩
      -- the assistant is asked, so no fix is described either
      have undescribed := (not_congr agrees.strategy).mp (by simp [left plain])
      rw [mechanical] at undescribed
      cases found : Strategy.ofRule item.issue.rule item.issue.language with
      | assisted => rfl
      | mechanical fix => exact absurd ⟨fix, found⟩ undescribed
  · rintro (plain | ⟨allows, unfixed⟩)
    · obtain ⟨allowed, enabled, asked⟩ := selects_iff.mp selected
      refine ⟨plain ▸ allowed, plain ▸ enabled, plain ▸ asked, ?_⟩
      rw [mechanical, strategy]
      change _ ↔ ∃ fix, Strategy.ofRule item.issue.rule item.issue.language =
        .mechanical fix
      rw [plain]
    · obtain ⟨allowed, enabled, asked⟩ := selects_iff.mp allows
      refine ⟨allowed, enabled, asked, ?_⟩
      rw [mechanical]
      change _ ↔ ∃ fix, Strategy.ofRule item.issue.rule item.issue.language =
        .mechanical fix
      rw [unfixed]
      by_cases plain : item.issue.rule = item.issue.code
      · rw [strategy, ← plain, unfixed]
      · rw [left plain]

/-- A code with blanks around it, as an analyzer may report it. -/
def paddedIssue : Issue :=
  { file := ⟨"a.py"⟩, line := 1, code := " F401 ",
    message := "\x60os\x60 imported but unused"
    language := .python }

def withoutImports : RuleFilter :=
  { enabled := [], disabled := ["F401"] }

def unrestricted : PlanOptions :=
  { onlyRules := [], maxIssues := none }

/-- A finding of a disabled rule is planned, and the assistant is asked for a
fix that is said to be mechanical. -/
theorem paddedIssue_planned :
    Issue.make? ⟨"a.py"⟩ 1 " F401 " "\x60os\x60 imported but unused" .python =
      .ok paddedIssue ∧
      ∃ entry ∈ (ofTriage .standard withoutImports unrestricted
          (Triage.ofIssues .standard [paddedIssue])).entries,
        ∃ item ∈ entry.issues, item.issue.rule ∈ withoutImports.disabled ∧
          item.strategy = .assisted ∧
          (RuleTable.standard.describe item.issue.code
            item.issue.language).mechanical = true ∧
          ¬ item.Agrees .standard withoutImports unrestricted := by
  have accepted :
      Issue.make? ⟨"a.py"⟩ 1 " F401 " "\x60os\x60 imported but unused" .python =
        .ok paddedIssue := by
    rfl
  have safe : (RuleTable.standard.classify " F401 " .python).category =
      .safe := by rfl
  have rule : paddedIssue.rule = "F401" := by rfl
  have selected : selects withoutImports unrestricted paddedIssue = true := by
    rfl
  have disabled : paddedIssue.rule ∈ withoutImports.disabled :=
    List.mem_singleton.mpr rule
  have entries := @entries_of_single .standard withoutImports unrestricted
    paddedIssue rfl safe
    selected
  have member :
      { file := paddedIssue.file, issues := [planned .standard paddedIssue] } ∈
        (ofTriage .standard withoutImports unrestricted
          (Triage.ofIssues .standard [paddedIssue])).entries := by
    rw [entries]
    exact List.mem_singleton.mpr rfl
  have inside : planned .standard paddedIssue ∈
      [planned .standard paddedIssue] :=
    List.mem_singleton.mpr rfl
  obtain ⟨left, agrees⟩ := planned_agrees_iff member inside
  have padded : paddedIssue.rule ≠ paddedIssue.code := by
    rw [rule]
    decide
  refine ⟨accepted, _, member, _, inside, disabled, left padded, by rfl, ?_⟩
  rw [agrees]
  rintro (plain | ⟨allows, -⟩)
  · exact padded plain
  · exact absurd (selects_iff.mp allows).1 (not_not_intro disabled)

end Plan

end LintMend
