import Mathlib
import LintMend.Proofs.Fix.Cleaning
import LintMend.Proofs.Plan.Selection
import LintMend.Proofs.Run.Accounting
import LintMend.Proofs.Run.Commit
import LintMend.Proofs.Run.Mechanical

/-!
# Runs that clean a file

The blemishes that a linter reports of a file are planned with it, each at least
once, and a run that writes the file has made the fix of every one of them. So
the content it leaves has no blemish, and there is nothing to plan for the file
the next time.
-/

namespace LintMend

/-- The findings of a path are exactly the blemishes of a text, in any order and
with any messages. -/
structure Inspected (issues : List Issue) (path : Path)
    (content : Text) : Prop where
  sound : ∀ issue ∈ issues, issue.file.same path = true →
    issue.language = .python ∧ Text.Blemish content issue.code issue.line
  complete : ∀ code number, Text.Blemish content code number →
    ∃ issue ∈ issues, issue.file.same path = true ∧ issue.code = code ∧
    issue.line = number

namespace Text.Blemish

variable {content : Text} {code : String} {number : Nat}

theorem code_mem (blemish : Blemish content code number) :
    code ∈ ["W291", "W292", "W391"] := by
  cases blemish <;> simp

theorem mechanical (blemish : Blemish content code number) :
    ∃ fix, Strategy.ofRule code .python = .mechanical fix ∧
      fix.isWhitespaceOnly = true := by
  cases blemish <;> exact ⟨_, rfl, rfl⟩

end Text.Blemish

namespace Plan

/-- Findings of a rule are safe, and nothing excludes them. -/
structure Admits (table : RuleTable) (filter : RuleFilter)
    (options : PlanOptions) (code : String) : Prop where
  safe : (table.classify code .python).category = .safe
  allowed : filter.allows code = true
  asked : options.onlyRules = [] ∨ code ∈ options.onlyRules

variable {table : RuleTable} {filter : RuleFilter} {options : PlanOptions}
  {issues : List Issue}

theorem mem_selected {issue : Issue} (member : issue ∈ issues)
    (python : issue.language = .python)
    (admits : Admits table filter options issue.code) :
    issue ∈ selected table filter options issues := by
  apply List.mem_filter.mpr
  constructor
  · apply List.mem_filter.mpr
    refine ⟨member, decide_eq_true ?_⟩
    rw [python]
    exact admits.safe
  · apply decide_eq_true
    rw [← selects_iff, selects, admits.allowed, Bool.true_and]
    rcases admits.asked with all | listed
    · simp [all]
    · simp [listed]

end Plan

namespace Inspected

variable {table : RuleTable} {filter : RuleFilter} {options : PlanOptions}
  {issues : List Issue} {path : Path} {content : Text}

theorem of_mem_entry (inspected : Inspected issues path content)
    {entry : FilePlan} (entryIn : entry ∈
      (Plan.ofTriage table filter options
        (Triage.ofIssues table issues)).entries)
    (home : entry.file.same path = true) {item : PlannedIssue}
    (inside : item ∈ entry.issues) :
    item.issue.language = .python ∧
    Text.Blemish content item.issue.code item.issue.line := by
  apply inspected.sound item.issue (Plan.mem_of_mem_ofTriage entryIn inside)
  have file :=
    Plan.ofTriage_homed table filter options _ entry entryIn item inside
  rw [Path.same_congr file]
  exact home

/-- There is nothing to plan for a file without a blemish. -/
theorem forFile?_eq_none (inspected : Inspected issues path content)
    (spotless : ∀ code number, ¬ Text.Blemish content code number) :
    (Plan.ofTriage table filter options (Triage.ofIssues table issues)).forFile?
      path = none := by
  apply List.find?_eq_none.mpr
  intro entry entryIn home
  obtain ⟨item, inside⟩ := List.exists_mem_of_ne_nil _
    (Plan.ofTriage_filled table filter options _ entry entryIn)
  have blemish := (inspected.of_mem_entry entryIn home inside).2
  exact spotless item.issue.code item.issue.line blemish

end Inspected

namespace Run

variable {σ : Type} [FileStore σ] [UsageStore σ]

section

variable {table : RuleTable} {filter : RuleFilter} {options : PlanOptions}
  {issues : List Issue}

/-- The entry of an inspected file has the fix of every blemish. -/
theorem treats_of_entry (uncapped : options.maxIssues = none)
    (admits : ∀ code ∈ ["W291", "W292", "W391"],
      Plan.Admits table filter options code)
    {path : Path} {content : Text} (inspected : Inspected issues path content)
    {entry : FilePlan}
    (entryIn : entry ∈
      (Plan.ofTriage table filter options
        (Triage.ofIssues table issues)).entries)
    (home : entry.file.same path = true) :
    (∀ item ∈ entry.issues, ∃ fix, item.strategy = .mechanical fix) ∧
      Fix.Treats content (steps entry.issues) := by
  have arranged := Plan.ofTriage_arranged entryIn
  have chosen : ∀ item ∈ entry.issues, ∃ fix, item.strategy = .mechanical fix ∧
      fix.isWhitespaceOnly = true := by
    intro item inside
    obtain ⟨python, blemish⟩ := inspected.of_mem_entry entryIn home inside
    rw [arranged.strategy item inside, python]
    exact blemish.mechanical
  refine ⟨fun item inside => ?_, ?_, ?_⟩
  · obtain ⟨fix, strategy, _⟩ := chosen item inside
    exact ⟨fix, strategy⟩
  · rintro ⟨issue, fix⟩ member
    obtain ⟨item, inside, rfl, strategy⟩ := mem_steps.mp member
    obtain ⟨other, same, whitespace⟩ := chosen item inside
    rw [strategy] at same
    cases same
    exact whitespace
  · intro code number blemish
    obtain ⟨issue, member, file, rfl, rfl⟩ :=
      inspected.complete code number blemish
    have python := (inspected.sound issue member file).1
    have asked :=
      Plan.mem_selected member python (admits issue.code blemish.code_mem)
    obtain ⟨item, inside, same⟩ :=
      Plan.exists_item_of_selected uncapped asked entryIn (by
      rw [Path.same_congr file, Path.same_comm]
      exact home)
    obtain ⟨_, line, rule, _, language⟩ := Issue.same_iff.mp same
    obtain ⟨fix, mechanical, _⟩ := blemish.mechanical
    refine ⟨(item.issue, fix), mem_steps.mpr ⟨item, inside, rfl, ?_⟩, line.symm,
      mechanical⟩
    rw [arranged.strategy item inside, ← rule, ← language, python]
    exact mechanical

end

variable [MemoryPlace σ]

open MemoryPlace (files)

section

variable {checker : Checker} {settings : Settings} {entry : FilePlan}
  {site after : Site σ} {done : FileReport}

theorem FileCycle.renders
    (cycle : FileCycle checker settings entry site done after)
    (applies : settings.mode = .apply) (changed : done.changed = true) :
    ∃ old, (files site.place).get? entry.file = some old ∧
      (files after.place).get? entry.file =
        some (fixIssues settings entry.issues
            (.ofText old) site).2.1.render := by
  cases cycle with
  | unreadable | idle | rolledBack | unwritten => cases changed
  | @finished old outcomes buffer moved after staged _ _ committed =>
      refine ⟨old, staged.get?_eq, ?_⟩
      rcases commit_eq_ok committed with ⟨dry, _⟩ | ⟨_, written⟩
      · rw [applies] at dry
        cases dry
      · obtain ⟨contents, _⟩ := MemoryFiles.replace_eq_ok written
        rw [contents, Path.same_self, if_pos rfl, staged.fixes]

/-- The cycle of a file leaves all other files alone. -/
theorem FileCycle.elsewhere
    (cycle : FileCycle checker settings entry site done after)
    (arranged : entry.Arranged) {path : Path}
    (apart : entry.file.same path = false) :
    (files after.place).get? path = (files site.place).get? path := by
  have ordered : Plan.InOrder [entry] := by simp [Plan.InOrder]
  have alone : Commits checker settings [entry] [done] (files site.place)
      (files after.place) :=
    cycle.commits ordered arranged (.nothing checker settings [] _)
  apply alone.kept
  intro _ report member same
  rw [List.mem_singleton.mp member, cycle.file, apart] at same
  cases same

end

/-- What a run writes is what the fixes of a file that it takes up make of the
content before the run. -/
theorem fixFiles_renders_visits (checker : Checker) {settings : Settings}
    (applies : settings.mode = .apply) {entries : List FilePlan}
    (ordered : Plan.InOrder entries)
    (arranged : ∀ entry ∈ entries, entry.Arranged) (site : Site σ) :
    ∀ report ∈ (fixFiles checker settings entries site).1,
      report.changed = true →
      ∃ visit ∈ visits checker settings entries site,
      report.file = visit.1.file ∧ ∃ old,
        (files site.place).get? visit.1.file = some old ∧
        (files (fixFiles checker settings entries site).2.2.place).get?
            visit.1.file =
          some (fixIssues settings visit.1.issues
              (.ofText old) visit.2).2.1.render := by
  induction entries generalizing site with
  | nil =>
      intro report member
      cases member
  | cons entry entries induction =>
      rw [fixFiles, visits]
      split
      · intro report member
        cases member
      · obtain ⟨here, behind⟩ := List.forall_mem_cons.mp arranged
        have cycle := fixFile_cycle checker settings entry site
        generalize fixFile checker settings entry site = made at cycle ⊢
        obtain ⟨done, middle⟩ := made
        have rest :=
          fixFiles_commits checker settings ordered.tail behind middle
        have later := induction ordered.tail behind middle
        intro report member changed
        rcases List.mem_cons.mp member with first | second
        · subst first
          obtain ⟨old, before, written⟩ := cycle.renders applies changed
          refine ⟨(entry, site), List.mem_cons_self, cycle.file, old,
            before, ?_⟩
          rw [← written]
          -- No later report is on the file of this entry.
          apply rest.kept
          intro _ other otherIn same
          obtain ⟨planned, plannedIn, equal⟩ :=
            List.mem_map.mp (rest.order.subset (List.mem_map_of_mem otherIn))
          rw [← equal, Path.same_comm, ordered.not_same planned plannedIn]
            at same
          cases same
        · obtain ⟨visit, visited, file, old, before, written⟩ :=
            later report second changed
          have planned :=
            (visits_entries checker settings entries middle).1.subset
            (List.mem_map_of_mem visited)
          refine ⟨visit, List.mem_cons_of_mem _ visited, file, old, ?_, written⟩
          rw [← before]
          exact (cycle.elsewhere here (ordered.not_same visit.1 planned)).symm

theorem fixFiles_renders (checker : Checker) {settings : Settings}
    (applies : settings.mode = .apply) {entries : List FilePlan}
    (ordered : Plan.InOrder entries)
    (arranged : ∀ entry ∈ entries, entry.Arranged) (site : Site σ) :
    ∀ report ∈ (fixFiles checker settings entries site).1,
      report.changed = true →
      ∃ entry ∈ entries, report.file = entry.file ∧ ∃ old start,
        (files site.place).get? entry.file = some old ∧
        (files (fixFiles checker settings entries site).2.2.place).get?
            entry.file =
          some (fixIssues settings entry.issues (.ofText old)
              (start : Site σ)).2.1.render := by
  intro report member changed
  obtain ⟨visit, visited, file, old, before, written⟩ :=
    fixFiles_renders_visits checker applies ordered arranged site report
      member changed
  have planned := (visits_entries checker settings entries site).1.subset
    (List.mem_map_of_mem visited)
  exact ⟨visit.1, planned, file, old, visit.2, before, written⟩

/-- A run over the blemishes of a file that writes the file leaves it without a
blemish, and the next plan has nothing for it. -/
theorem clean_after_pass {table : RuleTable} {filter : RuleFilter}
    {options : PlanOptions} (uncapped : options.maxIssues = none)
    (admits : ∀ code ∈ ["W291", "W292",
      "W391"], Plan.Admits table filter options code) {settings : Settings}
    (applies : settings.mode = .apply) (checker : Checker) (site : Site σ)
    {issues : List Issue} {path : Path} {old : Text}
    (content : (files site.place).get? path = some old)
    (inspected : Inspected issues path old) :
    let plan :=
      Plan.ofTriage table filter options (Triage.ofIssues table issues)
    let (summary, done) := execute checker settings plan site
    ∀ report ∈ summary.files, report.file.same path = true →
      report.changed = true →
      ∃ new, (files done.place).get? path = some new ∧
        (∀ code number, ¬ Text.Blemish new code number) ∧
        ∀ again, Inspected again path new →
          (Plan.ofTriage table filter options
              (Triage.ofIssues table again)).forFile? path =
            none := by
  intro plan
  have ordered : Plan.InOrder plan.entries :=
    Plan.ofTriage_inOrder table filter options _
  have arranged : ∀ entry ∈ plan.entries, entry.Arranged :=
    fun entry member => Plan.ofTriage_arranged member
  have rendered := fixFiles_renders checker applies ordered arranged site
  rcases run : fixFiles checker settings plan.entries site with
    ⟨reports, cancelled, done⟩
  rw [run] at rendered
  simp only [execute, run]
  intro report member file changed
  obtain ⟨entry, entryIn, reported, before, moved, beforeRun, afterRun⟩ :=
    rendered report member changed
  have home : entry.file.same path = true := by
    rw [← reported]
    exact file
  rw [MemoryFiles.get?_congr _ home] at beforeRun afterRun
  rw [content] at beforeRun
  cases beforeRun
  obtain ⟨mechanical, treats⟩ :=
    treats_of_entry uncapped admits inspected entryIn home
  rw [fixIssues_mechanical settings mechanical] at afterRun
  have spotless := treats.no_blemish settings.keepPackageFiles
  refine ⟨_, afterRun, spotless, fun again clean => ?_⟩
  exact clean.forFile?_eq_none spotless

/-! A file whose last line is blank, has blanks and is not ended; one finding is
reported twice. -/

def untidyContent : Text :=
  "x = 1  \n\n ".toList

def untidyIssues : List Issue :=
  [⟨⟨"a.py"⟩, 1, "W291", "Trailing whitespace", .python⟩,
    ⟨⟨"a.py"⟩, 1, "W291", "Trailing whitespace", .python⟩,
    ⟨⟨"a.py"⟩, 2, "W391", "Blank line at end of file", .python⟩,
    ⟨⟨"a.py"⟩, 3, "W292", "No newline at end of file", .python⟩,
    ⟨⟨"a.py"⟩, 3, "W291", "Trailing whitespace", .python⟩]

def untidySite : Site Bench :=
  { place :=
      { files :=
        { files := [(⟨"a.py"⟩, untidyContent)], writes := [], denied := [] }
        usage :=
          { usage := [], loads := 0, updates := 0, failingLoads := []
            failingUpdates := [] } }
    helper := none
    cancelled := false }

def everyFinding : PlanOptions :=
  { onlyRules := [], maxIssues := none }

def untidyPlan : Plan :=
  .ofTriage .standard .everything everyFinding
    (Triage.ofIssues .standard untidyIssues)

def untidySettings : Settings :=
  { mode := .apply, keepPackageFiles := true, contextLines := 5,
    now := .still (.ofMillis 0) }

def untidyChecker : Checker :=
  { maxShrink := 0.5, validate := fun _ _ => .unsupported }

def untidyEntry : FilePlan :=
  { file := ⟨"a.py"⟩
    issues :=
      [⟨⟨⟨"a.py"⟩, 3, "W291", "Trailing whitespace", .python⟩,
        .mechanical .stripTrailingWhitespace,
          "Trailing whitespace"⟩,
        ⟨⟨⟨"a.py"⟩, 3, "W292", "No newline at end of file", .python⟩,
          .mechanical .ensureFinalNewline, "No newline at end of file"⟩,
        ⟨⟨⟨"a.py"⟩, 2, "W391", "Blank line at end of file", .python⟩,
          .mechanical .trimTrailingBlankLines, "Blank line at end of file"⟩,
        ⟨⟨⟨"a.py"⟩, 1, "W291", "Trailing whitespace", .python⟩,
          .mechanical .stripTrailingWhitespace, "Trailing whitespace"⟩] }

private theorem untidyPlan_entries : untidyPlan.entries = [untidyEntry] := by
  have selected : Plan.selected .standard .everything everyFinding
      untidyIssues = untidyIssues := by
    rfl
  have distinct : (Plan.distinct [] untidyIssues).map (Plan.planned .standard) =
      untidyEntry.issues.reverse := by
    rfl
  rw [untidyPlan, Plan.entries_ofTriage]
  change Plan.uncapped _ _ _ _ = _
  rw [Plan.uncapped, Plan.selected_of_triage, selected, distinct]
  cbv

private theorem untidyContent_lines :
    Text.lines untidyContent = ["x = 1  ".toList, [], [' ']] := by
  rfl

private theorem untidyIssues_inspected :
    Inspected untidyIssues ⟨"a.py"⟩ untidyContent := by
  have trailing (index : Nat) (line : Text)
      (found : (Text.lines untidyContent)[index]? = some line)
      (blanks : line ≠ Text.trimEnd line) :
      Text.Blemish untidyContent "W291" (index + 1) :=
    .trailing found blanks
  have blankTail : Text.Blemish untidyContent "W391" 2 := by
    have cut : Text.lines untidyContent = ["x = 1  ".toList] ++ [[], [' ']] :=
      untidyContent_lines
    exact .blankTail cut (by decide) (by decide) (by decide)
  have unended : Text.Blemish untidyContent "W292" 3 :=
    .unended (by decide) (by decide)
  constructor
  · intro issue member _
    simp only [untidyIssues, List.mem_cons, List.not_mem_nil,
      or_false] at member
    rcases member with rfl | rfl | rfl | rfl | rfl
    · exact ⟨rfl, trailing 0 _ rfl (by decide)⟩
    · exact ⟨rfl, trailing 0 _ rfl (by decide)⟩
    · exact ⟨rfl, blankTail⟩
    · exact ⟨rfl, unended⟩
    · exact ⟨rfl, trailing 2 _ rfl (by decide)⟩
  · intro code number blemish
    cases blemish with
    | @trailing index line found blanks =>
        rw [untidyContent_lines] at found
        match index, found with
        | 0, found => exact ⟨_, List.mem_cons_self, rfl, rfl, rfl⟩
        | 1, found =>
            cases found
            exact absurd rfl blanks
        | 2, found =>
            exact ⟨⟨⟨"a.py"⟩, 3, "W291", "Trailing whitespace", .python⟩, by
              simp [untidyIssues],
              rfl, rfl, rfl⟩
    | unended =>
        exact ⟨⟨⟨"a.py"⟩, 3, "W292", "No newline at end of file", .python⟩,
          by simp [untidyIssues], rfl, rfl, rfl⟩
    | @blankTail front tail cut present blank visible =>
        rw [untidyContent_lines] at cut
        match front, cut with
        | [], cut =>
            cases cut
            exact absurd (blank _ List.mem_cons_self) (by decide)
        | [_], _ =>
            exact ⟨⟨⟨"a.py"⟩, 2, "W391", "Blank line at end of file", .python⟩,
              by simp [untidyIssues], rfl, rfl, rfl⟩
        | [_, _], cut =>
            cases cut
            exact absurd (visible _ rfl) (by decide)
        | [_, _, _], cut =>
            cases cut
            exact absurd rfl present

private theorem untidyRun :
    let run := execute untidyChecker untidySettings untidyPlan untidySite
    run.1.files.map (fun report => (report.file, report.changed)) =
      [(⟨"a.py"⟩, true)] ∧
      (files run.2.place).get? ⟨"a.py"⟩ = some "x = 1\n".toList := by
  simp only [execute, untidyPlan_entries]
  exact ⟨rfl, rfl⟩

theorem untidySite_cleaned :
    let run := execute untidyChecker untidySettings untidyPlan untidySite
    Inspected untidyIssues ⟨"a.py"⟩ untidyContent ∧
      run.1.files.map (fun report => (report.file, report.changed)) =
        [(⟨"a.py"⟩, true)] ∧
      (files run.2.place).get? ⟨"a.py"⟩ = some "x = 1\n".toList ∧
      ∀ code number, ¬ Text.Blemish "x = 1\n".toList code number := by
  have admits : ∀ code ∈ ["W291", "W292", "W391"],
      Plan.Admits .standard .everything everyFinding code := by
    intro code member
    simp only [List.mem_cons, List.not_mem_nil, or_false] at member
    rcases member with rfl | rfl | rfl <;> exact ⟨rfl, rfl, .inl rfl⟩
  have applies : untidySettings.mode = .apply := rfl
  have clean :
      let run := execute untidyChecker untidySettings untidyPlan untidySite
      ∀ report ∈ run.1.files, report.file.same ⟨"a.py"⟩ = true →
      report.changed = true →
        ∃ new, (files run.2.place).get? ⟨"a.py"⟩ = some new ∧
          (∀ code number, ¬ Text.Blemish new code number) ∧ _ :=
    clean_after_pass rfl admits applies untidyChecker untidySite rfl
      untidyIssues_inspected
  obtain ⟨reports, content⟩ := untidyRun
  refine ⟨untidyIssues_inspected, reports, content, ?_⟩
  generalize execute untidyChecker untidySettings untidyPlan untidySite = run
    at *
  have member : ((⟨"a.py"⟩, true) : Path × Bool) ∈
      run.1.files.map fun report => (report.file, report.changed) := by
    rw [reports]
    exact List.mem_cons_self
  obtain ⟨report, reported, equal⟩ := List.mem_map.mp member
  obtain ⟨file, changed⟩ := Prod.mk.inj equal
  obtain ⟨new, left, spotless, _⟩ :=
    clean report reported (by rw [file]; rfl) changed
  rw [content] at left
  cases left
  exact spotless

end Run

end LintMend
