import Mathlib.Data.List.Pairwise
import LintMend.Proofs.Plan.Entries
import LintMend.Proofs.Run.Cycle
import LintMend.Proofs.Run.Place

/-!
# Committing whole files

A run writes a file once and as a whole, or leaves it alone. The content of a
path changes only where the report says so, and then it is a content that the
checks have let pass; the writes of a run are the changed files in the order of
the plan.
-/

namespace LintMend

/-- The rule of the finding has a mechanical fix that takes away whitespace and
nothing else. -/
def Issue.hasWhitespaceFix (issue : Issue) : Bool :=
  ((Strategy.ofRule issue.code issue.language).mechanicalFix?.map
    Fix.isWhitespaceOnly).getD
    false

/-- The checks let the new content take the place of the old one. They count it
as a pass of whitespace fixes exactly when all fixes of the report are such. -/
def FileReport.Approves (report : FileReport) (checker : Checker)
    (old new : Text) : Prop :=
  ∃ profile, checker.check old new report.file profile = none ∧
    (profile = .whitespaceOnly ↔
      ∀ entry ∈ report.outcomes, entry.outcome = .fixed →
      entry.issue.hasWhitespaceFix = true)

namespace Run

@[simp]
theorem isFixed_iff {outcome : Outcome} :
    outcome.isFixed = true ↔ outcome = .fixed := by
  cases outcome <;> simp [Outcome.isFixed]

theorem profileOf_eq_whitespaceOnly_iff
    {outcomes : List (PlannedIssue × Outcome)} :
    profileOf outcomes = .whitespaceOnly ↔
      ∀ made ∈ outcomes, made.2 = .fixed → isWhitespaceFix made.1 = true := by
  unfold profileOf
  simp only [ite_eq_left_iff, reduceCtorEq, imp_false, Decidable.not_not,
    List.all_eq_true, Bool.or_eq_true, Bool.not_eq_true', Bool.eq_false_iff,
    ne_eq, isFixed_iff]
  grind

variable {σ : Type} [FileStore σ] [UsageStore σ]

theorem Staged.profileOf_iff {settings : Settings} {entry : FilePlan}
    {site moved : Site σ} {old : Text}
    {outcomes : List (PlannedIssue × Outcome)} {buffer : Buffer}
    (staged : Staged settings entry site old outcomes buffer moved)
    (arranged : entry.Arranged) (changed : Bool) :
    profileOf outcomes = .whitespaceOnly ↔
      ∀ made ∈ (report entry outcomes changed).outcomes, made.outcome = .fixed →
        made.issue.hasWhitespaceFix = true := by
  have agree : ∀ made ∈ outcomes,
      isWhitespaceFix made.1 = made.1.issue.hasWhitespaceFix := by
    intro made member
    have planned : made.1 ∈ entry.issues := by
      rw [← staged.items]
      exact List.mem_map_of_mem member
    rw [isWhitespaceFix, arranged.strategy made.1 planned,
      Issue.hasWhitespaceFix]
  rw [profileOf_eq_whitespaceOnly_iff]
  simp only [report, List.forall_mem_map]
  constructor
  · intro whitespace made member fixed
    rw [← agree made member]
    exact whitespace made member fixed
  · intro whitespace made member fixed
    rw [agree made member]
    exact whitespace made member fixed

variable [MemoryPlace σ]

open MemoryPlace (files)

theorem Staged.files_eq {settings : Settings} {entry : FilePlan}
    {site moved : Site σ} {old : Text}
    {outcomes : List (PlannedIssue × Outcome)} {buffer : Buffer}
    (staged : Staged settings entry site old outcomes buffer moved) :
    files moved.place = files site.place := by
  have fixed :=
    MemoryPlace.files_fixIssues settings entry.issues (.ofText old) site
  rwa [staged.fixes] at fixed

theorem Staged.get?_eq {settings : Settings} {entry : FilePlan}
    {site moved : Site σ} {old : Text}
    {outcomes : List (PlannedIssue × Outcome)} {buffer : Buffer}
    (staged : Staged settings entry site old outcomes buffer moved) :
    (files site.place).get? entry.file = some old := by
  have read := staged.read
  rw [MemoryPlace.read_files] at read
  exact MemoryFiles.read_eq_ok_iff.mp read

/-- A dry run writes nothing, and an applied content replaces the file's. -/
theorem commit_eq_ok {settings : Settings} {path : Path} {content : Text}
    {site after : Site σ}
    (committed : commit settings path content site = .ok after) :
    settings.mode = .dryRun ∧ after = site ∨
      settings.mode = .apply ∧
        (files site.place).replace path content = .ok (files after.place) := by
  unfold commit at committed
  cases mode : settings.mode with
  | dryRun =>
      rw [mode] at committed
      cases committed
      exact .inl ⟨rfl, rfl⟩
  | apply =>
      rw [mode] at committed
      rw [← MemoryPlace.replace_files]
      cases written : FileStore.replace site.place path content with
      | error fault =>
          rw [written] at committed
          cases committed
      | ok place =>
          rw [written] at committed
          cases committed
          exact .inr ⟨rfl, rfl⟩

/-! ## One file -/

/-- Without new content, or in a dry run, all files stay as they are. -/
theorem FileCycle.files_eq {checker : Checker} {settings : Settings}
    {entry : FilePlan} {site after : Site σ} {done : FileReport}
    (cycle : FileCycle checker settings entry site done after)
    (kept : settings.mode = .apply → done.changed = false) :
    files after.place = files site.place := by
  cases cycle with
  | unreadable => rfl
  | idle staged _ => exact staged.files_eq
  | rolledBack staged _ _ => exact staged.files_eq
  | unwritten staged _ _ _ => exact staged.files_eq
  | finished staged _ _ committed =>
      rcases commit_eq_ok committed with ⟨_, same⟩ | ⟨applies, _⟩
      · rw [same]
        exact staged.files_eq
      · cases kept applies

/-- New content is written once, it is not the old one, and the checks have let
it pass. -/
theorem FileCycle.replaced {checker : Checker} {settings : Settings}
    {entry : FilePlan} {site after : Site σ} {done : FileReport}
    (cycle : FileCycle checker settings entry site done after)
    (arranged : entry.Arranged) (applies : settings.mode = .apply)
    (changed : done.changed = true) :
    ∃ old new, (files site.place).get? entry.file = some old ∧ new ≠ old ∧
      (files site.place).replace entry.file new = .ok (files after.place) ∧
      done.Approves checker old new := by
  cases cycle with
  | unreadable | idle | rolledBack | unwritten => cases changed
  | @finished old outcomes buffer moved after staged effective verdict
      committed =>
        rcases commit_eq_ok committed with ⟨dry, _⟩ | ⟨_, written⟩
        · rw [applies] at dry
          cases dry
        · rw [staged.files_eq] at written
          exact ⟨old, buffer.render, staged.get?_eq, effective.altered, written,
            profileOf outcomes, verdict, staged.profileOf_iff arranged true⟩

/-! ## All files -/

/-- What a run over some entries makes of the files. -/
structure Commits (checker : Checker) (settings : Settings)
    (entries : List FilePlan) (reports : List FileReport)
    (before after : MemoryFiles) : Prop where
  /-- The reports are those of the first entries. -/
  order : reports.map FileReport.file <+: entries.map FilePlan.file
  /-- Contents stay where no report tells of new content. -/
  kept : ∀ path, (settings.mode = .apply →
      ∀ report ∈ reports, report.file.same path = true →
      report.changed = false) →
    after.get? path = before.get? path
  /-- New content has passed the checks. -/
  replaced : settings.mode = .apply → ∀ report ∈ reports,
    report.changed = true →
    ∃ old new, before.get? report.file = some old ∧
    after.get? report.file = some new ∧
      new ≠ old ∧ report.Approves checker old new
  noError : ∀ report ∈ reports, report.changed = true →
    report.error = none ∧ report.regression = false
  /-- The writes are the changed files. -/
  writes : after.writes = before.writes ++
    if settings.mode = .apply then
      (reports.filter FileReport.changed).map FileReport.file
    else []

omit [FileStore σ] [UsageStore σ] [MemoryPlace σ] in
theorem Commits.nothing (checker : Checker) (settings : Settings)
    (entries : List FilePlan) (before : MemoryFiles) :
    Commits checker settings entries [] before before :=
  { order := List.nil_prefix
    kept := fun _ _ => rfl
    replaced := fun _ _ member => by cases member
    noError := fun _ member => by cases member
    writes := by simp }

section

variable {checker : Checker} {settings : Settings} {entry : FilePlan}
  {entries : List FilePlan} {site middle : Site σ} {done : FileReport}
  {reports : List FileReport} {after : MemoryFiles}

omit [MemoryPlace σ] in
private theorem FileCycle.apart {before : MemoryFiles}
    (cycle : FileCycle checker settings entry site done middle)
    (ordered : Plan.InOrder (entry :: entries))
    (rest : Commits checker settings entries reports before after) :
    ∀ report ∈ reports, done.file.same report.file = false := by
  intro report member
  have planned : report.file ∈ entries.map FilePlan.file :=
    rest.order.subset (List.mem_map_of_mem member)
  obtain ⟨later, laterMember, equality⟩ := List.mem_map.mp planned
  rw [cycle.file, ← equality]
  exact ordered.not_same later laterMember

omit [MemoryPlace σ] in
private theorem FileCycle.noError_cons {before : MemoryFiles}
    (cycle : FileCycle checker settings entry site done middle)
    (rest : Commits checker settings entries reports before after) :
    ∀ report ∈ done :: reports, report.changed = true →
      report.error = none ∧ report.regression = false := by
  intro report member changed
  rcases List.mem_cons.mp member with here | later
  · subst here
    exact cycle.no_error changed
  · exact rest.noError report later changed

private theorem FileCycle.commits_of_kept
    (cycle : FileCycle checker settings entry site done middle)
    (keeps : settings.mode = .apply → done.changed = false)
    (rest : Commits checker settings entries reports
      (files middle.place) after) :
    Commits checker settings (entry :: entries) (done :: reports)
      (files site.place)
      after := by
  have noError := cycle.noError_cons rest
  rw [cycle.files_eq keeps] at rest
  refine
    { order := by simpa [cycle.file] using rest.order
      kept := ?_
      replaced := ?_
      noError
      writes := ?_ }
  · intro path untouched
    apply rest.kept
    intro applies report member
    exact untouched applies report (List.mem_cons_of_mem _ member)
  · intro applies report member changed
    rcases List.mem_cons.mp member with here | later
    · subst here
      rw [keeps applies] at changed
      cases changed
    · exact rest.replaced applies report later changed
  · rw [rest.writes]
    by_cases applies : settings.mode = .apply
    · simp [applies, keeps applies]
    · simp [applies]

/-- A file with new content goes in front of the cycles of other files, which
leave it alone. -/
private theorem FileCycle.commits_of_changed
    (cycle : FileCycle checker settings entry site done middle)
    (applies : settings.mode = .apply) (changed : done.changed = true)
    (ordered : Plan.InOrder (entry :: entries)) (arranged : entry.Arranged)
    (rest : Commits checker settings entries reports
      (files middle.place) after) :
    Commits checker settings (entry :: entries) (done :: reports)
      (files site.place)
      after := by
  have apart := cycle.apart ordered rest
  obtain ⟨old, new, oldContent, different, written, approved⟩ :=
    cycle.replaced arranged applies changed
  obtain ⟨contents, noted⟩ := MemoryFiles.replace_eq_ok written
  have finalContent : after.get? done.file =
      (files middle.place).get? done.file := by
    apply rest.kept
    intro _ report member same
    rw [Path.same_comm, apart report member] at same
    cases same
  have others : ∀ path, done.file.same path = false →
      (files middle.place).get? path = (files site.place).get? path := by
    intro path elsewhere
    rw [contents path, ← cycle.file, Path.same_comm, elsewhere]
    rfl
  refine
    { order := by simpa [cycle.file] using rest.order
      kept := ?_
      replaced := ?_
      noError := cycle.noError_cons rest
      writes := ?_ }
  · intro path untouched
    have elsewhere : done.file.same path = false := by
      by_contra same
      have stays :=
        untouched applies done List.mem_cons_self (by simpa using same)
      rw [changed] at stays
      cases stays
    have later : after.get? path = (files middle.place).get? path := by
      apply rest.kept
      intro applies report member
      exact untouched applies report (List.mem_cons_of_mem _ member)
    rw [later]
    exact others path elsewhere
  · intro _ report member reportChanged
    rcases List.mem_cons.mp member with here | later
    · subst here
      refine ⟨old, new, ?_, ?_, different, approved⟩
      · rw [cycle.file]
        exact oldContent
      · rw [finalContent, contents, cycle.file, Path.same_self, if_pos rfl]
    · obtain ⟨old, new, oldContent, rest⟩ :=
        rest.replaced applies report later reportChanged
      rw [others report.file (apart report later)] at oldContent
      exact ⟨old, new, oldContent, rest⟩
  · rw [rest.writes, noted]
    simp [applies, changed, cycle.file]

/-- The cycle of a file goes in front of the cycles of other files. -/
theorem FileCycle.commits
    (cycle : FileCycle checker settings entry site done middle)
    (ordered : Plan.InOrder (entry :: entries)) (arranged : entry.Arranged)
    (rest : Commits checker settings entries reports
      (files middle.place) after) :
    Commits checker settings (entry :: entries) (done :: reports)
      (files site.place)
      after := by
  by_cases changes : settings.mode = .apply ∧ done.changed = true
  · obtain ⟨applies, changed⟩ := changes
    exact cycle.commits_of_changed applies changed ordered arranged rest
  · apply cycle.commits_of_kept _ rest
    intro applies
    simpa [applies] using changes

end

theorem fixFiles_commits (checker : Checker) (settings : Settings)
    {entries : List FilePlan} (ordered : Plan.InOrder entries)
    (arranged : ∀ entry ∈ entries, entry.Arranged) (site : Site σ) :
    Commits checker settings entries (fixFiles checker settings entries site).1
      (files site.place)
      (files (fixFiles checker settings entries site).2.2.place) := by
  induction entries generalizing site with
  | nil => exact .nothing checker settings [] _
  | cons entry entries induction =>
      rw [fixFiles]
      split
      · exact .nothing checker settings _ _
      · have rest := induction ordered.tail
          (fun later member => arranged later (List.mem_cons_of_mem _ member))
          (fixFile checker settings entry site).2
        exact (fixFile_cycle checker settings entry site).commits ordered
          (arranged entry List.mem_cons_self) rest

theorem Commits.distinct {checker : Checker} {settings : Settings}
    {entries : List FilePlan} {reports : List FileReport}
    {before after : MemoryFiles}
    (commits : Commits checker settings entries reports before after)
    (ordered : Plan.InOrder entries) :
    (reports.map FileReport.file).Pairwise fun earlier later =>
      earlier.same later = false :=
  (List.Pairwise.sublist commits.order.sublist ordered).imp
    Path.same_eq_false_of_lt

theorem Commits.apart {checker : Checker} {settings : Settings}
    {entries : List FilePlan} {reports : List FileReport}
    {before after : MemoryFiles}
    (commits : Commits checker settings entries reports before after)
    (ordered : Plan.InOrder entries) {left right : FileReport}
    (leftMember : left ∈ reports) (rightMember : right ∈ reports)
    (different : left ≠ right) :
    left.file.same right.file = false := by
  have distinct := List.pairwise_map.mp (commits.distinct ordered)
  have : Std.Symm fun left right : FileReport =>
    left.file.same right.file = false := by
    constructor
    intro left right apart
    rw [Path.same_comm]
    exact apart
  exact distinct.forall leftMember rightMember different

/-- A content that differs is told of by a report. -/
theorem Commits.reported {checker : Checker} {settings : Settings}
    {entries : List FilePlan} {reports : List FileReport}
    {before after : MemoryFiles}
    (commits : Commits checker settings entries reports before after)
    {path : Path} (differs : after.get? path ≠ before.get? path) :
    settings.mode = .apply ∧ ∃ report ∈ reports,
      report.file.same path = true ∧ report.changed = true := by
  have touched := mt (commits.kept path) differs
  push Not at touched
  obtain ⟨applies, report, member, same, changed⟩ := touched
  exact ⟨applies, report, member, same, by simpa using changed⟩

/-- The file of a report without new content, or with an error, keeps its
content. -/
theorem Commits.spared {checker : Checker} {settings : Settings}
    {entries : List FilePlan} {reports : List FileReport}
    {before after : MemoryFiles}
    (commits : Commits checker settings entries reports before after)
    (ordered : Plan.InOrder entries) {report : FileReport}
    (member : report ∈ reports)
    (spared : report.changed = false ∨ report.error ≠ none ∨
      report.regression = true) :
    after.get? report.file = before.get? report.file := by
  by_contra differs
  obtain ⟨_, other, otherMember, same, changed⟩ := commits.reported differs
  obtain rfl : other = report := by
    by_contra different
    have apart := commits.apart ordered otherMember member different
    rw [same] at apart
    cases apart
  have clean := commits.noError other member changed
  rcases spared with unchanged | failed | regressed
  · rw [changed] at unchanged
    cases unchanged
  · exact failed clean.1
  · rw [clean.2] at regressed
    cases regressed

/-- A run commits whole files. The content of a path changes only in a run that
applies its fixes and where a report says so; then it becomes a content that the
checks have let pass. A file that was rolled back, could not be used, was not
reached or is not in the plan keeps its content, and so do all files in a dry
run. The writes are the changed files, each once and in the order of the
plan. -/
theorem execute_commits_whole_files (table : RuleTable) (filter : RuleFilter)
    (options : PlanOptions) (triage : Triage) (checker : Checker)
    (settings : Settings) (site : Site σ) :
    let plan := Plan.ofTriage table filter options triage
    let (summary, done) := execute checker settings plan site
    let before := files site.place
    let after := files done.place
    (∀ path, after.get? path ≠ before.get? path →
      settings.mode = .apply ∧ ∃ report ∈ summary.files,
        report.file.same path = true ∧ report.changed = true ∧
          ∃ old new, before.get? path = some old ∧ after.get? path = some new ∧
            report.Approves checker old new) ∧
    (settings.mode = .apply → ∀ report ∈ summary.files, report.changed = true →
      after.get? report.file ≠ before.get? report.file) ∧
    (∀ report ∈ summary.files,
      report.changed = false ∨ report.error ≠ none ∨ report.regression = true →
        after.get? report.file = before.get? report.file) ∧
    after.writes =
      before.writes ++
      (if settings.mode = .apply then summary.changedFiles else []) ∧
    summary.changedFiles.Sublist (plan.entries.map FilePlan.file) ∧
    summary.changedFiles.Pairwise fun earlier later =>
      earlier.same later = false := by
  intro plan
  have ordered : Plan.InOrder plan.entries :=
    Plan.ofTriage_inOrder table filter options triage
  have arranged : ∀ entry ∈ plan.entries, entry.Arranged :=
    fun entry member => Plan.ofTriage_arranged member
  have commits := fixFiles_commits checker settings ordered arranged site
  rcases run : fixFiles checker settings plan.entries site with
    ⟨reports, cancelled, done⟩
  rw [run] at commits
  simp only [execute, run]
  have distinct := commits.distinct ordered
  have changedSublist :
      ((reports.filter FileReport.changed).map FileReport.file).Sublist
        (reports.map FileReport.file) :=
    List.filter_sublist.map FileReport.file
  refine ⟨?_, ?_, ?_, commits.writes,
    changedSublist.trans commits.order.sublist, distinct.sublist changedSublist⟩
  · intro path differs
    obtain ⟨applies, report, member, same, changed⟩ := commits.reported differs
    obtain ⟨old, new, oldContent, newContent, _, approved⟩ :=
      commits.replaced applies report member changed
    refine ⟨applies, report, member, same, changed, old, new, ?_, ?_, approved⟩
    · rw [← MemoryFiles.get?_congr _ same]
      exact oldContent
    · rw [← MemoryFiles.get?_congr _ same]
      exact newContent
  · intro applies report member changed
    obtain ⟨old, new, oldContent, newContent, different, _⟩ :=
      commits.replaced applies report member changed
    rw [oldContent, newContent]
    simpa using different
  · intro report member spared
    exact commits.spared ordered member spared

end Run

end LintMend
