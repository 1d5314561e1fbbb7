import Mathlib.Algebra.BigOperators.Group.List.Basic
import Mathlib.Data.List.Forall2
import LintMend.Proofs.Run.Cycle

/-!
# Accounting for every finding

Every finding of a plan has one outcome in the report on its file, in the order
of the plan, and the counts of the reports and of the run are the counts of
these outcomes. Fixes are taken back as a whole where a file is rolled back or
cannot be used, so a report with an error counts none. `Balanced` says this of
one file, however its cycle ends; the sums over a run follow from it.
-/

namespace LintMend

open scoped Arithmetic

namespace Outcome

def isDeferred : Outcome → Bool
  | deferred _ => true
  | _ => false

def isRolledBack : Outcome → Bool
  | rolledBack _ => true
  | _ => false

end Outcome

/-- The outcome that a deferral tells of. -/
def DeferredIssue.outcome (deferral : DeferredIssue) : IssueOutcome :=
  { issue := deferral.issue, outcome := .deferred deferral.reason }

namespace FileReport

/-- Every outcome is of one of four kinds. -/
theorem count_kinds (report : FileReport) :
    report.count Outcome.isFixed + report.deferrals.length +
      report.count Outcome.isSkipped +
      report.count Outcome.isRolledBack = report.outcomes.length := by
  unfold count deferrals
  induction report.outcomes with
  | nil => rfl
  | cons made outcomes induction =>
      obtain ⟨issue, outcome⟩ := made
      cases outcome <;>
        simp [Outcome.isFixed, Outcome.isSkipped, Outcome.isRolledBack,
          Outcome.deferral?] at induction ⊢ <;> omega

theorem outcome_deferrals (report : FileReport) :
    report.deferrals.map DeferredIssue.outcome =
      report.outcomes.filter fun made => made.outcome.isDeferred := by
  unfold deferrals
  induction report.outcomes with
  | nil => rfl
  | cons made outcomes induction =>
      obtain ⟨issue, outcome⟩ := made
      cases outcome <;>
        simpa [Outcome.isDeferred, Outcome.deferral?, DeferredIssue.outcome]
        using induction

end FileReport

/-- The number of findings that were fixed and given up again. -/
def RunSummary.givenUp (summary : RunSummary) : Nat :=
  (summary.files.map fun report => report.count Outcome.isRolledBack).sum

namespace Run

variable {σ : Type} [FileStore σ] [UsageStore σ]

/-- New content of a file has passed the checks and cannot be written. -/
def WriteFails (checker : Checker) (settings : Settings) (entry : FilePlan)
    (site : Site σ) :
    Prop :=
  ∃ old outcomes buffer moved fault,
    Staged settings entry site old outcomes buffer moved ∧
    Effective old outcomes buffer ∧
    checker.check old buffer.render entry.file (profileOf outcomes) = none ∧
    commit settings entry.file buffer.render moved = .error fault

/-- A report on a file that was taken up at the site accounts for all findings
of the file. -/
structure Balanced (checker : Checker) (settings : Settings) (entry : FilePlan)
    (site : Site σ) (report : FileReport) : Prop where
  file : report.file = entry.file
  issues : report.outcomes.map IssueOutcome.issue =
    entry.issues.map PlannedIssue.issue
  attempted : report.attempted = entry.issues.length
  fixed : report.fixed = report.count Outcome.isFixed
  regression : report.regression = true →
    report.fixed = 0 ∧ report.changed = false ∧ report.error ≠ none
  rolledBack : ∀ made ∈ report.outcomes, made.outcome.isRolledBack = true →
    report.regression = true
  /-- A report with an error knows no fixed finding. -/
  failed : report.error ≠ none → ∀ made ∈ report.outcomes, made.outcome ≠ .fixed
  unreadable : ∀ fault, FileStore.read site.place entry.file = .error fault →
    report.error ≠ none
  unwritten : WriteFails checker settings entry site → report.error ≠ none
  changed : report.changed = true → 0 < report.fixed ∧ report.error = none

/-! ## One file -/

omit [FileStore σ] in
@[simp]
theorem assist_not_rolledBack (settings : Settings) (item : PlannedIssue)
    (buffer : Buffer) (site : Site σ) :
    (assist settings item buffer site).1.isRolledBack = false := by
  unfold assist
  split
  · rfl
  · simp only
    split
    · rfl
    · split
      · rfl
      · split
        · rfl
        · next suggestion _ =>
            cases Fix.applySuggestion suggestion buffer item.issue.line <;> rfl

omit [FileStore σ] in
@[simp]
theorem fixIssue_not_rolledBack (settings : Settings) (item : PlannedIssue)
    (buffer : Buffer) (site : Site σ) :
    (fixIssue settings item buffer site).1.isRolledBack = false := by
  unfold fixIssue
  split
  · next fix _ =>
      cases fix.apply settings.keepPackageFiles item.issue buffer <;> rfl
  · exact assist_not_rolledBack settings item buffer site

omit [FileStore σ] in
/-- Fixing alone gives up nothing. -/
theorem fixIssues_not_rolledBack (settings : Settings)
    (items : List PlannedIssue) (buffer : Buffer) (site : Site σ) :
    ∀ made ∈ (fixIssues settings items buffer site).1,
      made.2.isRolledBack = false := by
  induction items generalizing buffer site with
  | nil => nofun
  | cons item items induction =>
      intro made member
      rw [fixIssues, List.mem_cons] at member
      rcases member with here | later
      · rw [here]
        exact fixIssue_not_rolledBack settings item buffer site
      · exact induction _ _ made later

theorem report_issues {entry : FilePlan}
    {outcomes : List (PlannedIssue × Outcome)}
    (items : outcomes.map Prod.fst = entry.issues) (changed : Bool) :
    (report entry outcomes changed).outcomes.map IssueOutcome.issue =
      entry.issues.map PlannedIssue.issue := by
  rw [← items]
  simp [report]

theorem report_fixed (entry : FilePlan)
    (outcomes : List (PlannedIssue × Outcome)) (changed : Bool) :
    (report entry outcomes changed).fixed =
      (report entry outcomes changed).count Outcome.isFixed := by
  simp [report, FileReport.count, Function.comp_def]

@[simp]
theorem replaceFixed_items (replacement : Outcome)
    (outcomes : List (PlannedIssue × Outcome)) :
    (replaceFixed replacement outcomes).map Prod.fst =
      outcomes.map Prod.fst := by
  simp [replaceFixed, Function.comp_def]

/-- What was fixed is replaced, and all else stays. -/
theorem mem_replaceFixed {replacement : Outcome}
    {outcomes : List (PlannedIssue × Outcome)} {made : PlannedIssue × Outcome}
    (member : made ∈ replaceFixed replacement outcomes) :
    made.2 = replacement ∨ made.2 ≠ .fixed ∧ made ∈ outcomes := by
  obtain ⟨⟨item, outcome⟩, before, rfl⟩ := List.mem_map.mp member
  cases outcome with
  | fixed => exact .inl rfl
  | deferred | skipped | rolledBack => exact .inr ⟨nofun, before⟩

theorem not_fixed_of_mem_giveUp {entry : FilePlan}
    {outcomes : List (PlannedIssue × Outcome)} {replacement : Outcome}
    (other : replacement ≠ .fixed) (regression : Bool) (reason : String) :
    ∀ made ∈ (giveUp entry outcomes replacement regression reason).outcomes,
      made.outcome ≠ .fixed := by
  intro made member
  obtain ⟨⟨item, outcome⟩, before, rfl⟩ := List.mem_map.mp member
  rcases mem_replaceFixed before with replaced | ⟨kept, -⟩
  · exact fun fixed => other (replaced.symm.trans fixed)
  · exact kept

theorem fixed_giveUp (entry : FilePlan)
    (outcomes : List (PlannedIssue × Outcome)) {replacement : Outcome}
    (other : replacement ≠ .fixed) (regression : Bool) (reason : String) :
    (giveUp entry outcomes replacement regression reason).fixed = 0 := by
  have none :=
    @not_fixed_of_mem_giveUp entry outcomes replacement other regression reason
  apply (report_fixed entry (replaceFixed replacement outcomes) false).trans
  rw [FileReport.count, List.countP_eq_zero]
  intro made member fixed
  have outcome := none made member
  cases here : made.outcome <;> simp_all [Outcome.isFixed]

section

variable {checker : Checker} {settings : Settings} {entry : FilePlan}
  {site moved : Site σ} {old : Text} {outcomes : List (PlannedIssue × Outcome)}
  {buffer : Buffer}

theorem Staged.unique
    (first : Staged settings entry site old outcomes buffer moved)
    {otherOld : Text} {otherOutcomes : List (PlannedIssue × Outcome)}
    {otherBuffer : Buffer} {otherMoved : Site σ}
    (second : Staged settings entry site otherOld otherOutcomes otherBuffer
      otherMoved) :
    otherOld = old ∧ otherOutcomes = outcomes ∧ otherBuffer = buffer ∧
    otherMoved = moved := by
  have read := second.read
  rw [first.read] at read
  cases read
  have fixes := second.fixes
  rw [first.fixes] at fixes
  cases fixes
  exact ⟨rfl, rfl, rfl, rfl⟩

theorem Staged.not_rolledBack
    (staged : Staged settings entry site old outcomes buffer moved) :
    ∀ made ∈ outcomes, made.2.isRolledBack = false := by
  have fixed :=
    fixIssues_not_rolledBack settings entry.issues (.ofText old) site
  rwa [staged.fixes] at fixed

/-- A report that gives nothing up knows no finding that was given up. -/
theorem Staged.report_not_rolledBack
    (staged : Staged settings entry site old outcomes buffer moved)
    (changed : Bool) :
    ∀ made ∈ (report entry outcomes changed).outcomes,
      made.outcome.isRolledBack = false := by
  intro made member
  obtain ⟨pair, before, rfl⟩ := List.mem_map.mp member
  exact staged.not_rolledBack pair before

theorem Effective.fixed_pos (effective : Effective old outcomes buffer)
    (changed : Bool) :
    0 < (report entry outcomes changed).fixed := by
  obtain ⟨made, member, fixed⟩ := List.all_eq_false.mp effective.fixed
  rw [report, List.countP_pos_iff]
  exact ⟨made, member, by simpa using fixed⟩

variable {after : Site σ} {done : FileReport}

theorem FileCycle.error_of_unreadable
    (cycle : FileCycle checker settings entry site done after)
    {fault : FileFault}
    (failed : FileStore.read site.place entry.file = .error fault) :
    done.error ≠ none := by
  cases cycle with
  | unreadable => nofun
  | rolledBack => nofun
  | unwritten => nofun
  | idle staged | finished staged =>
      have read := staged.read
      rw [failed] at read
      cases read

theorem FileCycle.error_of_unwritten
    (cycle : FileCycle checker settings entry site done after)
    (failed : WriteFails checker settings entry site) : done.error ≠ none := by
  obtain ⟨old, outcomes, buffer, moved, fault, staged, effective, verdict,
      refused⟩ := failed
  cases cycle with
  | unreadable => nofun
  | rolledBack => nofun
  | unwritten => nofun
  | idle other idle =>
      obtain ⟨rfl, rfl, rfl, rfl⟩ := other.unique staged
      exact absurd effective idle
  | finished other _ _ committed =>
      obtain ⟨rfl, rfl, rfl, rfl⟩ := other.unique staged
      rw [refused] at committed
      cases committed

/-- Nothing is given up in the report, and an error is none of it. -/
theorem Staged.balanced_report
    (staged : Staged settings entry site old outcomes buffer moved)
    {changed : Bool}
    (cycle : FileCycle checker settings entry site
      (report entry outcomes changed) after)
    (effective : changed = true → Effective old outcomes buffer) :
    Balanced checker settings entry site (report entry outcomes changed) := by
  refine
    { file := rfl
      issues := report_issues staged.items changed
      attempted := rfl
      fixed := report_fixed entry outcomes changed
      regression := nofun
      rolledBack := ?_
      failed := fun failed => absurd rfl failed
      unreadable := fun _ => cycle.error_of_unreadable
      unwritten := cycle.error_of_unwritten
      changed := fun changes => ⟨(effective changes).fixed_pos changed, rfl⟩ }
  intro made member gone
  rw [staged.report_not_rolledBack changed made member] at gone
  cases gone

/-- What was fixed is replaced by something else, and the error says why. -/
theorem FileCycle.balanced_giveUp {replacement : Outcome} {regression : Bool}
    {reason : String} (whole : outcomes.map Prod.fst = entry.issues)
    (noneGone : ∀ made ∈ outcomes, made.2.isRolledBack = false)
    (other : replacement ≠ .fixed)
    (gone : replacement.isRolledBack = true → regression = true)
    (cycle : FileCycle checker settings entry site
      (giveUp entry outcomes replacement regression reason) after) :
    Balanced checker settings entry site
      (giveUp entry outcomes replacement regression reason) := by
  have items : (replaceFixed replacement outcomes).map Prod.fst =
      entry.issues :=
    (replaceFixed_items replacement outcomes).trans whole
  refine
    { file := rfl
      issues := report_issues items false
      attempted := rfl
      fixed := report_fixed entry (replaceFixed replacement outcomes) false
      regression := fun _ =>
        ⟨fixed_giveUp entry outcomes other regression reason, rfl, nofun⟩
      rolledBack := ?_
      failed := fun _ => not_fixed_of_mem_giveUp other regression reason
      unreadable := fun _ => cycle.error_of_unreadable
      unwritten := cycle.error_of_unwritten
      changed := nofun }
  intro made member rolledBack
  obtain ⟨⟨item, outcome⟩, before, rfl⟩ := List.mem_map.mp member
  rcases mem_replaceFixed before with replaced | ⟨-, kept⟩
  · exact gone (replaced ▸ rolledBack)
  · exact absurd (noneGone _ kept) (by simpa using rolledBack)

/-- Skipping a file is giving it up before anything is fixed. -/
theorem unreadable_eq_giveUp (entry : FilePlan) (fault : FileFault) :
    unreadable entry fault =
      giveUp entry
        (entry.issues.map fun item =>
          (item, .skipped ("unreadable: " ++ fault.message)))
        (.skipped ("unreadable: " ++ fault.message)) false
        ("unreadable: " ++ fault.message) := by
  simp [unreadable, giveUp, replaceFixed, Outcome.isFixed,
    Function.comp_def, report]

theorem FileCycle.balanced
    (cycle : FileCycle checker settings entry site done after) :
    Balanced checker settings entry site done := by
  have same := cycle
  cases cycle with
  | unreadable =>
      rw [unreadable_eq_giveUp] at same ⊢
      refine same.balanced_giveUp ?_ ?_ nofun nofun
      · simp [Function.comp_def]
      · intro made member
        obtain ⟨item, -, rfl⟩ := List.mem_map.mp member
        rfl
  | idle staged _ => exact staged.balanced_report same nofun
  | rolledBack staged _ _ =>
      exact same.balanced_giveUp staged.items staged.not_rolledBack nofun
        fun _ => rfl
  | unwritten staged _ _ _ =>
      exact same.balanced_giveUp staged.items staged.not_rolledBack nofun nofun
  | finished staged effective _ _ =>
      exact staged.balanced_report same fun _ => effective

theorem Balanced.counts (balanced : Balanced checker settings entry site done) :
    done.attempted = done.outcomes.length ∧
    done.fixed = done.count Outcome.isFixed := by
  refine ⟨?_, balanced.fixed⟩
  rw [balanced.attempted, ← List.length_map PlannedIssue.issue,
    ← balanced.issues, List.length_map]

end

/-! ## All files -/

/-- The files that a run takes up, each with the site as it is then. -/
def visits (checker : Checker) (settings : Settings) :
    List FilePlan → Site σ → List (FilePlan × Site σ)
  | [], _ => []
  | entry :: entries, site =>
    if site.cancelled then []
    else (entry, site) :: visits checker settings entries
      (fixFile checker settings entry site).2

/-- A run has one report on each file that it takes up, and of it holds what
holds of every cycle. -/
theorem fixFiles_visits {checker : Checker} {settings : Settings}
    {holds : FilePlan × Site σ → FileReport → Prop}
    (each : ∀ {entry site done after},
      FileCycle checker settings entry site done after →
      holds (entry, site) done)
    (entries : List FilePlan) (site : Site σ) :
    List.Forall₂ holds (visits checker settings entries site)
      (fixFiles checker settings entries site).1 := by
  induction entries generalizing site with
  | nil => exact .nil
  | cons entry entries induction =>
      rw [visits, fixFiles]
      split
      · exact .nil
      · exact .cons (each (fixFile_cycle checker settings entry site))
          (induction _)

theorem fixFiles_balanced (checker : Checker) (settings : Settings)
    (entries : List FilePlan) (site : Site σ) :
    List.Forall₂ (fun visit report =>
      Balanced checker settings visit.1 visit.2 report)
      (visits checker settings entries site)
      (fixFiles checker settings entries site).1 :=
  fixFiles_visits (fun cycle => cycle.balanced) entries site

/-- The files are taken up in their order, and all of them unless the run is
cancelled. -/
theorem visits_entries (checker : Checker) (settings : Settings)
    (entries : List FilePlan) (site : Site σ) :
    (visits checker settings entries site).map Prod.fst <+: entries ∧
      ((fixFiles checker settings entries site).2.1 = false →
        (visits checker settings entries site).map Prod.fst = entries) := by
  induction entries generalizing site with
  | nil => exact ⟨List.nil_prefix, fun _ => rfl⟩
  | cons entry entries induction =>
      rw [visits, fixFiles]
      split
      · exact ⟨List.nil_prefix, by simp⟩
      · obtain ⟨front, whole⟩ :=
          induction (fixFile checker settings entry site).2
        refine ⟨(List.prefix_cons_inj entry).mpr front, fun finished => ?_⟩
        exact congrArg (entry :: ·) (whole finished)

/-- The sums over balanced reports balance. -/
theorem sum_balanced {reports : List FileReport}
    (balanced : ∀ report ∈ reports, report.attempted = report.outcomes.length ∧
      report.fixed = report.count Outcome.isFixed) :
    (reports.map FileReport.fixed).sum +
      (reports.flatMap FileReport.deferrals).length +
        (reports.map fun report => report.count Outcome.isSkipped).sum +
        (reports.map fun report => report.count Outcome.isRolledBack).sum =
      (reports.map FileReport.attempted).sum := by
  rw [List.length_flatMap, ← List.sum_map_add, ← List.sum_map_add,
    ← List.sum_map_add]
  congr 1
  apply List.map_congr_left
  intro report member
  obtain ⟨attempted, fixed⟩ := balanced report member
  rw [attempted, fixed]
  exact report.count_kinds

/-- A run accounts for every finding of the files that it takes up, which are
all files unless it is cancelled. In a report every finding has one outcome, in
the order of the plan; what the report counts as fixed are the fixed ones, and
there are none of them in a file that was rolled back or could not be used. The
deferred findings of the run are those of its reports, in order, and all numbers
together are the number of findings attempted. -/
theorem execute_accounts_for_findings (checker : Checker) (settings : Settings)
    (plan : Plan) (site : Site σ) :
    let summary := (execute checker settings plan site).1
    let visits := visits checker settings plan.entries site
    (visits.map Prod.fst <+: plan.entries ∧
      (summary.cancelled = false → visits.map Prod.fst = plan.entries)) ∧
    List.Forall₂ (fun visit report =>
      Balanced checker settings visit.1 visit.2 report) visits
      summary.files ∧
    summary.deferred.map DeferredIssue.outcome =
      (summary.files.flatMap FileReport.outcomes).filter
        (fun made => made.outcome.isDeferred) ∧
    summary.fixed + summary.deferred.length + summary.skipped +
      summary.givenUp =
      summary.attempted := by
  have balanced := fixFiles_balanced checker settings plan.entries site
  refine ⟨visits_entries checker settings plan.entries site, balanced, ?_, ?_⟩
  · simp only [execute]
    rw [List.map_flatMap, List.filter_flatMap]
    exact List.flatMap_congr fun report _ => report.outcome_deferrals
  · apply sum_balanced
    have counts := balanced.flip.imp fun _ _ whole =>
      And.intro whole.counts trivial
    exact ((List.forall₂_and_left _ _).mp counts).1

end Run

end LintMend
