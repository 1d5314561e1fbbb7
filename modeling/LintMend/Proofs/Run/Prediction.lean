import LintMend.Proofs.Run.Accounting
import LintMend.Proofs.Run.Commit

/-!
# Dry runs

A dry run foretells what an applied run from the same state reports. Both ask
the assistant the same and take the same calls off the budget, because fixing
the findings of a file looks at nothing of the files, and no file is read after
it was written. Where they differ, a write is denied.
-/

namespace LintMend

/-- A place whose usage is a store of its own, apart from the files. -/
class UsageApart (σ : Type) (υ : outParam Type) [FileStore σ] [UsageStore σ]
    [UsageStore υ]
    where
  usage : σ → υ
  load_usage (place : σ) :
    (UsageStore.load place).map id usage = UsageStore.load (usage place)
  update_usage (change : Usage → Bool × Usage) (place : σ) :
    (UsageStore.update change place).map id usage =
      UsageStore.update change (usage place)
  replace_usage {place after : σ} {path : Path} {content : Text} :
    FileStore.replace place path content = .ok after → usage after = usage place

instance : UsageApart Bench MemoryUsage where
  usage := Bench.usage
  load_usage _ := rfl
  update_usage _ _ := rfl
  replace_usage {bench after path content} replaced := by
    change (bench.files.replace path content >>= _) = _ at replaced
    cases written : bench.files.replace path content with
    | error fault =>
        rw [written] at replaced
        cases replaced
    | ok files =>
        rw [written] at replaced
        cases replaced
        rfl

/-- The site with another place. -/
def Site.map {σ υ : Type} (f : σ → υ) (site : Site σ) : Site υ :=
  { site with place := f site.place }

namespace UsageApart

variable {σ υ : Type} [FileStore σ] [UsageStore σ] [UsageStore υ]
  [UsageApart σ υ]

theorem current_usage (tracker : Tracker) (place : σ) :
    (tracker.current place).map id (Prod.map id usage) =
      tracker.current (usage place) := by
  unfold Tracker.current
  rw [← load_usage place]
  split
  · rfl
  · rcases UsageStore.load place with ⟨answer, loaded⟩
    cases answer <;> rfl

theorem canProceed_usage (tracker : Tracker) (provider : String) (now : Instant)
    (place : σ) :
    (tracker.canProceed provider now place).map id (Prod.map id usage) =
      tracker.canProceed provider now (usage place) := by
  unfold Tracker.canProceed Tracker.used
  rw [← current_usage tracker place]
  rfl

theorem record_usage (tracker : Tracker) (provider : String) (now : Instant)
    (place : σ) :
    (tracker.record provider now place).map id (Prod.map id usage) =
      tracker.record provider now (usage place) := by
  unfold Tracker.record
  rw [← update_usage _ place]
  split
  · rfl
  · rcases UsageStore.update (tracker.recordInto provider now) place with
      ⟨answer, updated⟩
    cases answer <;> rfl

theorem takeCall_usage (clock : Clock) (helper : Helper) (place : σ) :
    (Run.takeCall clock helper place).map id (Prod.map id usage) =
      Run.takeCall clock helper (usage place) := by
  simp only [Run.takeCall, ← canProceed_usage _ _ _ place]
  rcases helper.tracker.canProceed helper.assistant.provider
    (clock.shows helper.looks) place
    with ⟨free, tracker, looked⟩
  cases free with
  | false => rfl
  | true =>
      simp only [Prod.map, id, ← record_usage tracker _ _ looked]
      rfl

theorem assist_usage (settings : Settings) (item : PlannedIssue)
    (buffer : Buffer) (site : Site σ) :
    (Run.assist settings item buffer site).map id
        (Prod.map id (Site.map usage)) =
      Run.assist settings item buffer (site.map usage) := by
  obtain ⟨place, helper, cancelled⟩ := site
  cases helper with
  | none => rfl
  | some helper =>
      simp only [Run.assist, Site.map]
      cases buffer.line? item.issue.line with
      | none => rfl
      | some target =>
          simp only [← takeCall_usage settings.now helper place]
          rcases Run.takeCall settings.now helper place with
            ⟨granted, taken, left⟩
          cases granted with
          | false => rfl
          | true =>
              simp only [Prod.map, id]
              split <;> rfl

theorem fixIssue_usage (settings : Settings) (item : PlannedIssue)
    (buffer : Buffer) (site : Site σ) :
    (Run.fixIssue settings item buffer site).map id
        (Prod.map id (Site.map usage)) =
      Run.fixIssue settings item buffer (site.map usage) := by
  unfold Run.fixIssue
  split
  · rfl
  · exact assist_usage settings item buffer site

/-- Fixing the findings of a file is a matter of the usage alone. -/
theorem fixIssues_usage (settings : Settings) (items : List PlannedIssue)
    (buffer : Buffer) (site : Site σ) :
    (Run.fixIssues settings items buffer site).map id
        (Prod.map id (Site.map usage)) =
      Run.fixIssues settings items buffer (site.map usage) := by
  induction items generalizing buffer site with
  | nil => rfl
  | cons item items induction =>
      simp only [Run.fixIssues,
        ← fixIssue_usage settings item buffer site, Prod.map, id, ← induction]

end UsageApart

def Settings.withMode (settings : Settings) (mode : Mode) : Settings :=
  { settings with mode }

namespace FileReport

/-- What is reported instead where the new content cannot be written. -/
def unwritten (report : FileReport) (fault : FileFault) : FileReport :=
  let reason := "write failed: " ++ fault.message
  { report with
    fixed := 0
    error := some reason
    outcomes := report.outcomes.map fun made =>
      if made.outcome.isFixed then
        { made with outcome := .skipped reason }
      else made
    changed := false }

/-- The report once its content is to be written. -/
def writtenTo (store : MemoryFiles) (report : FileReport) : FileReport :=
  if report.changed && store.denies report.file then
    report.unwritten (.denied report.file)
  else report

/-- Findings that are left for later are so whether the file is written or
not. -/
@[simp]
theorem deferrals_unwritten (report : FileReport) (fault : FileFault) :
    (report.unwritten fault).deferrals = report.deferrals := by
  unfold deferrals unwritten
  rw [List.filterMap_map]
  congr 1
  funext ⟨issue, outcome⟩
  cases outcome <;> rfl

@[simp]
theorem deferrals_writtenTo (store : MemoryFiles) (report : FileReport) :
    (report.writtenTo store).deferrals = report.deferrals := by
  unfold writtenTo
  split
  · exact report.deferrals_unwritten _
  · rfl

theorem writtenTo_of_all_writable {store : MemoryFiles}
    (writable : store.denied = []) (report : FileReport) :
    report.writtenTo store = report := by
  simp [writtenTo, MemoryFiles.denies, writable]

end FileReport

namespace Run

theorem giveUp_eq_unwritten (entry : FilePlan)
    (outcomes : List (PlannedIssue × Outcome)) (fault : FileFault) :
    giveUp entry outcomes (.skipped ("write failed: " ++ fault.message)) false
        ("write failed: " ++ fault.message) =
      (report entry outcomes true).unwritten fault := by
  refine (FileReport.mk.injEq ..).mpr ⟨rfl, rfl, ?_, rfl, rfl, ?_, rfl⟩
  · have other : Outcome.skipped ("write failed: " ++ fault.message) ≠ .fixed :=
      nofun
    exact fixed_giveUp entry outcomes other false
      ("write failed: " ++ fault.message)
  · simp only [report, replaceFixed, List.map_map]
    apply List.map_congr_left
    rintro ⟨item, outcome⟩ -
    cases outcome <;> rfl

section

variable {σ : Type} [UsageStore σ]

@[simp]
theorem fixIssues_withMode (settings : Settings) (mode : Mode)
    (items : List PlannedIssue) (buffer : Buffer) (site : Site σ) :
    fixIssues (settings.withMode mode) items buffer site =
      fixIssues settings items buffer site := by
  induction items generalizing buffer site with
  | nil => rfl
  | cons item items induction =>
      have same : fixIssue (settings.withMode mode) item buffer site =
          fixIssue settings item buffer site := rfl
      simp only [fixIssues, same, induction]

end

section

variable {σ υ : Type} [FileStore σ] [UsageStore σ] [UsageStore υ]
  [MemoryPlace σ] [UsageApart σ υ]

open MemoryPlace (files)
open UsageApart (usage)

/-- Where a dry run and an applied run are before they take up the same file:
they go on with the same usage and the same helper, and what may be read is the
same in both. -/
structure Alike (dry applied : Site σ) (entries : List FilePlan) : Prop where
  site : dry.map usage = applied.map usage
  contents : ∀ entry ∈ entries,
    (files dry.place).get? entry.file = (files applied.place).get? entry.file
  denied : (files dry.place).denied = (files applied.place).denied

theorem Alike.fixIssues {dry applied : Site σ} {entries : List FilePlan}
    (alike : Alike dry applied entries) (settings : Settings)
    (items : List PlannedIssue) (buffer : Buffer) :
    let foretold := fixIssues (settings.withMode .dryRun) items buffer dry
    let made := fixIssues (settings.withMode .apply) items buffer applied
    made.1 = foretold.1 ∧ made.2.1 = foretold.2.1 ∧
      foretold.2.2.map usage = made.2.2.map usage := by
  have foretold := UsageApart.fixIssues_usage settings items buffer dry
  have made := UsageApart.fixIssues_usage settings items buffer applied
  rw [alike.site, ← made] at foretold
  simp only [fixIssues_withMode]
  simp only [Prod.map, id, Prod.mk.injEq] at foretold
  exact ⟨foretold.1.symm, foretold.2.1.symm, foretold.2.2⟩

theorem Alike.read {dry applied : Site σ} {entry : FilePlan}
    {entries : List FilePlan} (alike : Alike dry applied (entry :: entries)) :
    FileStore.read applied.place entry.file =
      FileStore.read dry.place entry.file := by
  rw [MemoryPlace.read_files, MemoryPlace.read_files, MemoryFiles.read,
    MemoryFiles.read, alike.contents entry List.mem_cons_self]

/-- Without a write the runs go on alike. -/
theorem Alike.move {dry applied foretold made : Site σ} {entry : FilePlan}
    {entries : List FilePlan} (alike : Alike dry applied (entry :: entries))
    (site : foretold.map usage = made.map usage)
    (dryFiles : files foretold.place = files dry.place)
    (appliedFiles : files made.place = files applied.place) :
    Alike foretold made entries := by
  refine ⟨site, ?_, ?_⟩
  · intro later member
    rw [dryFiles, appliedFiles]
    exact alike.contents later (List.mem_cons_of_mem _ member)
  · rw [dryFiles, appliedFiles]
    exact alike.denied

/-- A write is refused where the file is denied. Else it leaves alone the files
that are still to come. -/
theorem Alike.commit {dry applied : Site σ} {path : Path}
    {entries : List FilePlan} (alike : Alike dry applied entries)
    (apart : ∀ later ∈ entries, path.same later.file = false)
    (settings : Settings) (content : Text) :
    match commit (settings.withMode .apply) path content applied with
    | .error fault =>
        (files dry.place).denies path = true ∧ fault = .denied path
    | .ok after =>
        (files dry.place).denies path = false ∧ Alike dry after entries := by
  have denies : (files dry.place).denies path =
      (files applied.place).denies path := by
    rw [MemoryFiles.denies, MemoryFiles.denies, alike.denied]
  have replaced := MemoryPlace.replace_files applied.place path content
  change match (FileStore.replace applied.place path content).map
      fun place => { applied with place } with
    | .error fault => _
    | .ok after => _
  rw [denies]
  cases written : FileStore.replace applied.place path content with
  | error fault =>
      rw [written] at replaced
      cases denied : (files applied.place).denies path with
      | true =>
          rw [MemoryFiles.replace_of_denied denied] at replaced
          cases replaced
          exact ⟨rfl, rfl⟩
      | false =>
          obtain ⟨after, done, -⟩ :=
            MemoryFiles.replace_of_writable denied content
          rw [done] at replaced
          cases replaced
  | ok place =>
      rw [written] at replaced
      cases denied : (files applied.place).denies path with
      | true =>
          rw [MemoryFiles.replace_of_denied denied] at replaced
          cases replaced
      | false =>
          obtain ⟨after, done, kept⟩ :=
            MemoryFiles.replace_of_writable denied content
          rw [done] at replaced
          cases replaced
          refine ⟨rfl, ?_, ?_, ?_⟩
          · rw [alike.site]
            simp only [Site.map, UsageApart.replace_usage written]
          · intro later member
            rw [alike.contents later member, (MemoryFiles.replace_eq_ok done).1,
              Path.same_comm, apart later member]
            rfl
          · exact alike.denied.trans kept.symm

/-- The cycle of one file in a dry run and in an applied run. -/
theorem Alike.fixFile {dry applied : Site σ} {entry : FilePlan}
    {entries : List FilePlan} (alike : Alike dry applied (entry :: entries))
    (apart : ∀ later ∈ entries, entry.file.same later.file = false)
    (checker : Checker) (settings : Settings) :
    let foretold := fixFile checker (settings.withMode .dryRun) entry dry
    let made := fixFile checker (settings.withMode .apply) entry applied
    made.1 = foretold.1.writtenTo (files dry.place) ∧
    Alike foretold.2 made.2 entries ∧
      files foretold.2.place = files dry.place := by
  unfold Run.fixFile
  rw [alike.read]
  cases FileStore.read dry.place entry.file with
  | error fault => exact ⟨rfl, alike.move alike.site rfl rfl, rfl⟩
  | ok before =>
      have same := alike.fixIssues settings entry.issues (.ofText before)
      have dryFiles :=
        MemoryPlace.files_fixIssues (settings.withMode .dryRun) entry.issues
        (.ofText before) dry
      have appliedFiles :=
        MemoryPlace.files_fixIssues (settings.withMode .apply) entry.issues
        (.ofText before) applied
      rcases fixedDry : Run.fixIssues (settings.withMode .dryRun) entry.issues
        (.ofText before)
        dry with ⟨_, _, foretold⟩
      rcases fixedApplied :
        Run.fixIssues (settings.withMode .apply) entry.issues
        (.ofText before) applied with ⟨outcomes, buffer, made⟩
      rw [fixedDry] at dryFiles
      rw [fixedApplied] at appliedFiles
      simp only [fixedDry, fixedApplied] at same ⊢
      obtain ⟨rfl, rfl, site⟩ := same
      have moved := alike.move site dryFiles appliedFiles
      split
      · exact ⟨rfl, moved, dryFiles⟩
      · split
        · exact ⟨rfl, moved, dryFiles⟩
        · have committed := moved.commit apart settings buffer.render
          rw [dryFiles] at committed
          have kept : Run.commit (settings.withMode .dryRun) entry.file
                buffer.render foretold =
              .ok foretold := rfl
          simp only [kept]
          cases written : Run.commit (settings.withMode .apply) entry.file
            buffer.render made with
          | error fault =>
              rw [written] at committed
              obtain ⟨denied, rfl⟩ := committed
              have refusal :=
                giveUp_eq_unwritten entry outcomes (.denied entry.file)
              exact ⟨refusal.trans (if_pos denied).symm, moved, dryFiles⟩
          | ok after =>
              rw [written] at committed
              obtain ⟨writable, later⟩ := committed
              refine ⟨?_, later, dryFiles⟩
              exact (if_neg (by simp [report, writable])).symm

theorem Alike.fixFiles {entries : List FilePlan}
    (ordered : Plan.InOrder entries) {dry applied : Site σ}
    (alike : Alike dry applied entries) (checker : Checker)
    (settings : Settings) :
    let foretold := fixFiles checker (settings.withMode .dryRun) entries dry
    let made := fixFiles checker (settings.withMode .apply) entries applied
    made.1 = foretold.1.map (FileReport.writtenTo (files dry.place)) ∧
      made.2.1 = foretold.2.1 ∧ foretold.2.2.map usage = made.2.2.map usage ∧
      files foretold.2.2.place = files dry.place := by
  induction entries generalizing dry applied with
  | nil => exact ⟨rfl, rfl, alike.site, rfl⟩
  | cons entry entries induction =>
      have cancelled : applied.cancelled = dry.cancelled :=
        (congrArg Site.cancelled alike.site).symm
      simp only [Run.fixFiles, cancelled]
      split
      · exact ⟨rfl, rfl, alike.site, rfl⟩
      · obtain ⟨report, later, kept⟩ :=
          alike.fixFile ordered.not_same checker settings
        obtain ⟨reports, stopped, site, files⟩ := induction ordered.tail later
        rw [kept] at reports files
        exact ⟨by rw [List.map_cons, report, reports], stopped, site, files⟩

/-- A dry run foretells the applied run from the same state. Both ask the
assistant for the same, and report the same of every file; only files with new
content that may not be written are reported as not written, and count no
fixes. -/
theorem dryRun_predicts_apply (table : RuleTable) (filter : RuleFilter)
    (options : PlanOptions) (triage : Triage) (checker : Checker)
    (settings : Settings) (site : Site σ) :
    let plan := Plan.ofTriage table filter options triage
    let dry := execute checker (settings.withMode .dryRun) plan site
    let applied := execute checker (settings.withMode .apply) plan site
    applied.1 =
        { dry.1 with
          files := dry.1.files.map (FileReport.writtenTo (files site.place))
          dryRun := false } ∧
      ((files site.place).denied = [] →
        applied.1 = { dry.1 with dryRun := false }) ∧
      dry.1.dryRun = true ∧
      applied.2.helper = dry.2.helper ∧ applied.2.cancelled = dry.2.cancelled ∧
      usage applied.2.place = usage dry.2.place ∧
      files dry.2.place = files site.place := by
  intro plan dry applied
  have alike : Alike site site plan.entries := ⟨rfl, fun _ _ => rfl, rfl⟩
  obtain ⟨reports, stopped, same, kept⟩ :=
    alike.fixFiles (Plan.ofTriage_inOrder table filter options triage)
      checker settings
  have helper : applied.2.helper = dry.2.helper :=
    (congrArg Site.helper same).symm
  have deferred : applied.1.deferred = dry.1.deferred := by
    change applied.1.files.flatMap _ = dry.1.files.flatMap _
    rw [show applied.1.files = _ from reports, List.flatMap_map]
    simp only [FileReport.deferrals_writtenTo]
    rfl
  have warnings : applied.1.warnings = dry.1.warnings := by
    change (applied.2.helper.map _).getD [] = (dry.2.helper.map _).getD []
    rw [helper]
  have summary : applied.1 =
      { dry.1 with
        files := dry.1.files.map (FileReport.writtenTo (files site.place))
        dryRun := false } :=
    (RunSummary.mk.injEq ..).mpr ⟨reports, deferred, warnings, stopped, rfl⟩
  refine ⟨summary, ?_, rfl, helper, (congrArg Site.cancelled same).symm,
    (congrArg Site.place same).symm, kept⟩
  intro writable
  rw [summary]
  have unchanged : FileReport.writtenTo (files site.place) = id :=
    funext (FileReport.writtenTo_of_all_writable writable)
  rw [unchanged, List.map_id]

end

end Run

end LintMend
