import Mathlib.Tactic.SplitIfs
import LintMend.Proofs.Except
import LintMend.Proofs.Repository.Skipping

/-!
# What a run writes

A file is only ever replaced by the cycle of an entry, and only where the mode
applies the fixes. Whatever a store would do with other paths makes no
difference, so a run that fails, analyzes or is dry does not depend on how files
are replaced at all. The log gets one entry behind everything else, and what
becomes of the entry changes nothing but a warning.
-/

namespace LintMend

open scoped Arithmetic

/-- Two stores that read the same everywhere and write the same at some
paths. -/
structure FileStore.SameAt {σ : Type} (paths : Path → Prop)
    (left right : FileStore σ) : Prop where
  read : left.read = right.read
  replace : ∀ path, paths path → ∀ place content,
    left.replace place path content = right.replace place path content

section

variable {σ : Type} [UsageStore σ] {paths : Path → Prop}
  {left right : FileStore σ} (same : FileStore.SameAt paths left right)

include same

namespace Run

omit [UsageStore σ] in
theorem commit_sameAt {settings : Settings} {path : Path}
    (written : settings.mode = .apply → paths path) (content : Text)
    (site : Site σ) :
    @commit σ left settings path content site =
      @commit σ right settings path content site := by
  unfold commit
  cases mode : settings.mode with
  | dryRun => rfl
  | apply => simp only [same.replace path (written mode)]

theorem fixFile_sameAt (checker : Checker) {settings : Settings}
    {entry : FilePlan} (written : settings.mode = .apply → paths entry.file)
    (site : Site σ) :
    @fixFile σ left _ checker settings entry site =
      @fixFile σ right _ checker settings entry site := by
  unfold fixFile
  rw [same.read]
  simp only [commit_sameAt same written]

theorem fixFiles_sameAt (checker : Checker) {settings : Settings}
    {entries : List FilePlan}
    (written : settings.mode = .apply → ∀ entry ∈ entries, paths entry.file)
    (site : Site σ) :
    @fixFiles σ left _ checker settings entries site =
      @fixFiles σ right _ checker settings entries site := by
  induction entries generalizing site with
  | nil => rfl
  | cons entry entries induction =>
      have here := fixFile_sameAt same checker
        (fun applies => written applies entry List.mem_cons_self) site
      have behind := induction
        fun applies other member =>
          written applies other (List.mem_cons_of_mem _ member)
      simp only [fixFiles, here, behind]

theorem execute_sameAt (checker : Checker) {settings : Settings} {plan : Plan}
    (written : settings.mode = .apply → ∀ entry ∈ plan.entries,
      paths entry.file)
    (site : Site σ) :
    @execute σ left _ checker settings plan site =
      @execute σ right _ checker settings plan site := by
  simp only [execute, fixFiles_sameAt same checker written]

end Run

namespace Review

theorem reviewFiles_sameAt (now : Clock)
    (queue : List (Path × List ClassifiedIssue)) (helper : Helper)
    (site : Site σ) :
    @reviewFiles σ left _ now queue helper site =
      @reviewFiles σ right _ now queue helper site := by
  induction queue generalizing helper site with
  | nil => rfl
  | cons file queue induction =>
      obtain ⟨path, findings⟩ := file
      simp only [reviewFiles, same.read, induction]

theorem run_sameAt (now : Clock) (maxFiles : Nat) (queue : List ClassifiedIssue)
    (site : Site σ) :
    @run σ left _ now maxFiles queue site =
      @run σ right _ now maxFiles queue site := by
  simp only [run, reviewFiles_sameAt same]

end Review

end

/-! ## Where findings come from -/

/-- An analyzer adds its own findings, or nothing but a warning. -/
theorem Analysis.add_eq_ok {root : Path} {present : List Language}
    {analyzer : Analyzer} {before after : Analysis}
    (added : add root present before analyzer = .ok after) :
    after.issues = before.issues ∨
      ∃ issues, analyzer.analyze root = .ok issues ∧
      after.issues = before.issues ++ issues := by
  unfold add at added
  split_ifs at added
  · obtain rfl := Except.ok.inj added
    exact .inl rfl
  · obtain rfl := Except.ok.inj added
    exact .inl rfl
  · obtain ⟨issues, found, done⟩ := bind_eq_ok_iff.mp added
    obtain rfl := Except.ok.inj done
    exact .inr ⟨issues, found, rfl⟩

/-- What an analysis has found was found by one of the analyzers. -/
theorem Analysis.mem_issues {root : Path} {present : List Language}
    {analyzers : List Analyzer} {analysis : Analysis}
    (ran : ofAnalyzers root present analyzers = .ok analysis) :
    ∀ issue ∈ analysis.issues, ∃ analyzer ∈ analyzers, ∃ issues,
      analyzer.analyze root = .ok issues ∧ issue ∈ issues := by
  have keeps : ∀ analyzer ∈ analyzers, ∀ {before after : Analysis},
      add root present before analyzer = .ok after →
      (∀ issue ∈ before.issues, ∃ analyzer ∈ analyzers, ∃ issues,
        analyzer.analyze root = .ok issues ∧ issue ∈ issues) →
      ∀ issue ∈ after.issues, ∃ analyzer ∈ analyzers, ∃ issues,
        analyzer.analyze root = .ok issues ∧ issue ∈ issues := by
    intro analyzer inside before after added known issue member
    rcases add_eq_ok added with same | ⟨issues, found, more⟩
    · rw [same] at member
      exact known issue member
    · rw [more, List.mem_append] at member
      exact member.elim (known issue) fun new =>
        ⟨analyzer, inside, issues, found, new⟩
  exact foldlM_keeps keeps ran fun issue none => absurd none List.not_mem_nil

/-- What a survey has to do with a finding: an analyzer reports it, and its file
is not skipped. -/
theorem Survey.spec_of_mem {paths : PathsConfig} {analyzers : List Analyzer}
    {personal : IgnoreRules} {disk : Disk} {repository : Path} {survey : Survey}
    (surveyed : ofRepository paths analyzers personal disk repository =
      .ok survey)
    {issue : Issue} (member : issue ∈ survey.issues) :
    ∃ skip, patterns paths = .ok skip ∧
      isSkipped skip survey.root issue = false ∧
      ∃ analyzer ∈ analyzers, ∃ issues,
        analyzer.analyze survey.root = .ok issues ∧ issue ∈ issues := by
  obtain ⟨place, -, surveyed⟩ := bind_eq_ok_iff.mp surveyed
  obtain ⟨skip, compiled, surveyed⟩ := bind_eq_ok_iff.mp surveyed
  obtain ⟨sources, -, surveyed⟩ := bind_eq_ok_iff.mp surveyed
  obtain ⟨analysis, analyzed, surveyed⟩ := bind_eq_ok_iff.mp surveyed
  obtain rfl := Except.ok.inj surveyed
  obtain ⟨found, kept⟩ := List.mem_filter.mp member
  exact ⟨skip, compiled, by simpa using kept,
    Analysis.mem_issues analyzed issue found⟩

namespace Workshop

/-- A path that a run on a disk may write: the run applies its fixes, and an
analyzer reports a finding there whose file is not skipped and whose rule is
safe and allowed. -/
structure MayWrite (shop : Workshop) (request : RunRequest) (disk : Disk)
    (path : Path) :
    Prop where
  applies : request.mode = .apply
  found : ∃ survey skip issue,
    Survey.ofRepository shop.config.paths shop.analyzers shop.personal disk
      request.repository = .ok survey ∧
    (∃ analyzer ∈ shop.analyzers, ∃ issues,
      analyzer.analyze survey.root = .ok issues ∧ issue ∈ issues) ∧
    issue.file = path ∧
    Survey.patterns shop.config.paths = .ok skip ∧
    Survey.isSkipped skip survey.root issue = false ∧
    ((RuleTable.withOverrides shop.config.rules.overrides).classify issue.code
      issue.language).category = .safe ∧
    shop.config.rules.filter.allows issue.code = true ∧
    (request.onlyRules = [] ∨ issue.code ∈ request.onlyRules)

section

variable {shop : Workshop} {request : RunRequest} {survey : Survey}
  {disk : Disk}

/-- Planned files may be written where the fixes are applied. -/
theorem mayWrite_of_planned (applies : request.mode = .apply)
    (surveyed : Survey.ofRepository shop.config.paths shop.analyzers
      shop.personal disk request.repository = .ok survey)
    {entry : FilePlan}
    (planned : entry ∈ (shop.planOf request survey).entries) :
    shop.MayWrite request disk entry.file := by
  obtain ⟨found, safe, selected, file⟩ :=
    Plan.file_of_mem_ofTriage (List.mem_map_of_mem planned)
  obtain ⟨bucket, isSafe⟩ := List.mem_filter.mp safe
  obtain ⟨issue, member, rfl⟩ := List.mem_map.mp bucket
  obtain ⟨skip, compiled, unskipped, reported⟩ :=
    Survey.spec_of_mem surveyed member
  obtain ⟨allowed, asked⟩ := Bool.and_eq_true_iff.mp selected
  refine ⟨applies, survey, skip, issue, surveyed, reported, file, compiled,
    unskipped, of_decide_eq_true isSafe, allowed, ?_⟩
  simpa using asked

variable {σ : Type} [UsageStore σ] {left right : FileStore σ}

theorem carryOut_sameAt
    (same : FileStore.SameAt (shop.MayWrite request disk) left right)
    (surveyed : Survey.ofRepository shop.config.paths shop.analyzers
      shop.personal disk
      request.repository = .ok survey) (tracker : Tracker) (site : Site σ) :
    @carryOut σ left _ shop request survey tracker site =
      @carryOut σ right _ shop request survey tracker site := by
  have executed :
      @execute σ left _ shop request.mode (shop.planOf request survey) site =
        @execute σ right _ shop request.mode
        (shop.planOf request survey) site := by
    unfold execute
    cases mode : request.mode with
    | analyze => rfl
    | dryRun =>
        simp only [RunMode.fixing?]
        rw [Run.execute_sameAt same shop.checker]
        intro applies
        cases applies
    | apply =>
        simp only [RunMode.fixing?]
        rw [Run.execute_sameAt same shop.checker]
        intro _ entry planned
        exact mayWrite_of_planned mode surveyed planned
  have reviewed (cancelled : Bool) (queue : List ClassifiedIssue)
      (site : Site σ) :
      @review σ left _ shop cancelled queue site =
        @review σ right _ shop cancelled queue site := by
    simp only [review, Review.run_sameAt same]
  unfold planOf at executed
  simp only [carryOut, executed, reviewed]

theorem runAt_sameAt [DiskPlace σ] [LogStore σ] {place : σ}
    (same : FileStore.SameAt (shop.MayWrite request
      (DiskPlace.disk (Tracker.start shop.config.usage place).2)) left right)
    (assistant : Option Assistant) (cancelled : Bool) :
    @runAt σ left _ _ _ shop request assistant cancelled place =
      @runAt σ right _ _ _ shop request assistant cancelled place := by
  unfold runAt
  simp only
  split
  · rfl
  · next survey surveyed => rw [carryOut_sameAt same surveyed]

end

/-! ## The log -/

end Workshop

namespace LogEntry

/-- The entry tells what the report of a run says. Without a summary nothing was
to be fixed. -/
structure TellsReport (entry : LogEntry) (shop : Workshop)
    (report : RunReport) :
    Prop where
  time : entry.time = shop.now
  repository : entry.repository = report.repository.text
  mode : entry.mode = report.mode
  status : entry.status = report.status
  duration : entry.duration = report.duration
  found : entry.found = report.found
  counts :
    match report.summary with
    | none =>
      entry.fixed = 0 ∧ entry.deferred = 0 ∧ entry.rolledBack = 0 ∧
        entry.errors = []
    | some summary =>
      entry.fixed = (summary.files.map FileReport.fixed).sum ∧
        entry.deferred = summary.deferred.length ∧
        entry.rolledBack = (summary.files.filter FileReport.regression).length ∧
        entry.errors = summary.files.filterMap fun file =>
          file.error.map fun error => file.file.text ++ ": " ++ error

/-- The entry tells why a run has failed, and counts nothing. -/
structure TellsFailure (entry : LogEntry) (shop : Workshop)
    (request : RunRequest) (fault : Failure) : Prop where
  time : entry.time = shop.now
  repository : entry.repository = request.repository.text
  mode : entry.mode = request.mode
  status : entry.status = .failed
  duration : entry.duration = shop.duration
  found : entry.found = 0
  fixed : entry.fixed = 0
  deferred : entry.deferred = 0
  rolledBack : entry.rolledBack = 0
  errors : entry.errors = [fault.kind ++ ": " ++ fault.message]

end LogEntry

namespace Workshop

/-- The entry that tells of a run. -/
def entryOf (shop : Workshop) (request : RunRequest) :
    Except Failure RunReport → LogEntry
  | .error fault => shop.failureEntry request fault
  | .ok report => report.logEntry shop.now

section

variable {σ : Type} [FileStore σ] [UsageStore σ] [DiskPlace σ]

/-- A run up to its log; there need not be one. -/
def unlogged (shop : Workshop) (request : RunRequest)
    (assistant : Option Assistant) (cancelled : Bool) (place : σ) :
    Except Failure RunReport × Site σ :=
  let (tracker, place) := Tracker.start shop.config.usage place
  let site : Site σ :=
    { place, helper := assistant.map fun assistant =>
      { assistant, tracker }, cancelled }
  match
    Survey.ofRepository shop.config.paths shop.analyzers shop.personal
      (DiskPlace.disk place)
      request.repository
  with
  | .error fault => (.error fault, site)
  | .ok survey => (shop.carryOut request survey tracker site).map .ok id

/-- A run is what it is without a log, and behind it one entry is added to the
log. -/
theorem runAt_eq [LogStore σ] (shop : Workshop) (request : RunRequest)
    (assistant : Option Assistant) (cancelled : Bool) (place : σ) :
    let (outcome, site) := shop.unlogged request assistant cancelled place
    shop.runAt request assistant cancelled place =
      match LogStore.append shop.log (shop.entryOf request outcome)
        site.place with
      | .ok place => (outcome, { site with place })
      | .error fault =>
        (outcome.map fun report =>
          { report with warnings := report.warnings ++ [fault.message] },
          site) := by
  unfold runAt unlogged
  rcases Tracker.start shop.config.usage place with ⟨tracker, place⟩
  generalize shown : assistant.map (fun assistant =>
    ({ assistant, tracker } : Helper)) = helper
  simp only [shown]
  cases Survey.ofRepository shop.config.paths shop.analyzers shop.personal
      (DiskPlace.disk place) request.repository with
  | error fault =>
      simp only [record, entryOf]
      cases LogStore.append shop.log (shop.failureEntry request fault) place <;>
        rfl
  | ok survey =>
      rcases done :
        shop.carryOut request survey tracker { place, helper, cancelled } with
        ⟨report, site⟩
      simp only [done, Prod.map, record, entryOf, id]
      cases LogStore.append shop.log (report.logEntry shop.now) site.place <;>
        simp

/-- A run fails only where its survey does. -/
theorem unlogged_eq_error_iff {shop : Workshop} {request : RunRequest}
    {assistant : Option Assistant} {cancelled : Bool} {place : σ}
    {fault : Failure} :
    (shop.unlogged request assistant cancelled place).1 = .error fault ↔
      Survey.ofRepository shop.config.paths shop.analyzers shop.personal
        (DiskPlace.disk (Tracker.start shop.config.usage place).2)
        request.repository =
          .error fault := by
  simp only [unlogged]
  split
  next other surveyed => rw [surveyed, Except.error.injEq, Except.error.injEq]
  next survey surveyed => simp [surveyed]

theorem runAt_eq_error_iff [LogStore σ] {shop : Workshop} {request : RunRequest}
    {assistant : Option Assistant} {cancelled : Bool} {place : σ}
    {fault : Failure} :
    (shop.runAt request assistant cancelled place).1 = .error fault ↔
      (shop.unlogged request assistant cancelled place).1 = .error fault := by
  have logged := shop.runAt_eq request assistant cancelled place
  simp only at logged
  rw [logged]
  split
  · rfl
  · cases (shop.unlogged request assistant cancelled place).1 <;> simp

omit [DiskPlace σ] in
theorem status_carryOut (shop : Workshop) (request : RunRequest)
    (survey : Survey) (tracker : Tracker) (site : Site σ) :
    (shop.carryOut request survey tracker site).1.status =
      if (shop.carryOut request survey tracker site).1.summary.any
        RunSummary.cancelled then
          .cancelled
      else .completed := by
  have shown (summary : Option RunSummary) :
      (summary.map RunSummary.cancelled).getD false =
        summary.any RunSummary.cancelled := by
    cases summary <;> rfl
  simp only [carryOut, shown]

theorem status_unlogged {shop : Workshop} {request : RunRequest}
    {assistant : Option Assistant} {cancelled : Bool} {place : σ}
    {report : RunReport}
    (done : (shop.unlogged request assistant cancelled place).1 = .ok report) :
    report.status =
      if report.summary.any RunSummary.cancelled then .cancelled
      else .completed := by
  simp only [unlogged] at done
  split at done
  · cases done
  · next survey surveyed =>
      obtain rfl := Except.ok.inj done
      exact shop.status_carryOut request survey _ _

/-- An entry that cannot be added changes the warnings of a report only. -/
theorem report_runAt [LogStore σ] {shop : Workshop} {request : RunRequest}
    {assistant : Option Assistant} {cancelled : Bool} {place : σ}
    {report bare : RunReport}
    (outcome : (shop.unlogged request assistant cancelled place).1 = .ok bare)
    (done : (shop.runAt request assistant cancelled place).1 = .ok report) :
    ∃ warnings, report = { bare with warnings } := by
  have logged := shop.runAt_eq request assistant cancelled place
  simp only [outcome] at logged
  rw [logged] at done
  split at done
  · exact ⟨_, (Except.ok.inj done).symm⟩
  · exact ⟨_, (Except.ok.inj done).symm⟩

theorem mode_unlogged {shop : Workshop} {request : RunRequest}
    {assistant : Option Assistant} {cancelled : Bool} {place : σ}
    {report : RunReport}
    (done : (shop.unlogged request assistant cancelled place).1 = .ok report) :
    report.mode = request.mode := by
  simp only [unlogged] at done
  split at done
  · cases done
  · obtain rfl := Except.ok.inj done
    rfl

/-- The entry of a run tells what its report says, and tells of a failure where
there is none. -/
theorem entryOf_unlogged [LogStore σ] (shop : Workshop) (request : RunRequest)
    (assistant : Option Assistant) (cancelled : Bool) (place : σ) :
    let entry :=
      shop.entryOf request (shop.unlogged request assistant cancelled place).1
    let run := shop.runAt request assistant cancelled place
    (entry.status = .failed ↔ ∃ fault, run.1 = .error fault) ∧
    (∀ fault, run.1 = .error fault → entry.TellsFailure shop request fault) ∧
    ∀ report, run.1 = .ok report → entry.TellsReport shop report ∧
      report.mode = request.mode ∧
      report.status =
        if report.summary.any RunSummary.cancelled then .cancelled
        else .completed := by
  intro entry run
  simp only [run, entry, runAt_eq_error_iff]
  cases outcome : (shop.unlogged request assistant cancelled place).1 with
  | error fault =>
      refine ⟨by simp [entryOf, failureEntry], ?_, fun report done => ?_⟩
      · rintro other failed
        cases failed
        exact ⟨rfl, rfl, rfl, rfl, rfl, rfl, rfl, rfl, rfl, rfl⟩
      · have failed := runAt_eq_error_iff.mpr outcome
        rw [done] at failed
        cases failed
  | ok bare =>
      have status := status_unlogged outcome
      have mode := mode_unlogged outcome
      refine ⟨?_, nofun, fun report done => ?_⟩
      · simp only [entryOf, RunReport.logEntry, status]
        split <;> simp
      · obtain ⟨warnings, rfl⟩ := report_runAt outcome done
        refine ⟨⟨rfl, rfl, rfl, rfl, rfl, rfl, ?_⟩, mode, status⟩
        simp only [entryOf, RunReport.logEntry, RunReport.fixed]
        cases bare.summary with
        | none => exact ⟨rfl, rfl, rfl, rfl⟩
        | some summary => exact ⟨rfl, rfl, List.countP_eq_length_filter, rfl⟩

end

/-- Fatal errors come before any write, and every run is logged once. However
files would be replaced elsewhere, a run is the same: it replaces at most the
files of findings that an analyzer has reported, that are not skipped, and whose
rules are safe and allowed; and a run that fails, or does not apply its fixes,
does not depend on how files are replaced at all. The log gets one entry, behind
everything else: of a failure exactly if the run fails, with its text and
without counts, else with the counts of the report, cancelled or completed as
its summary says. Where the entry cannot be added there is one more warning, and
nothing else is different. -/
theorem runs_write_safely_and_log_once {σ : Type} [files : FileStore σ]
    [UsageStore σ] [DiskPlace σ] [LogStore σ] (shop : Workshop)
    (request : RunRequest) (assistant : Option Assistant) (cancelled : Bool)
    (place : σ) :
    let disk := DiskPlace.disk (Tracker.start shop.config.usage place).2
    let run := shop.runAt request assistant cancelled place
    let (outcome, site) := shop.unlogged request assistant cancelled place
    let entry := shop.entryOf request outcome
    (∀ other : FileStore σ,
      FileStore.SameAt (shop.MayWrite request disk) other files →
      @runAt σ other _ _ _ shop request assistant cancelled place = run) ∧
    ((∃ fault, run.1 = .error fault) ∨ request.mode ≠ .apply →
      ∀ other : FileStore σ, other.read = files.read →
        @runAt σ other _ _ _ shop request assistant cancelled place = run) ∧
    run =
      (match LogStore.append shop.log entry site.place with
      | .ok place => (outcome, { site with place })
      | .error fault =>
        (outcome.map fun report =>
          { report with warnings := report.warnings ++ [fault.message] },
          site)) ∧
    (entry.status = .failed ↔ ∃ fault, run.1 = .error fault) ∧
    (∀ fault, run.1 = .error fault → entry.TellsFailure shop request fault) ∧
    ∀ report, run.1 = .ok report → entry.TellsReport shop report ∧
      report.mode = request.mode ∧
      report.status =
        if report.summary.any RunSummary.cancelled then .cancelled
        else .completed := by
  intro disk run
  refine ⟨fun other same => runAt_sameAt same assistant cancelled, ?_,
    shop.runAt_eq request assistant cancelled place,
    shop.entryOf_unlogged request assistant cancelled place⟩
  intro stops
  have unwritable : ∀ path, ¬ shop.MayWrite request disk path := by
    intro path may
    obtain ⟨survey, skip, issue, surveyed, -⟩ := may.found
    rcases stops with ⟨fault, failed⟩ | kept
    · have unsurveyed := unlogged_eq_error_iff.mp (runAt_eq_error_iff.mp failed)
      rw [surveyed] at unsurveyed
      cases unsurveyed
    · exact kept may.applies
  intro other read
  exact runAt_sameAt ⟨read, fun path may =>
    absurd may (unwritable path)⟩ assistant cancelled

end Workshop

end LintMend
