import Mathlib
import LintMend.Proofs.Plan.Selection
import LintMend.Proofs.Run.Accounting
import LintMend.Proofs.Run.Commit

/-!
# Files are fixed apart from each other

What becomes of a file depends on its entry, its content and whether it may be
written, and on nothing that happens to other files. A cycle leaves every other
file as it is, so a run takes a file up as it was at the start; and the cycle of
a file that needs no assistant reads nothing of the site besides the file. Two
runs with the same entry therefore report the same of it, whatever else they do.
-/

namespace LintMend

namespace MemoryFiles

/-- Two stores have the same content at a path, and both or neither may be
written there. -/
structure AgreeAt (path : Path) (left right : MemoryFiles) : Prop where
  content : left.get? path = right.get? path
  denied : left.denies path = right.denies path

namespace AgreeAt

variable {path : Path} {left middle right : MemoryFiles}

theorem refl (path : Path) (store : MemoryFiles) : AgreeAt path store store :=
  ⟨rfl, rfl⟩

theorem symm (agree : AgreeAt path left right) : AgreeAt path right left :=
  ⟨agree.content.symm, agree.denied.symm⟩

theorem trans (first : AgreeAt path left middle)
    (second : AgreeAt path middle right) :
    AgreeAt path left right :=
  ⟨first.content.trans second.content, first.denied.trans second.denied⟩

/-- The write of another path. -/
theorem of_replace {store after : MemoryFiles} {written : Path} {content : Text}
    (replaced : store.replace written content = .ok after)
    (apart : written.same path = false) : AgreeAt path after store := by
  refine ⟨?_, ?_⟩
  · rw [(replace_eq_ok replaced).1, Path.same_comm, apart]
    rfl
  · rw [denies, denies, denied_of_replace replaced]

/-- A write fails in both stores for the same reason, or leaves its content in
both. -/
theorem replace (agree : AgreeAt path left right) (content : Text) :
    (∃ fault, left.replace path content = .error fault ∧
      right.replace path content = .error fault) ∨
    ∃ leftAfter rightAfter, left.replace path content = .ok leftAfter ∧
      right.replace path content = .ok rightAfter ∧
      AgreeAt path leftAfter rightAfter := by
  cases denied : left.denies path with
  | true =>
      refine .inl ⟨_, replace_of_denied denied content,
        replace_of_denied ?_ content⟩
      rw [← agree.denied]
      exact denied
  | false =>
      obtain ⟨leftAfter, leftDone, leftDenied⟩ :=
        replace_of_writable denied content
      rw [agree.denied] at denied
      obtain ⟨rightAfter, rightDone, rightDenied⟩ :=
        replace_of_writable denied content
      refine .inr ⟨leftAfter, rightAfter, leftDone, rightDone, ?_, ?_⟩
      · rw [(replace_eq_ok leftDone).1, (replace_eq_ok rightDone).1,
          if_pos path.same_self]
        rw [if_pos path.same_self]
      · have same := agree.denied
        rw [MemoryFiles.denies, MemoryFiles.denies] at same ⊢
        rw [leftDenied, rightDenied, same]

end AgreeAt

end MemoryFiles

namespace Run

open MemoryPlace (files)
open MemoryFiles (AgreeAt)

section

variable {σ τ : Type} [UsageStore σ] [UsageStore τ]

/-- The settings that fixing a file without an assistant looks at. -/
structure SameRules (left right : Settings) : Prop where
  mode : left.mode = right.mode
  keepPackageFiles : left.keepPackageFiles = right.keepPackageFiles

/-- No finding asks for an assistant, or there is none to ask, neither here nor
there. -/
def Unassisted (items : List PlannedIssue) (left : Site σ)
    (right : Site τ) : Prop :=
  (∀ item ∈ items, item.strategy ≠ .assisted) ∨ left.helper = none ∧
  right.helper = none

theorem fixIssue_unassisted {leftSettings rightSettings : Settings}
    (rules : SameRules leftSettings rightSettings) {item : PlannedIssue}
    {left : Site σ} {right : Site τ} (unassisted : Unassisted [item] left right)
    (buffer : Buffer) :
    ∃ outcome fixed, fixIssue leftSettings item buffer left =
      (outcome, fixed, left) ∧
      fixIssue rightSettings item buffer right = (outcome, fixed, right) := by
  unfold fixIssue
  cases strategy : item.strategy with
  | mechanical fix =>
      rw [rules.keepPackageFiles]
      exact ⟨_, _, rfl, rfl⟩
  | assisted =>
      rcases unassisted with mechanical | ⟨leftHelper, rightHelper⟩
      · exact absurd strategy (mechanical item List.mem_cons_self)
      · simp only [assist, leftHelper, rightHelper]
        exact ⟨_, _, rfl, rfl⟩

/-- Fixes without an assistant come to the same on all sites, and leave the
sites alone. -/
theorem fixIssues_unassisted {leftSettings rightSettings : Settings}
    (rules : SameRules leftSettings rightSettings) {items : List PlannedIssue}
    {left : Site σ} {right : Site τ} (unassisted : Unassisted items left right)
    (buffer : Buffer) :
    ∃ outcomes fixed, fixIssues leftSettings items buffer left =
      (outcomes, fixed, left) ∧
      fixIssues rightSettings items buffer right =
        (outcomes, fixed, right) := by
  induction items generalizing buffer with
  | nil => exact ⟨[], buffer, rfl, rfl⟩
  | cons item items induction =>
      have here : Unassisted [item] left right := by
        refine unassisted.imp_left fun mechanical other member => ?_
        rw [List.mem_singleton.mp member]
        exact mechanical item List.mem_cons_self
      have behind : Unassisted items left right :=
        unassisted.imp_left fun mechanical other member =>
          mechanical other (List.mem_cons_of_mem _ member)
      obtain ⟨outcome, middle, leftOne, rightOne⟩ :=
        fixIssue_unassisted rules here buffer
      obtain ⟨outcomes, fixed, leftRest, rightRest⟩ := induction behind middle
      refine ⟨(item, outcome) :: outcomes, fixed, ?_, ?_⟩
      · simp only [fixIssues, leftOne, leftRest]
      · simp only [fixIssues, rightOne, rightRest]

theorem fixIssues_of_no_helper (settings : Settings) (items : List PlannedIssue)
    (buffer : Buffer) {site : Site σ} (alone : site.helper = none) :
    (fixIssues settings items buffer site).2.2 = site := by
  obtain ⟨_, _, fixed, -⟩ :=
    fixIssues_unassisted ⟨rfl, rfl⟩
      (.inr ⟨alone, alone⟩ : Unassisted items site site) buffer
  rw [fixed]

end

/-! ## One file -/

section

variable {σ : Type} [FileStore σ] [UsageStore σ]

omit [UsageStore σ] in
theorem helper_of_commit {settings : Settings} {path : Path} {content : Text}
    {site after : Site σ}
    (committed : commit settings path content site = .ok after) :
    after.helper = site.helper := by
  unfold commit at committed
  split at committed
  · cases committed
    rfl
  · cases replaced : FileStore.replace site.place path content with
    | error fault =>
        rw [replaced] at committed
        cases committed
    | ok place =>
        rw [replaced] at committed
        cases committed
        rfl

theorem FileCycle.no_helper {checker : Checker} {settings : Settings}
    {entry : FilePlan} {site after : Site σ} {done : FileReport}
    (cycle : FileCycle checker settings entry site done after)
    (alone : site.helper = none) :
    after.helper = none := by
  have stays {old : Text} {outcomes : List (PlannedIssue × Outcome)}
      {buffer : Buffer}
      {moved : Site σ}
      (staged : Staged settings entry site old outcomes buffer moved) :
      moved.helper = none := by
    have same :=
      fixIssues_of_no_helper settings entry.issues (.ofText old) alone
    rw [staged.fixes] at same
    rwa [← same] at alone
  cases cycle with
  | unreadable => exact alone
  | idle staged | rolledBack staged | unwritten staged => exact stays staged
  | finished staged _ _ committed =>
      rw [helper_of_commit committed]
      exact stays staged

variable [MemoryPlace σ]

/-- The cycle of a file changes nothing about another one. -/
theorem FileCycle.spares {checker : Checker} {settings : Settings}
    {entry : FilePlan} {site after : Site σ} {done : FileReport}
    (cycle : FileCycle checker settings entry site done after) {path : Path}
    (apart : entry.file.same path = false) :
    AgreeAt path (files after.place) (files site.place) := by
  cases cycle with
  | unreadable => exact .refl path _
  | idle staged | rolledBack staged | unwritten staged =>
      rw [staged.files_eq]
      exact .refl path _
  | finished staged _ _ committed =>
      rw [← staged.files_eq]
      rcases commit_eq_ok committed with ⟨-, same⟩ | ⟨-, replaced⟩
      · rw [same]
        exact .refl path _
      · exact .of_replace replaced apart

end

section

variable {σ τ : Type} [FileStore σ] [UsageStore σ] [MemoryPlace σ] [FileStore τ]
  [UsageStore τ] [MemoryPlace τ] {leftSettings rightSettings : Settings}
  {left : Site σ} {right : Site τ}

/-- Content is committed on both sites or, for the same reason, on neither. -/
theorem commit_agree (rules : SameRules leftSettings rightSettings)
    {path : Path} (agree : AgreeAt path (files left.place) (files right.place))
    (content : Text) :
    (∃ fault, commit leftSettings path content left = .error fault ∧
      commit rightSettings path content right = .error fault) ∨
    ∃ leftAfter rightAfter,
      commit leftSettings path content left = .ok leftAfter ∧
      commit rightSettings path content right = .ok rightAfter ∧
      AgreeAt path (files leftAfter.place) (files rightAfter.place) := by
  unfold commit
  rw [rules.mode]
  cases rightSettings.mode with
  | dryRun => exact .inr ⟨left, right, rfl, rfl, agree⟩
  | apply =>
      rcases agree.replace content with ⟨fault, leftFails, rightFails⟩ |
        ⟨_, _, leftDone, rightDone, later⟩
      · refine .inl ⟨fault, ?_, ?_⟩
        · simp [MemoryPlace.replace_eq_error_iff.mpr leftFails]
        · simp [MemoryPlace.replace_eq_error_iff.mpr rightFails]
      · obtain ⟨leftPlace, leftReplaced, rfl⟩ :=
          MemoryPlace.replace_of_files leftDone
        obtain ⟨rightPlace, rightReplaced, rfl⟩ :=
          MemoryPlace.replace_of_files rightDone
        simp only [leftReplaced, rightReplaced, map_ok]
        exact .inr ⟨_, _, rfl, rfl, later⟩

/-- Two sites that agree on a file of which no finding is for an assistant go
through the same cycle, and agree on the file afterwards. -/
theorem fixFile_agree (checker : Checker)
    (rules : SameRules leftSettings rightSettings) {entry : FilePlan}
    (unassisted : Unassisted entry.issues left right)
    (agree : AgreeAt entry.file (files left.place) (files right.place)) :
    (fixFile checker leftSettings entry left).1 =
      (fixFile checker rightSettings entry right).1 ∧
      AgreeAt entry.file
        (files (fixFile checker leftSettings entry left).2.place)
        (files (fixFile checker rightSettings entry right).2.place) := by
  have read : FileStore.read left.place entry.file =
      FileStore.read right.place entry.file := by
    rw [MemoryPlace.read_files, MemoryPlace.read_files, MemoryFiles.read,
      MemoryFiles.read, agree.content]
  unfold fixFile
  rw [read]
  cases FileStore.read right.place entry.file with
  | error fault => exact ⟨rfl, agree⟩
  | ok before =>
      obtain ⟨outcomes, fixed, leftFixed, rightFixed⟩ :=
        fixIssues_unassisted rules unassisted (.ofText before)
      simp only [leftFixed, rightFixed]
      split
      · exact ⟨rfl, agree⟩
      · split
        · exact ⟨rfl, agree⟩
        · rcases commit_agree rules agree fixed.render with
            ⟨fault, leftFails, rightFails⟩ |
            ⟨leftAfter, rightAfter, leftDone, rightDone, later⟩
          · simp only [leftFails, rightFails]
            exact ⟨trivial, agree⟩
          · simp only [leftDone, rightDone]
            exact ⟨trivial, later⟩

end

/-! ## All files -/

section

variable {σ : Type} [FileStore σ] [UsageStore σ] [MemoryPlace σ]

theorem fixFiles_spares (checker : Checker) (settings : Settings) {path : Path}
    {entries : List FilePlan}
    (apart : ∀ entry ∈ entries, entry.file.same path = false) (site : Site σ) :
    AgreeAt path (files (fixFiles checker settings entries site).2.2.place)
      (files site.place) := by
  induction entries generalizing site with
  | nil => exact .refl path _
  | cons entry entries induction =>
      rw [fixFiles]
      split
      · exact .refl path _
      · have later := induction (fun other member =>
          apart other (List.mem_cons_of_mem _ member))
          (fixFile checker settings entry site).2
        exact later.trans ((fixFile_cycle checker settings entry site).spares
          (apart entry List.mem_cons_self))

/-- What a run over other files makes of one file: the cycle of its entry from a
site that has the file as it was at the start, and nothing else. -/
structure TakenAlone (checker : Checker) (settings : Settings)
    (entry : FilePlan) (site start after : Site σ)
    (report : FileReport) : Prop where
  before : AgreeAt entry.file (files site.place) (files start.place)
  report : report = (fixFile checker settings entry start).1
  after : AgreeAt entry.file
    (files (fixFile checker settings entry start).2.place)
    (files after.place)
  helper : site.helper = none → start.helper = none

theorem fixFiles_takes_alone (checker : Checker) (settings : Settings)
    {entries : List FilePlan} (ordered : Plan.InOrder entries)
    {entry : FilePlan} (planned : entry ∈ entries) (site : Site σ) :
    ∀ report ∈ (fixFiles checker settings entries site).1,
      report.file.same entry.file = true →
      ∃ start, TakenAlone checker settings entry site start
        (fixFiles checker settings entries site).2.2 report := by
  induction entries generalizing site with
  | nil => cases planned
  | cons first entries induction =>
      have apart := ordered.not_same
      have cycle := fixFile_cycle checker settings first site
      rw [fixFiles]
      split
      · intro report member
        cases member
      · intro report member file
        rcases List.mem_cons.mp planned with here | behind
        · -- The entry is the first one, and no later report is on its file.
          subst here
          rcases List.mem_cons.mp member with same | later
          · refine ⟨site, .refl _ _, same, ?_, id⟩
            apply AgreeAt.symm
            apply fixFiles_spares
            intro other otherIn
            rw [Path.same_comm]
            exact apart other otherIn
          · obtain ⟨other, otherIn, reported⟩ :=
              List.mem_map.mp (file_of_mem_fixFiles later)
            rw [← reported, Path.same_comm, apart other otherIn] at file
            cases file
        · rcases List.mem_cons.mp member with same | later
          · rw [same, cycle.file, apart entry behind] at file
            cases file
          · obtain ⟨start, taken⟩ :=
              induction ordered.tail behind _ report later file
            refine ⟨start, ?_, taken.report, taken.after, fun none => ?_⟩
            · exact (cycle.spares (apart entry behind)).symm.trans taken.before
            · exact taken.helper (cycle.no_helper none)

end

/-- Files are isolated from each other. Take two plans with the same entry, of
which no finding is for an assistant unless neither run has one, and two places
that agree on the content of the entry's file and on whether it may be written.
Where both runs process the file, they report the same of it and leave the same
content, whatever the plans have besides, however the places differ elsewhere
and whatever becomes of the other files. -/
theorem files_are_isolated {σ τ : Type} [FileStore σ] [UsageStore σ]
    [MemoryPlace σ] [FileStore τ] [UsageStore τ] [MemoryPlace τ]
    (leftTable rightTable : RuleTable) (leftFilter rightFilter : RuleFilter)
    (leftOptions rightOptions : PlanOptions) (leftTriage rightTriage : Triage)
    (checker : Checker) {leftSettings rightSettings : Settings}
    (rules : SameRules leftSettings rightSettings) (left : Site σ)
    (right : Site τ) (entry : FilePlan) :
    let leftPlan := Plan.ofTriage leftTable leftFilter leftOptions leftTriage
    let rightPlan :=
      Plan.ofTriage rightTable rightFilter rightOptions rightTriage
    let leftRun := execute checker leftSettings leftPlan left
    let rightRun := execute checker rightSettings rightPlan right
    entry ∈ leftPlan.entries → entry ∈ rightPlan.entries →
    Unassisted entry.issues left right →
    AgreeAt entry.file (files left.place) (files right.place) →
    ∀ report ∈ leftRun.1.files, report.file.same entry.file = true →
    ∀ other ∈ rightRun.1.files, other.file.same entry.file = true →
      report = other ∧
      (files leftRun.2.place).get? entry.file =
        (files rightRun.2.place).get? entry.file := by
  intro leftPlan rightPlan leftRun rightRun leftPlanned rightPlanned
    unassisted agree
    report reported file other otherReported otherFile
  obtain ⟨leftStart, leftTaken⟩ := fixFiles_takes_alone checker leftSettings
    (Plan.ofTriage_inOrder leftTable leftFilter leftOptions leftTriage)
    leftPlanned left
    report reported file
  obtain ⟨rightStart, rightTaken⟩ := fixFiles_takes_alone checker rightSettings
    (Plan.ofTriage_inOrder rightTable rightFilter rightOptions rightTriage)
    rightPlanned right
    other otherReported otherFile
  have started :
      AgreeAt entry.file (files leftStart.place) (files rightStart.place) :=
    (leftTaken.before.symm.trans agree).trans rightTaken.before
  have helpless : Unassisted entry.issues leftStart rightStart :=
    unassisted.imp_right fun ⟨leftNone, rightNone⟩ =>
      ⟨leftTaken.helper leftNone, rightTaken.helper rightNone⟩
  obtain ⟨same, ended⟩ := fixFile_agree checker rules helpless started
  constructor
  · rw [leftTaken.report, rightTaken.report, same]
  · exact ((leftTaken.after.symm.trans ended).trans rightTaken.after).content

/-! One run comes to a file behind one that cannot be read, the other before one
that may not be written. -/

def blanksIn (file : String) : Issue :=
  ⟨⟨file⟩, 1, "W291", "Trailing whitespace", .python⟩

def blanksItem (issue : Issue) : PlannedIssue :=
  ⟨issue, .mechanical .stripTrailingWhitespace, "Trailing whitespace"⟩

def blanksEntry (file : String) : FilePlan :=
  { file := ⟨file⟩, issues := [blanksItem (blanksIn file)] }

def everyBlank : PlanOptions :=
  { onlyRules := [], maxIssues := none }

def blanksPlan (files : List String) : Plan :=
  .ofTriage .standard .everything everyBlank
    (Triage.ofIssues .standard (files.map blanksIn))

def blanksSite (files : List (Path × Text)) (denied : List Path) : Site Bench :=
  { place :=
      { files := { files, writes := [], denied }
        usage :=
          { usage := [], loads := 0, updates := 0, failingLoads := []
            failingUpdates := [] } }
    helper := none
    cancelled := false }

def unreadableBefore : Site Bench :=
  blanksSite [(⟨"b.py"⟩, "x = 1  \n".toList)] []

def deniedBehind : Site Bench :=
  blanksSite [(⟨"b.py"⟩, "x = 1  \n".toList),
    (⟨"c.py"⟩, "y = 2  \n".toList)] [⟨"c.py"⟩]

def blanksSettings : Settings :=
  { mode := .apply, keepPackageFiles := true, contextLines := 5,
    now := .still (.ofMillis 0) }

def blanksChecker : Checker :=
  { maxShrink := 0.5, validate := fun _ _ => .unsupported }

private theorem blanksPlan_entries (files : List String) :
    (blanksPlan files).entries =
      (Plan.groupByFile ((Plan.distinct [] (files.map blanksIn)).map
        (Plan.planned .standard))).map Plan.sortEntry := by
  have selected :
      Plan.selected .standard .everything everyBlank (files.map blanksIn) =
        files.map blanksIn := by
    have rule : (RuleTable.standard.classify "W291" .python).category = .safe :=
      rfl
    have safe : ∀ issue ∈ files.map blanksIn,
        (RuleTable.standard.classify issue.code issue.language).category =
          .safe :=
      List.forall_mem_map.mpr fun _ _ => rule
    have asked : ∀ issue ∈ files.map blanksIn,
        decide (Plan.Allowed .everything everyBlank issue) = true :=
      List.forall_mem_map.mpr fun file _ => rfl
    have kept : (files.map blanksIn).filter (Triage.isOf .standard .safe) =
        files.map blanksIn :=
      List.filter_eq_self.mpr fun issue member =>
        decide_eq_true (safe issue member)
    rw [Plan.selected, kept, List.filter_eq_self.mpr asked]
  rw [blanksPlan, Plan.entries_ofTriage]
  change Plan.uncapped _ _ _ _ = _
  rw [Plan.uncapped, Plan.selected_of_triage, selected]

private theorem blanksPlan_before :
    (blanksPlan ["a.py", "b.py"]).entries =
      [blanksEntry "a.py", blanksEntry "b.py"] := by
  have planned : (Plan.distinct [] (["a.py", "b.py"].map blanksIn)).map
        (Plan.planned .standard) =
      [blanksItem (blanksIn "a.py"), blanksItem (blanksIn "b.py")] := by
    rfl
  rw [blanksPlan_entries, planned]
  cbv

private theorem blanksPlan_behind :
    (blanksPlan ["b.py", "c.py"]).entries =
      [blanksEntry "b.py", blanksEntry "c.py"] := by
  have planned : (Plan.distinct [] (["b.py", "c.py"].map blanksIn)).map
        (Plan.planned .standard) =
      [blanksItem (blanksIn "b.py"), blanksItem (blanksIn "c.py")] := by
    rfl
  rw [blanksPlan_entries, planned]
  cbv

private theorem unreadableBefore_reports :
    (execute blanksChecker blanksSettings (blanksPlan ["a.py", "b.py"])
        unreadableBefore).1.files.map
      (fun report => (report.file, report.error.isSome, report.changed)) =
      [(⟨"a.py"⟩, true, false), (⟨"b.py"⟩, false, true)] := by
  simp only [execute, blanksPlan_before]
  rfl

private theorem deniedBehind_reports :
    (execute blanksChecker blanksSettings
      (blanksPlan ["b.py", "c.py"]) deniedBehind).1.files.map
      (fun report => (report.file, report.error.isSome, report.changed)) =
      [(⟨"b.py"⟩, false, true), (⟨"c.py"⟩, true, false)] := by
  simp only [execute, blanksPlan_behind]
  rfl

theorem shared_file_isolated :
    let left := execute blanksChecker blanksSettings
        (blanksPlan ["a.py", "b.py"]) unreadableBefore
    let right := execute blanksChecker blanksSettings
        (blanksPlan ["b.py", "c.py"]) deniedBehind
    left.1.files.map (fun report =>
        (report.file, report.error.isSome, report.changed)) =
      [(⟨"a.py"⟩, true, false), (⟨"b.py"⟩, false, true)] ∧
    right.1.files.map (fun report =>
        (report.file, report.error.isSome, report.changed)) =
      [(⟨"b.py"⟩, false, true), (⟨"c.py"⟩, true, false)] ∧
    left.1.files[1]? = right.1.files[0]? ∧
    (files left.2.place).get? ⟨"b.py"⟩ =
      (files right.2.place).get? ⟨"b.py"⟩ := by
  have leftPlanned : blanksEntry "b.py" ∈
      (blanksPlan ["a.py", "b.py"]).entries := by
    simp [blanksPlan_before]
  have rightPlanned : blanksEntry "b.py" ∈
      (blanksPlan ["b.py", "c.py"]).entries := by
    simp [blanksPlan_behind]
  have isolated := files_are_isolated _ _ _ _ _ _ _ _ blanksChecker
    (⟨rfl, rfl⟩ : SameRules blanksSettings blanksSettings) unreadableBefore
    deniedBehind
    (blanksEntry "b.py") leftPlanned rightPlanned (.inr ⟨rfl, rfl⟩) ⟨rfl, rfl⟩
  have leftReports := unreadableBefore_reports
  have rightReports := deniedBehind_reports
  refine ⟨leftReports, rightReports, ?_⟩
  obtain ⟨_, _, leftFiles, -, behind⟩ := List.map_eq_cons_iff.mp leftReports
  obtain ⟨leftReport, _, rfl, leftIs, -⟩ := List.map_eq_cons_iff.mp behind
  obtain ⟨rightReport, _, rightFiles, rightIs, -⟩ :=
    List.map_eq_cons_iff.mp rightReports
  have leftFile : leftReport.file = ⟨"b.py"⟩ := congrArg Prod.fst leftIs
  have rightFile : rightReport.file = ⟨"b.py"⟩ := congrArg Prod.fst rightIs
  have leftMember : leftReport ∈ (execute blanksChecker blanksSettings
      (blanksPlan ["a.py", "b.py"]) unreadableBefore).1.files := by
    simp [leftFiles]
  have rightMember : rightReport ∈ (execute blanksChecker blanksSettings
      (blanksPlan ["b.py", "c.py"]) deniedBehind).1.files := by
    simp [rightFiles]
  obtain ⟨same, content⟩ :=
    isolated leftReport leftMember (by rw [leftFile]; rfl) rightReport
    rightMember (by rw [rightFile]; rfl)
  refine ⟨?_, content⟩
  rw [leftFiles, rightFiles, same]
  rfl

end Run

end LintMend
