import Mathlib
import LintMend.Proofs.Fix.Orders
import LintMend.Proofs.Plan.Entries
import LintMend.Proofs.Run.Cycle

/-!
# Files with mechanical fixes only

Where no finding of a file asks for the assistant, its fixes are made in the
buffer alone and the site is not touched. A plan has the findings of a file from
the last line to the first. If each line has one at most, and its fix looks at
this line only, the order is of no other importance than that the numbers are
still right: every line becomes what the fix makes of it on its own.
-/

namespace LintMend

namespace Run

/-- The mechanical fixes of some findings, in order. -/
def steps (items : List PlannedIssue) : List (Issue × Fix) :=
  items.filterMap fun item => item.strategy.mechanicalFix?.map fun fix =>
    (item.issue, fix)

theorem mem_steps {items : List PlannedIssue} {issue : Issue} {fix : Fix} :
    (issue, fix) ∈ steps items ↔
      ∃ item ∈ items, item.issue = issue ∧ item.strategy = .mechanical fix := by
  rw [steps, List.mem_filterMap]
  constructor
  · rintro ⟨item, member, found⟩
    refine ⟨item, member, ?_⟩
    cases strategy : item.strategy with
    | assisted =>
        rw [strategy] at found
        cases found
    | mechanical chosen =>
        rw [strategy] at found
        cases found
        exact ⟨rfl, rfl⟩
  · rintro ⟨item, member, rfl, strategy⟩
    refine ⟨item, member, ?_⟩
    rw [strategy]
    rfl

theorem steps_cons {item : PlannedIssue} {fix : Fix}
    (strategy : item.strategy = .mechanical fix) (items : List PlannedIssue) :
    steps (item :: items) = (item.issue, fix) :: steps items := by
  simp [steps, strategy, Strategy.mechanicalFix?]

theorem perm_steps {items others : List PlannedIssue}
    (same : items.Perm others) :
    (steps items).Perm (steps others) :=
  same.filterMap _

@[simp]
theorem steps_reverse (items : List PlannedIssue) :
    steps items.reverse = (steps items).reverse := by
  rw [steps, List.filterMap_reverse, steps]

/-- The steps are for the lines of the findings. -/
theorem map_steps {items : List PlannedIssue}
    (mechanical : ∀ item ∈ items, ∃ fix, item.strategy = .mechanical fix) :
    (steps items).map (fun step => step.1.line) = items.map fun item =>
      item.issue.line := by
  induction items with
  | nil => rfl
  | cons item items induction =>
      have ⟨⟨fix, strategy⟩, behind⟩ := List.forall_mem_cons.mp mechanical
      rw [steps_cons strategy, List.map_cons, List.map_cons, induction behind]

/-- Findings that are fixed in their line, with no import that is indented. -/
theorem readAlone_steps {items : List PlannedIssue} {buffer : Buffer}
    (mechanical : ∀ item ∈ items, ∃ fix, item.strategy = .mechanical fix ∧
      fix.isLineAddressed = true)
    (unindented : ∀ item ∈ items,
      item.strategy = .mechanical .removeUnusedImport →
      ∀ text, buffer.line? item.issue.line = some text →
      Text.indent text = []) :
    Fix.ReadAlone (steps items) 1 buffer.lines := by
  rintro ⟨issue, fix⟩ member
  obtain ⟨item, planned, rfl, strategy⟩ := mem_steps.mp member
  refine ⟨?_, fun isImport line there => ?_⟩
  · obtain ⟨chosen, other, addressed⟩ := mechanical item planned
    rw [strategy] at other
    cases other
    exact addressed
  · subst isImport
    obtain ⟨start, -, found⟩ := List.mem_zipIdx there
    apply unindented item planned strategy line.text
    exact Buffer.line?_of_getElem? (Nat.ne_of_gt start)
      (List.getElem?_eq_some_iff.mpr ⟨_, found.symm⟩)

variable {σ : Type} [UsageStore σ]

theorem fixIssue_mechanical (settings : Settings) {item : PlannedIssue}
    {fix : Fix} (strategy : item.strategy = .mechanical fix) (buffer : Buffer)
    (site : Site σ) :
    (fixIssue settings item buffer site).2 =
      (Fix.attempt settings.keepPackageFiles buffer (item.issue, fix),
        site) := by
  simp only [fixIssue, strategy, Fix.attempt]
  cases fix.apply settings.keepPackageFiles item.issue buffer <;> rfl

/-- Mechanical fixes are made in the buffer alone. -/
theorem fixIssues_mechanical (settings : Settings) {items : List PlannedIssue}
    (mechanical : ∀ item ∈ items, ∃ fix, item.strategy = .mechanical fix)
    (buffer : Buffer) (site : Site σ) :
    (fixIssues settings items buffer site).2 =
      (Fix.makeAll settings.keepPackageFiles (steps items) buffer, site) := by
  induction items generalizing buffer with
  | nil => rfl
  | cons item items induction =>
      have ⟨⟨fix, strategy⟩, behind⟩ := List.forall_mem_cons.mp mechanical
      simp only [fixIssues, fixIssue_mechanical settings strategy,
        induction behind]
      rw [steps_cons strategy, Fix.makeAll, Fix.makeAll, List.foldl_cons]

/-- Findings of a file on different lines, in the order of its plan. -/
theorem sortEntry_falling {entry : FilePlan}
    (distinct : (entry.issues.map fun item => item.issue.line).Nodup) :
    ((Plan.sortEntry entry).issues.map fun item => item.issue.line).Pairwise
      fun earlier later => later < earlier := by
  have same : (Plan.sortEntry entry).issues.Perm entry.issues :=
    List.mergeSort_perm _ _
  have apart := (same.map fun item => item.issue.line).nodup_iff.mpr distinct
  have sorted := @List.pairwise_mergeSort _ Plan.before
    (fun _ _ _ left right => Plan.before_trans left right) Plan.before_total
    entry.issues
  have ordered : ((Plan.sortEntry entry).issues.map fun item =>
    item.issue.line).Pairwise
      fun earlier later => later ≤ earlier :=
    List.pairwise_map.mpr (sorted.imp Plan.line_le_of_before)
  exact ordered.imp₂ (fun _ _ below different =>
    Nat.lt_of_le_of_ne below different.symm) apart

/-- Let the findings of a file be on different lines, each with a mechanical fix
of its line, and let no import that is to be dropped be indented. The plan has
them in falling order. Made in this order, the fixes leave, for the lines of the
file one after another, what the fix for the line leaves of a buffer that holds
this line only; a line stays if no fix is for it or if its fix is refused. In
rising order, each at a number that follows the lines added and dropped before,
they leave the same. -/
theorem both_orders_fix_line_by_line (settings : Settings) (content : Text)
    (entry : FilePlan) (site : Site σ)
    (distinct : (entry.issues.map fun item => item.issue.line).Nodup)
    (mechanical : ∀ item ∈ entry.issues, ∃ fix,
      item.strategy = .mechanical fix ∧
      fix.isLineAddressed = true)
    (unindented : ∀ item ∈ entry.issues,
      item.strategy = .mechanical .removeUnusedImport →
      ∀ text, (Buffer.ofText content).line? item.issue.line = some text →
        Text.indent text = []) :
    let buffer := Buffer.ofText content
    let falling := (Plan.sortEntry entry).issues
    let lineByLine : Buffer :=
      { buffer with
        lines := Fix.makeByLine settings.keepPackageFiles
          (steps entry.issues) 1 buffer.lines }
    ((falling.map fun item => item.issue.line).Pairwise fun earlier later =>
      later < earlier) ∧
    (∀ line ∈ buffer.lines, line.alone = .ofText line.whole) ∧
    (fixIssues settings falling buffer site).2 = (lineByLine, site) ∧
    Fix.makeMoved settings.keepPackageFiles buffer.lineCount
        (steps falling.reverse) buffer =
      lineByLine := by
  intro buffer falling lineByLine
  have same : falling.Perm entry.issues := List.mergeSort_perm _ _
  have inOrder := sortEntry_falling distinct
  have fixes : ∀ item ∈ entry.issues, ∃ fix, item.strategy = .mechanical fix :=
    fun item member => (mechanical item member).imp fun _ => And.left
  have fixesFalling : ∀ item ∈ falling, ∃ fix,
      item.strategy = .mechanical fix :=
    fun item member => fixes item (same.mem_iff.mp member)
  have below : (steps falling).Pairwise fun earlier later =>
    later.1.line < earlier.1.line := by
    rw [← map_steps fixesFalling] at inOrder
    exact List.pairwise_map.mp inOrder
  have alone : Fix.ReadAlone (steps falling) 1 buffer.lines :=
    fun step member => readAlone_steps mechanical unindented step
      ((perm_steps same).mem_iff.mp member)
  -- each line has one fix at most, so their order does not show in the result
  -- line by line
  have anyOrder {others : List (Issue × Fix)}
      (sameSteps : others.Perm (steps entry.issues)) :
      Fix.makeByLine settings.keepPackageFiles others 1 buffer.lines =
        lineByLine.lines :=
    Fix.makeByLine_of_perm sameSteps (by rwa [map_steps fixes])
  refine ⟨inOrder, fun line => Line.alone_eq_ofText, ?_, ?_⟩
  · rw [fixIssues_mechanical settings fixesFalling,
      Fix.makeAll_eq_makeByLine below alone, anyOrder (perm_steps same)]
  · have rising := List.pairwise_reverse.mpr below
    have aloneRising : Fix.ReadAlone (steps falling).reverse 1 buffer.lines :=
      fun step member => alone step (List.mem_reverse.mp member)
    rw [steps_reverse, Fix.makeMoved_eq_makeByLine rising aloneRising,
      anyOrder ((List.reverse_perm _).trans (perm_steps same))]

/-! The import goes with its line, the second line becomes two, and one finding
is for a line that the file does not have. -/

def mixedContent : Text :=
  "import os\r\nx = 1; y = 2\nz = 3  ".toList

def mixedItem (line : Nat) (code message : String) (fix : Fix) : PlannedIssue :=
  { issue := { file := ⟨"a.py"⟩, line, code, message, language := .python }
    strategy := .mechanical fix
    ruleName := message }

def mixedEntry : FilePlan :=
  { file := ⟨"a.py"⟩
    issues :=
      [mixedItem 2 "E702" "Multiple statements on one line" .splitStatements,
        mixedItem 9 "W291" "Trailing whitespace" .stripTrailingWhitespace,
        mixedItem 1 "F401" "`os` imported but unused" .removeUnusedImport,
        mixedItem 3 "W291" "Trailing whitespace" .stripTrailingWhitespace] }

def mixedSettings : Settings :=
  { mode := .apply, keepPackageFiles := false, contextLines := 5,
    now := .still (.ofMillis 0) }

def mixedSite : Site MemoryUsage :=
  { place :=
      { usage := [], loads := 0, updates := 0, failingLoads := [],
        failingUpdates := [] }
    helper := none
    cancelled := false }

def mixedFixed : List Line :=
  [⟨"x = 1".toList, .lf⟩, ⟨"y = 2".toList, .lf⟩, ⟨"z = 3".toList, .none⟩]

theorem mixedEntry_fixed_in_both_orders :
    (mixedEntry.issues.map fun item => item.issue.line).Nodup ∧
    (fixIssues mixedSettings (Plan.sortEntry mixedEntry).issues
      (.ofText mixedContent) mixedSite).2.1.lines = mixedFixed ∧
    (Fix.makeMoved mixedSettings.keepPackageFiles
      (Buffer.ofText mixedContent).lineCount
      (steps (Plan.sortEntry mixedEntry).issues.reverse)
      (.ofText mixedContent)).lines =
        mixedFixed := by
  have distinct : (mixedEntry.issues.map fun item =>
    item.issue.line).Nodup := by decide
  have mechanical : ∀ item ∈ mixedEntry.issues, ∃ fix,
      item.strategy = .mechanical fix ∧
      fix.isLineAddressed = true := by
    simp [mixedEntry, mixedItem, Fix.isLineAddressed]
  have unindented : ∀ item ∈ mixedEntry.issues,
      item.strategy = .mechanical .removeUnusedImport →
        ∀ text, (Buffer.ofText mixedContent).line? item.issue.line = some text →
          Text.indent text = [] := by
    have first : (Buffer.ofText mixedContent).line? 1 =
        some "import os".toList := by cbv
    intro item member strategy text found
    simp only [mixedEntry, List.mem_cons, List.not_mem_nil, or_false] at member
    rcases member with rfl | rfl | rfl | rfl
    · cases strategy
    · cases strategy
    · have read := first.symm.trans found
      cases read
      rfl
    · cases strategy
  have lineByLine :
      Fix.makeByLine mixedSettings.keepPackageFiles (steps mixedEntry.issues) 1
      (Buffer.ofText mixedContent).lines = mixedFixed := by cbv
  obtain ⟨-, -, made, moved⟩ :=
    both_orders_fix_line_by_line mixedSettings mixedContent mixedEntry
    mixedSite distinct mechanical unindented
  refine ⟨distinct, ?_, ?_⟩
  · rw [made, lineByLine]
  · rw [moved, lineByLine]

end Run

end LintMend
