import Mathlib
import LintMend.Proofs.Fix.Edits
import LintMend.Proofs.Plan.Entries
import LintMend.Run.Execute

/-!
# Lines without findings

The fixes of a file are edits of one buffer, made from the last line to the
first. Lines without findings go through them unchanged, unless a fix removes
its line and another fix of the same line follows: that one is made to the line
which has moved up.
-/

namespace LintMend

/-- A finding that is fixed mechanically, by a fix of its line. -/
def PlannedIssue.IsAddressed (item : PlannedIssue) : Prop :=
  ∃ fix, item.strategy = .mechanical fix ∧ fix.isLineAddressed = true

/-- The edit that has made a buffer into another one, read off the two. -/
def Edit.between (item : PlannedIssue) (buffer fixed : Buffer) : Edit where
  item
  lines := (fixed.lines.drop (item.issue.line - 1)).take
    (fixed.lineCount + 1 - buffer.lineCount)

theorem Buffer.Spliced.between {item : PlannedIssue} {buffer fixed : Buffer}
    {texts : List Text} (spliced : buffer.Spliced item.issue.line texts fixed) :
    (Edit.between item buffer fixed).lines.length = texts.length ∧
      fixed.lines =
        splice item.issue.line (Edit.between item buffer fixed).lines
          buffer.lines := by
  obtain ⟨start, inside, line, -, result⟩ := spliced
  unfold Buffer.lineCount at inside
  have lines : fixed.lines = buffer.lines.take (item.issue.line - 1) ++
      texts.map (fun text => ⟨text, line.ending⟩) ++
      buffer.lines.drop item.issue.line := by
    rw [result, splice_of_inside start inside]
  have front : (buffer.lines.take (item.issue.line - 1)).length =
      item.issue.line - 1 := by
    rw [List.length_take]
    omega
  have written : (Edit.between item buffer fixed).lines =
      texts.map fun text => ⟨text, line.ending⟩ := by
    have many : fixed.lineCount + 1 - buffer.lineCount = texts.length := by
      simp only [Buffer.lineCount, lines, List.length_append, List.length_map,
        List.length_drop, front]
      omega
    simp only [Edit.between, many]
    rw [lines, List.append_assoc, List.drop_append_of_le_length (by omega),
      List.drop_of_length_le (by omega), List.nil_append,
      List.take_left' (List.length_map _)]
  rw [written]
  exact ⟨List.length_map _, by rw [result]⟩

namespace Run

variable {σ : Type} [UsageStore σ] {settings : Settings}

def edits (settings : Settings) :
    List PlannedIssue → Buffer → Site σ → List Edit
  | [], _, _ => []
  | item :: items, buffer, site =>
    let taken := fixIssue settings item buffer site
    let later := edits settings items taken.2.1 taken.2.2
    if taken.1.isFixed then .between item buffer taken.2.1 :: later else later

private theorem fixIssue_addressed (settings : Settings) {item : PlannedIssue}
    (addressed : item.IsAddressed) (buffer : Buffer) (site : Site σ) :
    let taken := fixIssue settings item buffer site
    (taken.1.isFixed = false ∧ taken.2.1 = buffer) ∨
      (taken.1.isFixed = true ∧ ∃ fix texts, item.strategy = .mechanical fix ∧
        (texts = [] → fix.mayRemove = true) ∧
        buffer.Spliced item.issue.line texts taken.2.1) := by
  obtain ⟨fix, mechanical, isAddressed⟩ := addressed
  simp only [fixIssue, mechanical]
  cases applied : fix.apply settings.keepPackageFiles item.issue buffer with
  | error refusal => exact .inl ⟨rfl, rfl⟩
  | ok fixed =>
      obtain ⟨texts, removes, spliced⟩ := Fix.apply_spliced isAddressed applied
      exact .inr ⟨rfl, fix, texts, rfl, removes, spliced⟩

/-- The buffer at the end is the file with the edits made to it. -/
theorem fixIssues_lines {items : List PlannedIssue}
    (addressed : ∀ item ∈ items, item.IsAddressed) (buffer : Buffer)
    (site : Site σ) :
    (fixIssues settings items buffer site).2.1.lines =
      Edit.replay id (edits settings items buffer site) buffer.lines := by
  induction items generalizing buffer site with
  | nil => rfl
  | cons item items induction =>
      have reached := induction
        (fun other member => addressed other (List.mem_cons_of_mem _ member))
        (fixIssue settings item buffer site).2.1
        (fixIssue settings item buffer site).2.2
      apply reached.trans
      rw [edits]
      rcases fixIssue_addressed settings
        (addressed item List.mem_cons_self) buffer site with
          ⟨refused, same⟩ | ⟨made, fix, texts, -, -, spliced⟩
      · simp [refused, same]
      · simp only [made, if_true, Edit.replay_cons, List.map_id]
        rw [spliced.between.2]
        rfl

theorem edits_sublist (settings : Settings) (items : List PlannedIssue)
    (buffer : Buffer) (site : Site σ) :
    ((edits settings items buffer site).map Edit.item).Sublist items := by
  induction items generalizing buffer site with
  | nil => exact List.Sublist.refl _
  | cons item items induction =>
      rw [edits]
      split
      · exact (induction _ _).cons_cons item
      · exact (induction _ _).cons item

/-- An edit that leaves nothing in the place of its line was made by a fix that
may. -/
theorem edits_sound {items : List PlannedIssue}
    (addressed : ∀ item ∈ items, item.IsAddressed) {buffer : Buffer}
    {site : Site σ} {edit : Edit}
    (member : edit ∈ edits settings items buffer site) :
    edit.number ≠ 0 ∧ ∃ fix, edit.item.strategy = .mechanical fix ∧
      (edit.lines = [] → fix.mayRemove = true) := by
  induction items generalizing buffer site with
  | nil => cases member
  | cons item items induction =>
      have rest := fun other member =>
        addressed other (List.mem_cons_of_mem _ member)
      rw [edits] at member
      rcases fixIssue_addressed settings
        (addressed item List.mem_cons_self) buffer site with
          ⟨refused, same⟩ | ⟨made, fix, texts, mechanical, removes, spliced⟩
      · simp only [refused, Bool.false_eq_true, if_false] at member
        exact induction rest member
      · simp only [made, if_true, List.mem_cons] at member
        rcases member with rfl | later
        · refine ⟨spliced.start, fix, mechanical, fun none => removes ?_⟩
          rw [← List.length_eq_zero_iff, ← spliced.between.1, none]
          rfl
        · exact induction rest later

theorem edits_descending (settings : Settings) {entry : FilePlan}
    (arranged : entry.Arranged) (buffer : Buffer) (site : Site σ) :
    Edit.Descending (edits settings entry.issues buffer site) := by
  have sorted :=
    arranged.sorted.sublist (edits_sublist settings entry.issues buffer site)
  exact (List.pairwise_map.mp sorted).imp Plan.line_le_of_before

/-- What becomes of the lines without findings. -/
structure Carried (items : List PlannedIssue) (original fixed : Buffer)
    (made : List Edit) : Prop where
  lines : (Edit.trace made original.lines).map Traced.line = fixed.lines
  /-- A line that has its number still is the line of that number. -/
  unchanged : ∀ traced ∈ Edit.trace made original.lines, ∀ number,
    traced.origin = some number → original.lines[number - 1]? = some traced.line
  /-- A line is lost exactly if an edit removes its own line and the next one,
  of the same line, hits the line that has moved up. -/
  lost : ∀ number, 1 ≤ number ∧ number ≤ original.lineCount →
    number ∉ items.map (·.issue.line) →
    (some number ∉ (Edit.trace made original.lines).map Traced.origin ↔
      Edit.Overruns made original.lineCount number)
  /-- Two kinds of fixes can remove their lines. -/
  removal : ∀ edit ∈ made, ∃ fix, edit.item.strategy = .mechanical fix ∧
    (edit.lines = [] → fix.mayRemove = true)
  /-- If no line is lost, all lines without findings are there, in their
  order. -/
  kept : (∀ number ∉ items.map (·.issue.line),
      ¬ Edit.Overruns made original.lineCount number) →
    (Edit.linesBut (items.map (·.issue.line)) original.lines).Sublist
      fixed.lines

/-- Fixes of single lines leave every line without a finding as it is,
except where a fix removes its line and another fix of that line follows. -/
theorem lines_carried_iff_not_overrun {table : RuleTable} {filter : RuleFilter}
    {options : PlanOptions} {triage : Triage} {entry : FilePlan}
    (planned : entry ∈ (Plan.ofTriage table filter options triage).entries)
    (addressed : ∀ item ∈ entry.issues, item.IsAddressed) (settings : Settings)
    (content : Text) (site : Site σ) :
    Carried entry.issues (.ofText content)
      (fixIssues settings entry.issues (.ofText content) site).2.1
      (edits settings entry.issues (.ofText content) site) := by
  have descending := edits_descending settings (Plan.ofTriage_arranged planned)
    (.ofText content) site
  have found : ∀ edit ∈ edits settings entry.issues (.ofText content) site,
      edit.number ∈ entry.issues.map (·.issue.line) := by
    intro edit member
    have belongs :=
      (edits_sublist settings entry.issues (.ofText content) site).subset
      (List.mem_map_of_mem member)
    exact List.mem_map_of_mem belongs
  have lines : (Edit.trace (edits settings entry.issues (.ofText content) site)
        (Buffer.ofText content).lines).map Traced.line =
      (fixIssues settings entry.issues (.ofText content) site).2.1.lines := by
    rw [Edit.map_line_trace, fixIssues_lines addressed]
  have lost : ∀ number, 1 ≤ number ∧
      number ≤ (Buffer.ofText content).lineCount →
      number ∉ entry.issues.map (·.issue.line) →
      (some number ∉
        (Edit.trace (edits settings entry.issues (.ofText content) site)
          (Buffer.ofText content).lines).map Traced.origin ↔
        Edit.Overruns (edits settings entry.issues (.ofText content) site)
          (Buffer.ofText content).lineCount number) := by
    intro number inside other
    rw [Edit.map_origin_trace]
    apply Edit.lost_iff_overruns descending
    · exact fun edit member => (edits_sound addressed member).1
    · exact inside
    · intro edit member same
      exact other (same ▸ found edit member)
  refine
    { lines
      unchanged := fun _ => Edit.line_of_mem_trace
      lost
      removal := fun edit member => (edits_sound addressed member).2
      kept := ?_ }
  intro safe
  rw [← lines]
  apply Edit.linesBut_sublist
  intro number inside other
  by_contra missing
  exact safe number other ((lost number inside other).mp missing)

/-- An unused import with blanks behind it. Another line has blanks at its end
too. -/
def tieContent : Text :=
  "import os  \nvalue = 1  \nother = 2\n".toList

def tieIssues : List Issue :=
  [⟨⟨"a.py"⟩, 1, "F401", "`os` imported but unused", .python⟩,
    ⟨⟨"a.py"⟩, 1, "W291", "Trailing whitespace", .python⟩]

def tiePlan : Plan :=
  .ofTriage .empty .everything { onlyRules := [], maxIssues := none }
    { safe := tieIssues.map fun issue =>
      ⟨issue, .safe "no judgement needed"⟩, risky := []
      suggest := [] }

def tieSettings : Settings :=
  { mode := .apply, keepPackageFiles := false, contextLines := 5
    now := .still (.ofMillis 0) }

def tieSite : Site MemoryUsage :=
  { place :=
      { usage := [], loads := 0, updates := 0, failingLoads := [],
        failingUpdates := [] }
    helper := none
    cancelled := false }

def tieEntry : FilePlan :=
  { file := ⟨"a.py"⟩, issues := tieIssues.map (Plan.planned .empty) }

private theorem tieEntry_planned : tieEntry ∈ tiePlan.entries := by
  have distinct : Plan.distinct [] tieIssues = tieIssues := by rfl
  have entries : tiePlan.entries = [tieEntry] := by
    change ((Plan.groupByFile
        ((Plan.distinct [] tieIssues).map (Plan.planned .empty))).map
      Plan.sortEntry) = _
    rw [distinct]
    cbv
  rw [entries]
  exact List.mem_cons_self

private theorem tieEntry_addressed :
    ∀ item ∈ tieEntry.issues, item.IsAddressed := by
  simp only [tieEntry, tieIssues, List.map_cons, List.map_nil, List.mem_cons,
    List.not_mem_nil, or_false]
  rintro item (rfl | rfl)
  · exact ⟨.removeUnusedImport, by cbv, rfl⟩
  · exact ⟨.stripTrailingWhitespace, by cbv, rfl⟩

/-- The second line has no finding, and still it loses its blanks. -/
theorem tieEntry_overruns_second_line :
    (fixIssues tieSettings tieEntry.issues
      (.ofText tieContent) tieSite).2.1.lines =
        [⟨"value = 1".toList, .lf⟩, ⟨"other = 2".toList, .lf⟩] ∧
      ∃ number ∉ tieEntry.issues.map (·.issue.line), Edit.Overruns
        (edits tieSettings tieEntry.issues (.ofText tieContent) tieSite)
        (Buffer.ofText tieContent).lineCount number := by
  have carried :=
    lines_carried_iff_not_overrun tieEntry_planned tieEntry_addressed
    tieSettings tieContent tieSite
  have fixed : (fixIssues tieSettings tieEntry.issues (.ofText tieContent)
      tieSite).2.1.lines = [⟨"value = 1".toList, .lf⟩,
        ⟨"other = 2".toList, .lf⟩] := by cbv
  have others : Edit.linesBut (tieEntry.issues.map (·.issue.line))
      (Buffer.ofText tieContent).lines =
        [⟨"value = 1  ".toList, .lf⟩, ⟨"other = 2".toList, .lf⟩] := by cbv
  refine ⟨fixed, ?_⟩
  by_contra safe
  have kept := carried.kept fun number other overruns =>
    safe ⟨number, other, overruns⟩
  rw [fixed, others] at kept
  exact absurd kept (by decide)

end Run

end LintMend
