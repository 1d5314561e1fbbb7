import Mathlib.Data.List.Forall2
import LintMend.Proofs.Fix.Rank
import LintMend.Proofs.Run.Accounting
import LintMend.Proofs.Run.Commit
import LintMend.Proofs.Run.Shifts
import LintMend.Run.Bench

/-!
# Fixes that are counted

A file whose new content is written has fixes that are counted. The other way
round, fixes are counted of a file that stays as it is only if they undo each
other. Mechanical fixes alone never do: each one lowers the rank of the buffer.
So one of the fixes is a suggestion of the assistant.
-/

namespace LintMend.Run

variable {σ : Type} [UsageStore σ]

/-! ## Fixes without suggestions -/

/-- Some fix was made. -/
def AnyFixed (outcomes : List (PlannedIssue × Outcome)) : Prop :=
  ∃ made ∈ outcomes, made.2 = .fixed

/-- No suggestion of the assistant was taken. -/
def Unsuggested (outcomes : List (PlannedIssue × Outcome)) : Prop :=
  ∀ made ∈ outcomes, made.2 = .fixed → made.1.strategy ≠ .assisted

@[simp]
theorem anyFixed_cons {made : PlannedIssue × Outcome}
    {outcomes : List (PlannedIssue × Outcome)} :
    AnyFixed (made :: outcomes) ↔ made.2 = .fixed ∨ AnyFixed outcomes := by
  simp [AnyFixed]

theorem anyFixed_iff {outcomes : List (PlannedIssue × Outcome)} :
    AnyFixed outcomes ↔ (outcomes.all fun (_, outcome) => !outcome.isFixed) =
      false := by
  simp [AnyFixed]

/-- A turn that takes no suggestion does nothing or lowers the rank. -/
theorem Turn.rank_cases {settings : Settings} {turn : Turn σ}
    (whole : turn.buffer.Whole)
    (mechanical : turn.isMade settings = true →
      turn.item.strategy ≠ .assisted) :
    (turn.isMade settings = false ∧ turn.after settings = turn.buffer) ∨
      turn.isMade settings = true ∧
      (turn.after settings).rank < turn.buffer.rank := by
  rcases turn.taken_cases settings with
    idle | ⟨made, ⟨fix, -, applied⟩ | ⟨assisted, -⟩⟩
  · exact .inl idle
  · exact .inr ⟨made, Fix.apply_rank_lt whole applied⟩
  · exact absurd assisted (mechanical made)

/-- As long as no suggestion is taken, the rank is lower behind every fix. -/
theorem fixIssues_rank_cases (settings : Settings) (items : List PlannedIssue)
    {buffer : Buffer} (whole : buffer.Whole) (site : Site σ)
    (unsuggested : Unsuggested (fixIssues settings items buffer site).1) :
    let fixed := fixIssues settings items buffer site
    (¬ AnyFixed fixed.1 ∧ fixed.2.1 = buffer) ∨
      AnyFixed fixed.1 ∧ fixed.2.1.rank < buffer.rank := by
  -- only of a whole buffer is a trimmed tail known to lower the rank
  induction items generalizing buffer site with
  | nil => exact .inl ⟨by simp [AnyFixed, fixIssues], rfl⟩
  | cons item items induction =>
      intro fixed
      let turn : Turn σ := ⟨item, buffer, site⟩
      obtain ⟨first, rest⟩ := List.forall_mem_cons.mp unsuggested
      have outcomes : AnyFixed fixed.1 ↔ (turn.taken settings).1 = .fixed ∨
          AnyFixed (fixIssues settings items (turn.after settings)
              (turn.taken settings).2.2).1 :=
        anyFixed_cons
      have ended : fixed.2.1 =
          (fixIssues settings items (turn.after settings)
            (turn.taken settings).2.2).2.1 := rfl
      rw [outcomes, ended, ← isFixed_iff]
      rcases turn.rank_cases whole fun made => first (isFixed_iff.mp made) with
        ⟨idle, same⟩ | ⟨made, lower⟩
      · have unmade : ¬ (turn.taken settings).1.isFixed = true :=
          Bool.eq_false_iff.mp idle
        rcases induction (turn.after_whole whole)
          (turn.taken settings).2.2 rest with
            ⟨none, kept⟩ | ⟨some, lower⟩
        · exact .inl ⟨not_or.mpr ⟨unmade, none⟩, kept.trans same⟩
        · exact .inr ⟨.inr some, lower.trans_eq (congrArg Buffer.rank same)⟩
      · refine .inr ⟨.inl made, ?_⟩
        rcases induction (turn.after_whole whole)
          (turn.taken settings).2.2 rest with
            ⟨-, kept⟩ | ⟨-, further⟩
        · exact (congrArg Buffer.rank kept).trans_lt lower
        · exact further.trans lower

variable [FileStore σ] {checker : Checker} {settings : Settings}
  {entry : FilePlan} {site moved : Site σ} {old : Text}
  {outcomes : List (PlannedIssue × Outcome)} {buffer : Buffer}

/-- Fixes of which none is a suggestion do not lead back to what was read. -/
theorem Staged.render_eq_iff
    (staged : Staged settings entry site old outcomes buffer moved)
    (unsuggested : Unsuggested outcomes) :
    buffer.render = old ↔ ¬ AnyFixed outcomes := by
  have whole := Buffer.ofText_whole old
  have ended := fixIssues_whole settings entry.issues whole site
  have ranks := fixIssues_rank_cases settings entry.issues whole site
  rw [staged.fixes] at ranks ended
  rcases ranks unsuggested with ⟨none, same⟩ | ⟨some, lower⟩
  · refine iff_of_true ?_ none
    have same : buffer = .ofText old := same
    rw [same, Buffer.render_ofText]
  · exact iff_of_false (Buffer.render_ne_of_rank_lt ended lower)
      (not_not_intro some)

/-- Where nothing is fixed, the text is the one that was read. -/
theorem Staged.effective_iff
    (staged : Staged settings entry site old outcomes buffer moved) :
    Effective old outcomes buffer ↔ buffer.render ≠ old := by
  refine ⟨Effective.altered, fun altered => ⟨anyFixed_iff.mp ?_, altered⟩⟩
  by_contra none
  have unsuggested : Unsuggested outcomes :=
    fun made member fixed => absurd ⟨made, member, fixed⟩ none
  exact altered ((staged.render_eq_iff unsuggested).mpr none)

/-! ## Reports -/

/-- The file gets new content, or would get it but for the mode. -/
def Renewed (checker : Checker) (settings : Settings) (entry : FilePlan)
    (site : Site σ) : Prop :=
  ∃ old outcomes buffer moved after,
    Staged settings entry site old outcomes buffer moved ∧
    buffer.render ≠ old ∧
    checker.check old buffer.render entry.file (profileOf outcomes) = none ∧
    commit settings entry.file buffer.render moved = .ok after

/-- Fixes were made, and the content is what it was. -/
def Undone (settings : Settings) (entry : FilePlan) (site : Site σ) : Prop :=
  ∃ old outcomes buffer moved,
    Staged settings entry site old outcomes buffer moved ∧
    AnyFixed outcomes ∧ buffer.render = old

theorem Staged.renewed_iff
    (staged : Staged settings entry site old outcomes buffer moved) :
    Renewed checker settings entry site ↔ buffer.render ≠ old ∧
      checker.check old buffer.render entry.file (profileOf outcomes) = none ∧
      ∃ after, commit settings entry.file buffer.render moved = .ok after := by
  constructor
  · rintro ⟨_, _, _, _, after, other, altered, verdict, written⟩
    obtain ⟨rfl, rfl, rfl, rfl⟩ := staged.unique other
    exact ⟨altered, verdict, after, written⟩
  · rintro ⟨altered, verdict, after, written⟩
    exact ⟨old, outcomes, buffer, moved, after, staged, altered,
      verdict, written⟩

theorem Staged.undone_iff
    (staged : Staged settings entry site old outcomes buffer moved) :
    Undone settings entry site ↔ AnyFixed outcomes ∧ buffer.render = old := by
  constructor
  · rintro ⟨_, _, _, _, other, fixed, same⟩
    obtain ⟨rfl, rfl, rfl, rfl⟩ := staged.unique other
    exact ⟨fixed, same⟩
  · rintro ⟨fixed, same⟩
    exact ⟨old, outcomes, buffer, moved, staged, fixed, same⟩

/-- What the report on a file that was taken up at the site says of fixes. -/
structure Honest (checker : Checker) (settings : Settings) (entry : FilePlan)
    (site : Site σ) (report : FileReport) : Prop where
  changed : report.changed = true ↔ Renewed checker settings entry site
  counted : 0 < report.fixed ↔ ∃ made ∈ report.outcomes, made.outcome = .fixed
  /-- Fixes are counted of new content, and of content that they led back to. -/
  fixed : 0 < report.fixed ↔ report.changed = true ∨ Undone settings entry site
  undone : Undone settings entry site → report.changed = false
  suggested : Undone settings entry site → ∃ item ∈ entry.issues,
    item.strategy = .assisted ∧
    ∃ made ∈ report.outcomes, made.issue = item.issue ∧ made.outcome = .fixed

theorem fixed_pos_iff (entry : FilePlan)
    (outcomes : List (PlannedIssue × Outcome)) (changed : Bool) :
    0 < (report entry outcomes changed).fixed ↔ AnyFixed outcomes := by
  rw [report, List.countP_pos_iff]
  simp [AnyFixed]

theorem counted_report (entry : FilePlan)
    (outcomes : List (PlannedIssue × Outcome)) (changed : Bool) :
    0 < (report entry outcomes changed).fixed ↔
      ∃ made ∈ (report entry outcomes changed).outcomes,
      made.outcome = .fixed := by
  rw [report_fixed, FileReport.count, List.countP_pos_iff]
  simp

/-- The fixes that undid each other are not all mechanical. -/
theorem Staged.exists_suggested
    (staged : Staged settings entry site old outcomes buffer moved)
    (fixed : AnyFixed outcomes) (same : buffer.render = old) (changed : Bool) :
    ∃ item ∈ entry.issues, item.strategy = .assisted ∧
      ∃ made ∈ (report entry outcomes changed).outcomes,
        made.issue = item.issue ∧ made.outcome = .fixed := by
  have suggested : ¬ Unsuggested outcomes :=
    fun unsuggested => (staged.render_eq_iff unsuggested).mp same fixed
  simp only [Unsuggested, not_forall, not_not] at suggested
  obtain ⟨made, member, made', assisted⟩ := suggested
  refine ⟨made.1, ?_, assisted, _, List.mem_map_of_mem member, rfl, made'⟩
  rw [← staged.items]
  exact List.mem_map_of_mem member

/-- Of a file that is given up nothing is counted. -/
theorem Balanced.honest {report : FileReport}
    (balanced : Balanced checker settings entry site report)
    (failed : report.error ≠ none)
    (renewed : ¬ Renewed checker settings entry site)
    (undone : ¬ Undone settings entry site) :
    Honest checker settings entry site report := by
  have nothing := balanced.failed failed
  have zero : report.fixed = 0 := by
    rw [balanced.fixed, FileReport.count, List.countP_eq_zero]
    exact fun made member fixed => nothing made member (isFixed_iff.mp fixed)
  have kept : ¬ report.changed = true :=
    fun changed => failed (balanced.changed changed).2
  exact
    { changed := iff_of_false kept renewed
      counted := iff_of_false (by simp [zero]) (by simpa using nothing)
      fixed := iff_of_false (by simp [zero]) (not_or.mpr ⟨kept, undone⟩)
      undone := fun was => absurd was undone
      suggested := fun was => absurd was undone }

theorem FileCycle.honest {after : Site σ} {done : FileReport}
    (cycle : FileCycle checker settings entry site done after) :
    Honest checker settings entry site done := by
  have balanced := cycle.balanced
  cases cycle with
  | unreadable failed =>
      apply balanced.honest (Option.some_ne_none _)
      · rintro ⟨_, _, _, _, _, staged, -⟩
        cases failed.symm.trans staged.read
      · rintro ⟨_, _, _, _, staged, -⟩
        cases failed.symm.trans staged.read
  | idle staged idle =>
      rw [staged.effective_iff, not_not] at idle
      have renewed : ¬ Renewed checker settings entry site :=
        fun renewed => (staged.renewed_iff.mp renewed).1 idle
      refine
        { changed := iff_of_false Bool.false_ne_true renewed
          counted := counted_report entry _ false
          fixed := ?_
          undone := fun _ => rfl
          suggested := fun undone =>
            staged.exists_suggested (staged.undone_iff.mp undone).1 idle false }
      rw [fixed_pos_iff, staged.undone_iff]
      simp [report, idle]
  | rolledBack staged effective verdict =>
      apply balanced.honest (Option.some_ne_none _)
      · intro renewed
        cases verdict.symm.trans (staged.renewed_iff.mp renewed).2.1
      · exact fun undone => effective.altered (staged.undone_iff.mp undone).2
  | unwritten staged effective _ failed =>
      apply balanced.honest (Option.some_ne_none _)
      · intro renewed
        obtain ⟨-, -, after, written⟩ := staged.renewed_iff.mp renewed
        cases failed.symm.trans written
      · exact fun undone => effective.altered (staged.undone_iff.mp undone).2
  | finished staged effective verdict written =>
      have altered := staged.effective_iff.mp effective
      have undone : ¬ Undone settings entry site :=
        fun undone => altered (staged.undone_iff.mp undone).2
      exact
        { changed :=
            iff_of_true rfl
              (staged.renewed_iff.mpr ⟨altered, verdict, _, written⟩)
          counted := counted_report entry _ true
          fixed := iff_of_true (effective.fixed_pos true) (.inl rfl)
          undone := fun was => absurd was undone
          suggested := fun was => absurd was undone }

theorem fixFiles_honest (checker : Checker) (settings : Settings)
    (entries : List FilePlan) (site : Site σ) :
    List.Forall₂ (fun visit report =>
      Honest checker settings visit.1 visit.2 report)
      (visits checker settings entries site)
      (fixFiles checker settings entries site).1 :=
  fixFiles_visits (fun cycle => cycle.honest) entries site

/-- The reports of a run count fixes of the files that get new content, and of
those whose fixes lead back to the old one. The latter have a suggestion of the
assistant among their fixes. -/
theorem execute_counts_fixes (checker : Checker) (settings : Settings)
    (plan : Plan) (site : Site σ) :
    List.Forall₂ (fun visit report =>
      Honest checker settings visit.1 visit.2 report)
      (visits checker settings plan.entries site)
      (execute checker settings plan site).1.files :=
  fixFiles_honest checker settings plan.entries site

/-! A suggestion that is the old line with a blank behind it, and a fix that
takes the blank away. -/

def headerText : Text :=
  "if x: y = 1\n".toList

def headerItem (code ruleName : String) (strategy : Strategy) : PlannedIssue :=
  { issue :=
    { file := ⟨"a.py"⟩, line := 1, code, message := ruleName,
      language := .python }
    strategy
    ruleName }

def headerEntry : FilePlan :=
  { file := ⟨"a.py"⟩
    issues :=
      [headerItem "E701" "Multiple statements on one line (colon)" .assisted,
        headerItem "W291" "Trailing whitespace"
          (.mechanical .stripTrailingWhitespace)] }

def headerPlan : Plan :=
  { entries := [headerEntry]
    summary :=
      { willFix := 2, needsReview := 0, suggestions := 0, filteredOut := 0,
        overLimit := 0
        fixesByRule := .ofList ["E701", "W291"] } }

def headerSettings : Settings :=
  { mode := .apply, keepPackageFiles := true, contextLines := 5,
    now := .still (.ofMillis 0) }

def headerHelper : Helper :=
  { assistant :=
      { provider := "groq", answers := [.clean "if x: y = 1 ".toList],
        cancelOn := none
        prompts := [] }
    tracker :=
      { limit := 1, window := 3600000000000, fallback := none,
        warnings := [] } }

def headerSite : Site Bench :=
  { place :=
      { files :=
        { files := [(⟨"a.py"⟩, headerText)], writes := [], denied := [] }
        usage :=
          { usage := [], loads := 0, updates := 0, failingLoads := [],
            failingUpdates := [] } }
    helper := some headerHelper
    cancelled := false }

def headerChecker : Checker :=
  { maxShrink := 0.5, validate := fun _ _ => .unsupported }

private theorem headerEntry_staged :
    ∃ moved, Staged headerSettings headerEntry headerSite headerText
      (headerEntry.issues.map (·, .fixed)) (.ofText headerText) moved :=
  ⟨(fixIssues headerSettings headerEntry.issues
      (.ofText headerText) headerSite).2.2, rfl,
    Prod.ext rfl (Prod.ext rfl rfl)⟩

/-- Both fixes are counted, and the file stays as it is. -/
theorem headerEntry_led_back :
    Undone headerSettings headerEntry headerSite ∧
      ∃ report, (execute headerChecker headerSettings headerPlan
          headerSite).1.files = [report] ∧
        0 < report.fixed ∧ report.changed = false := by
  obtain ⟨moved, staged⟩ := headerEntry_staged
  have undone : Undone headerSettings headerEntry headerSite :=
    ⟨_, _, _, moved, staged, by
      simp [AnyFixed, headerEntry], Buffer.render_ofText _⟩
  have honest :=
    execute_counts_fixes headerChecker headerSettings headerPlan headerSite
  have visited :
      visits headerChecker headerSettings headerPlan.entries headerSite =
        [(headerEntry, headerSite)] := rfl
  rw [visited] at honest
  obtain ⟨report, _, honest, rest, reports⟩ :=
    List.forall₂_cons_left_iff.mp honest
  cases rest
  exact ⟨undone, report, reports, honest.fixed.mpr (.inr undone),
    honest.undone undone⟩

end LintMend.Run
