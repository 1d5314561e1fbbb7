import Mathlib.Tactic.ByContra
import LintMend.Run.Execute

/-!
# The cycle of one file

Fixing a file ends in one of five ways. `FileCycle` tells for each of them what
was read, what the fixes came to, what is reported and what becomes of the site.
Every file goes one of these ways, so whatever holds of the five holds of a run.
-/

namespace LintMend.Run

variable {σ : Type} [FileStore σ] [UsageStore σ]

/-- The findings of a file that can be read are fixed in a buffer. -/
structure Staged (settings : Settings) (entry : FilePlan) (site : Site σ)
    (old : Text) (outcomes : List (PlannedIssue × Outcome)) (buffer : Buffer)
    (moved : Site σ) :
    Prop where
  read : FileStore.read site.place entry.file = .ok old
  fixes : fixIssues settings entry.issues (.ofText old) site =
    (outcomes, buffer, moved)

/-- Something was fixed, and the text is another one. -/
structure Effective (old : Text) (outcomes : List (PlannedIssue × Outcome))
    (buffer : Buffer) : Prop where
  fixed : (outcomes.all fun (_, outcome) => !outcome.isFixed) = false
  altered : buffer.render ≠ old

/-- The ways that fixing a file can end. -/
inductive FileCycle (checker : Checker) (settings : Settings) (entry : FilePlan)
    (site : Site σ) : FileReport → Site σ → Prop where
  | unreadable {fault : FileFault} :
      FileStore.read site.place entry.file = .error fault →
      FileCycle checker settings entry site (unreadable entry fault) site
  | idle {old : Text} {outcomes : List (PlannedIssue × Outcome)}
      {buffer : Buffer}
      {moved : Site σ} :
      Staged settings entry site old outcomes buffer moved →
      ¬ Effective old outcomes buffer →
      FileCycle checker settings entry site (report entry outcomes false) moved
  | rolledBack {old : Text} {outcomes : List (PlannedIssue × Outcome)}
      {buffer : Buffer}
      {moved : Site σ} {regression : Regression} :
      Staged settings entry site old outcomes buffer moved →
      Effective old outcomes buffer →
      checker.check old buffer.render entry.file (profileOf outcomes) =
        some regression →
      FileCycle checker settings entry site
        (giveUp entry outcomes (.rolledBack regression.message) true
          regression.message) moved
  | unwritten {old : Text} {outcomes : List (PlannedIssue × Outcome)}
      {buffer : Buffer}
      {moved : Site σ} {fault : FileFault} :
      Staged settings entry site old outcomes buffer moved →
      Effective old outcomes buffer →
      checker.check old buffer.render entry.file (profileOf outcomes) = none →
      commit settings entry.file buffer.render moved = .error fault →
      FileCycle checker settings entry site
        (giveUp entry outcomes
          (.skipped ("write failed: " ++ fault.message)) false
          ("write failed: " ++ fault.message)) moved
  | finished {old : Text} {outcomes : List (PlannedIssue × Outcome)}
      {buffer : Buffer}
      {moved after : Site σ} :
      Staged settings entry site old outcomes buffer moved →
      Effective old outcomes buffer →
      checker.check old buffer.render entry.file (profileOf outcomes) = none →
      commit settings entry.file buffer.render moved = .ok after →
      FileCycle checker settings entry site (report entry outcomes true) after

private theorem not_effective_iff {old : Text}
    {outcomes : List (PlannedIssue × Outcome)} {buffer : Buffer} :
    ¬ Effective old outcomes buffer ↔
      ((outcomes.all fun (_, outcome) => !outcome.isFixed) ||
          buffer.render == old) =
        true := by
  rw [Bool.or_eq_true, beq_iff_eq]
  constructor
  · intro idle
    by_cases altered : buffer.render = old
    · exact .inr altered
    · left
      rw [← Bool.not_eq_false]
      exact fun fixed => idle ⟨fixed, altered⟩
  · intro idle effective
    rcases idle with nothing | same
    · rw [effective.fixed] at nothing
      cases nothing
    · exact effective.altered same

omit [FileStore σ] in
/-- Every finding has its outcome, in order. -/
@[simp]
theorem fixIssues_items (settings : Settings) (items : List PlannedIssue)
    (buffer : Buffer) (site : Site σ) :
    (fixIssues settings items buffer site).1.map Prod.fst = items := by
  induction items generalizing buffer site with
  | nil => rfl
  | cons item items induction =>
      rw [fixIssues]
      simp [induction]

theorem Staged.items {settings : Settings} {entry : FilePlan}
    {site moved : Site σ} {old : Text}
    {outcomes : List (PlannedIssue × Outcome)} {buffer : Buffer}
    (staged : Staged settings entry site old outcomes buffer moved) :
    outcomes.map Prod.fst = entry.issues := by
  have items := fixIssues_items settings entry.issues (.ofText old) site
  rwa [staged.fixes] at items

theorem fixFile_cycle (checker : Checker) (settings : Settings)
    (entry : FilePlan) (site : Site σ) :
    FileCycle checker settings entry site
      (fixFile checker settings entry site).1
      (fixFile checker settings entry site).2 := by
  unfold fixFile
  cases read : FileStore.read site.place entry.file with
  | error fault => exact .unreadable read
  | ok old =>
      rcases fixes : fixIssues settings entry.issues (.ofText old) site with
        ⟨outcomes, buffer, moved⟩
      have staged : Staged settings entry site old outcomes buffer moved :=
        ⟨read, fixes⟩
      simp only [fixes]
      split
      · next idle => exact .idle staged (not_effective_iff.mpr idle)
      · next busy =>
          have effective : Effective old outcomes buffer := by
            by_contra idle
            exact busy (not_effective_iff.mp idle)
          split
          · next verdict => exact .rolledBack staged effective verdict
          · next verdict =>
              split
              · next failed => exact .unwritten staged effective verdict failed
              · next written => exact .finished staged effective verdict written

theorem FileCycle.file {checker : Checker} {settings : Settings}
    {entry : FilePlan} {site after : Site σ} {done : FileReport}
    (cycle : FileCycle checker settings entry site done after) :
    done.file = entry.file := by
  cases cycle <;> rfl

/-- A run has reports on the files of its entries only. -/
theorem file_of_mem_fixFiles {checker : Checker} {settings : Settings}
    {entries : List FilePlan} {site : Site σ} {report : FileReport}
    (member : report ∈ (fixFiles checker settings entries site).1) :
    report.file ∈ entries.map FilePlan.file := by
  induction entries generalizing site with
  | nil => cases member
  | cons entry entries induction =>
      rw [fixFiles] at member
      split at member
      · cases member
      · rcases List.mem_cons.mp member with here | later
        · rw [here, (fixFile_cycle checker settings entry site).file]
          exact List.mem_cons_self
        · exact List.mem_cons_of_mem _ (induction later)

/-- A report that tells of new content tells of no error. -/
theorem FileCycle.no_error {checker : Checker} {settings : Settings}
    {entry : FilePlan} {site after : Site σ} {done : FileReport}
    (cycle : FileCycle checker settings entry site done after)
    (changed : done.changed = true) :
    done.error = none ∧ done.regression = false := by
  cases cycle with
  | finished => exact ⟨rfl, rfl⟩
  | unreadable | idle | rolledBack | unwritten => cases changed

end LintMend.Run
