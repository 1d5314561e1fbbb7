import LintMend.Run.Bench
import LintMend.Run.Execute
import LintMend.Proofs.Except
import LintMend.Proofs.Files.Memory

/-!
# Places with files in memory

A run needs a place for its files and its usage. Here the files are kept in
memory, and the usage store is any store at all, as long as it leaves them
alone. Fixing the findings of a file then changes no file, whatever the
assistant answers and whatever becomes of the budget.
-/

namespace LintMend

/-- A place whose files are kept in memory, apart from whatever keeps its
usage. -/
class MemoryPlace (σ : Type) [FileStore σ] [UsageStore σ] where
  files : σ → MemoryFiles
  read_files (place : σ) (path : Path) :
    FileStore.read place path = (files place).read path
  replace_files (place : σ) (path : Path) (content : Text) :
    (FileStore.replace place path content).map files =
      (files place).replace path content
  load_files (place : σ) : files (UsageStore.load place).2 = files place
  update_files (change : Usage → Bool × Usage) (place : σ) :
    files (UsageStore.update change place).2 = files place

instance : MemoryPlace Bench where
  files := Bench.files
  read_files _ _ := rfl
  replace_files bench path content := by
    change Except.map Bench.files (bench.files.replace path content >>= _) = _
    cases bench.files.replace path content <;> rfl
  load_files _ := rfl
  update_files _ _ := rfl

namespace MemoryPlace

variable {σ : Type} [FileStore σ] [UsageStore σ] [MemoryPlace σ]

theorem replace_eq_error_iff {place : σ} {path : Path} {content : Text}
    {fault : FileFault} :
    FileStore.replace place path content = .error fault ↔
      (files place).replace path content = .error fault := by
  rw [← replace_files]
  cases FileStore.replace place path content <;> simp

theorem replace_of_files {place : σ} {path : Path} {content : Text}
    {after : MemoryFiles}
    (replaced : (files place).replace path content = .ok after) :
    ∃ moved, FileStore.replace place path content = .ok moved ∧
      files moved = after := by
  rw [← replace_files] at replaced
  cases done : FileStore.replace place path content with
  | error fault =>
      rw [done] at replaced
      cases replaced
  | ok moved =>
      rw [done] at replaced
      cases replaced
      exact ⟨moved, rfl, rfl⟩

@[simp]
theorem files_current (tracker : Tracker) (place : σ) :
    files (tracker.current place).2.2 = files place := by
  have loaded := load_files place
  unfold Tracker.current
  split
  · rfl
  · split <;> simp_all

@[simp]
theorem files_canProceed (tracker : Tracker) (provider : String) (now : Instant)
    (place : σ) :
    files (tracker.canProceed provider now place).2.2 = files place :=
  files_current tracker place

@[simp]
theorem files_record (tracker : Tracker) (provider : String) (now : Instant)
    (place : σ) :
    files (tracker.record provider now place).2.2 = files place := by
  have updated := update_files (tracker.recordInto provider now) place
  unfold Tracker.record
  split
  · rfl
  · split <;> simp_all

@[simp]
theorem files_takeCall (clock : Clock) (helper : Helper) (place : σ) :
    files (Run.takeCall clock helper place).2.2 = files place := by
  have asked := files_canProceed helper.tracker helper.assistant.provider
    (clock.shows helper.looks) place
  unfold Run.takeCall
  simp only
  split
  · rw [files_record, asked]
  · exact asked

@[simp]
theorem files_assist (settings : Settings) (item : PlannedIssue)
    (buffer : Buffer) (site : Site σ) :
    files (Run.assist settings item buffer site).2.2.place =
      files site.place := by
  unfold Run.assist
  split
  · rfl
  · next helper _ =>
      have taken := files_takeCall settings.now helper site.place
      simp only
      split
      · rfl
      · split
        · simp_all
        · split <;> simp_all

@[simp]
theorem files_fixIssue (settings : Settings) (item : PlannedIssue)
    (buffer : Buffer) (site : Site σ) :
    files (Run.fixIssue settings item buffer site).2.2.place =
      files site.place := by
  unfold Run.fixIssue
  split
  · rfl
  · exact files_assist settings item buffer site

/-- No file changes while the findings of a file are fixed. -/
@[simp]
theorem files_fixIssues (settings : Settings) (items : List PlannedIssue)
    (buffer : Buffer) (site : Site σ) :
    files (Run.fixIssues settings items buffer site).2.2.place =
      files site.place := by
  induction items generalizing buffer site with
  | nil => rfl
  | cons item items induction =>
      rw [Run.fixIssues]
      simp only
      rw [induction, files_fixIssue]

end MemoryPlace

end LintMend
