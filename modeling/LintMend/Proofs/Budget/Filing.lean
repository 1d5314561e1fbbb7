import LintMend.Proofs.Budget.Stores
import LintMend.Proofs.Budget.Text
import LintMend.Proofs.Files.Replacing
import LintMend.Proofs.Text.Utf8

/-!
# Usage in a file

A file from which the usage is read, and which can be locked and replaced once,
can be updated over and over: each update finds the usage that the one before
has left, and nothing is lost on the way to the disk and back. So the store in
such a file works.
-/

namespace LintMend

namespace UsageFile

variable {path : Path} {disk new : Disk} {usage : Usage} {place : Place}

/-- A file that gives back the usage, and lets itself be locked and replaced. -/
structure Keeps (path : Path) (usage : Usage) (disk : Disk) : Prop where
  proper : usage.Proper
  reads : UsageFile.read path disk = .ok usage
  locks : ∃ locked place, UsageFile.lock path disk = .ok locked ∧
    UsageFile.read path locked = .ok usage ∧ locked.MayReplace path place

/-! ## Reading -/

theorem readText_of_file {mode : Nat} {content : Bytes} {text : Text}
    (may : disk.MayWrite path place)
    (found : disk.file? place = some (mode, content))
    (decoded : Utf8.decode? content = some text) :
    disk.readText path = .ok text := by
  refine Disk.readText_eq_ok_iff.mpr ⟨content, ?_, decoded⟩
  rw [may.readBytes_eq, found]
  rfl

/-- A missing file and an empty one hold no calls. -/
theorem read_of_nothing (may : disk.MayWrite path place)
    (nothing : disk.file? place = none ∨ ∃ mode,
      disk.file? place = some (mode, [])) :
    read path disk = .ok Usage.empty := by
  rcases nothing with missing | ⟨mode, blank⟩
  · have notFound : disk.readText path = .error .notFound := by
      rw [Disk.readText, may.readBytes_eq, missing]
      rfl
    simp only [read, notFound]
  · simp only [read, readText_of_file may blank rfl]
    rfl

/-- What is read of a file depends on the file only. -/
theorem read_congr (may : disk.MayWrite path place)
    (mayNew : new.MayWrite path place)
    (same : new.file? place = disk.file? place) :
    read path new = read path disk := by
  have bytes : new.readBytes path = disk.readBytes path := by
    rw [may.readBytes_eq, mayNew.readBytes_eq, same]
  simp only [read, Disk.readText, bytes]

@[simp]
theorem pretty_not_blank (usage : Usage) :
    Text.blank usage.json.pretty.toList = false := by
  obtain ⟨rest, opened⟩ : ∃ rest,
      usage.json.pretty.toList = '\x7b' :: rest := by
    unfold Usage.json Json.pretty Json.indented Json.bracketed
    split
    · exact ⟨_, rfl⟩
    · simp only [String.toList_append, List.append_assoc]
      exact ⟨_, rfl⟩
  rw [opened]
  rfl

theorem read_of_json {mode : Nat} (proper : usage.Proper)
    (may : disk.MayWrite path place)
    (found : disk.file? place =
      some (mode, Utf8.encode usage.json.pretty.toList)) :
    read path disk = .ok usage := by
  simp [read, readText_of_file may found (Utf8.decode?_encode _),
    Json.decode_pretty Usage.decode usage.exact_json,
    Usage.decode_written proper]

theorem proper_of_read (found : read path disk = .ok usage) : usage.Proper := by
  unfold read at found
  split at found
  next =>
    obtain rfl := Except.ok.inj found
    exact Usage.proper_empty
  next => cases found
  next content =>
    split at found
    next =>
      obtain rfl := Except.ok.inj found
      exact Usage.proper_empty
    next =>
      split at found
      next decoded =>
        obtain rfl := Except.ok.inj found
        exact Usage.proper_of_decode (JsonText.decode_eq_ok decoded)
      next => cases found

/-! ## Locking -/

theorem lock_eq_ok_iff :
    lock path disk = .ok new ↔
      ∃ made, disk.makeDirectories (disk.placeOf path).dropLast = .ok made ∧
        made.touch (lockPath path) = .ok new := by
  unfold lock
  cases disk.makeDirectories (disk.placeOf path).dropLast with
  | error fault => simp
  | ok made => cases touched : made.touch (lockPath path) <;> simp [touched]

/-- Under the lock the same usage is read. -/
theorem read_of_lock (rooted : disk.Rooted) (found : read path disk = .ok usage)
    (locks : lock path disk = .ok new) (may : new.MayWrite path place) :
    read path new = .ok usage := by
  obtain ⟨made, making, touching⟩ := lock_eq_ok_iff.mp locks
  obtain ⟨same, files⟩ := Disk.touch_spec touching
  have mayMade := may.of_same same.symm
  obtain ⟨grown, -⟩ := Disk.grown_makeDirectories making
  cases there : disk.file? place with
  | some file =>
      obtain rfl :=
        Disk.makeDirectories_of_file rooted there making mayMade.located
      have kept := (files place).resolve_right (by simp [there])
      rw [read_congr mayMade may kept, found]
  | none =>
      have empty : usage = Usage.empty := by
        rw [read] at found
        split at found
        next => exact (Except.ok.inj found).symm
        next => cases found
        next content readable =>
          -- a file that is read stands where the path leads now
          obtain ⟨_, bytes, -⟩ := Disk.readText_eq_ok_iff.mp readable
          obtain ⟨goal, mode, located, file, -⟩ :=
            Disk.readBytes_eq_ok_iff.mp bytes
          obtain rfl : goal = place :=
            Except.ok.inj
              ((grown.leads.locate located).symm.trans mayMade.located)
          rw [Disk.file?_eq_some.mpr file] at there
          cases there
      rw [empty]
      refine read_of_nothing may ?_
      rcases files place with kept | ⟨-, created⟩
      · exact .inl (kept.trans ((grown.file? place).trans there))
      · exact .inr ⟨_, created⟩

theorem Keeps.of_read (rooted : disk.Rooted)
    (found : read path disk = .ok usage) {locked : Disk}
    (locks : lock path disk = .ok locked)
    (replaced : locked.replace path [] = .ok new) : Keeps path usage disk := by
  obtain ⟨place, may⟩ := Disk.mayReplace_of_replaceBytes replaced
  exact ⟨proper_of_read found, found, locked, place, locks,
    read_of_lock rooted found locks may.target, may⟩

/-! ## Updating -/

/-- An update of a file is made from the usage that is read under the lock. -/
theorem update_eq {locked written : Disk} {change : Usage → Bool × Usage}
    (lock : UsageFile.lock path disk = .ok locked)
    (read : UsageFile.read path locked = .ok usage)
    (write : locked.replace path (change usage).2.json.pretty.toList =
      .ok written) :
    UsageFile.update path change disk = (.ok (change usage).1, written) := by
  simp only [UsageFile.update, lock, UsageFile.readOrRestart, read, write]

/-- An update leaves a file that can be updated again. -/
theorem Keeps.update (keeps : Keeps path usage disk)
    {change : Usage → Bool × Usage} (proper : (change usage).2.Proper) :
    ∃ written, UsageFile.update path change disk =
      (.ok (change usage).1, written) ∧
      Keeps path (change usage).2 written := by
  obtain ⟨-, -, locked, place, locks, found, may⟩ := keeps
  obtain ⟨mode, written, replaced, same, file⟩ :=
    Disk.replaceBytes_of_mayReplace may
      (Utf8.encode (change usage).2.json.pretty.toList)
  refine ⟨written, update_eq locks found replaced, proper, ?_, ?_⟩
  · exact read_of_json proper (may.target.of_same same)
      (Disk.file?_eq_some.mpr file)
  · obtain ⟨made, making, touching⟩ := lock_eq_ok_iff.mp locks
    obtain ⟨grown, there⟩ := Disk.grown_makeDirectories making
    obtain ⟨sameLocked, -⟩ := Disk.touch_spec touching
    have since := sameLocked.trans same
    have led : written.placeOf path = disk.placeOf path := by
      rw [Disk.placeOf, Disk.placeOf, since.forth.working, grown.working]
    have making := Disk.makeDirectories_of_hasDirectory fun count short =>
      since.forth.directories _ (there count short)
    obtain ⟨goal, mayLock, -⟩ := Disk.touch_eq_ok_iff.mp touching
    have touching := Disk.touch_eq_ok_iff.mpr ⟨goal, mayLock.of_same since, rfl⟩
    obtain ⟨sameAgain, files⟩ := Disk.touch_spec touching
    have mayAgain := may.of_same (same.trans sameAgain)
    refine ⟨_, place, lock_eq_ok_iff.mpr ⟨written, led ▸ making, touching⟩,
      ?_, mayAgain⟩
    have file := Disk.file?_eq_some.mpr file
    exact read_of_json proper mayAgain.target
      (((files place).resolve_right (by simp [file])).trans file)

/-- A tracker that records a call in the file leaves it ready for the next
call. -/
theorem Keeps.record {store : UsageDisk}
    (keeps : Keeps store.path usage store.disk) (tracker : Tracker)
    (provider : String) {now : Instant} (valid : now.Valid) :
    ∃ written, UsageStore.update (tracker.recordInto provider now) store =
        (.ok (tracker.recordInto provider now usage).1,
          { store with disk := written }) ∧
      Keeps store.path (tracker.recordInto provider now usage).2 written := by
  obtain ⟨written, updated, kept⟩ :=
    keeps.update (keeps.proper.record tracker provider valid)
  refine ⟨written, ?_, kept⟩
  simp only [UsageStore.update, updated]

end UsageFile

/-- The store in a file works while the file gives back its usage, and lets
itself be locked and replaced. -/
def UsageDisk.working : UsageStore.Working UsageDisk where
  holds store usage := UsageFile.Keeps store.path usage store.disk
  load := by
    intro store usage keeps
    refine ⟨store, ?_, keeps⟩
    simp only [UsageStore.load, keeps.reads]
  record := by
    intro store usage now tracker provider keeps valid
    obtain ⟨written, updated, kept⟩ := keeps.record tracker provider valid
    exact ⟨{ store with disk := written }, updated, kept⟩

end LintMend
