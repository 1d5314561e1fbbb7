import Mathlib.Data.List.Induction
import Mathlib.Tactic.SplitIfs
import LintMend.Files.Disk
import LintMend.Proofs.Except
import LintMend.Proofs.Lookup

/-!
# What operations leave on a disk

Where a path leads depends on the directories alone, and no file operation takes
one away. So a file that was written is found where it was written, and what
could be written once can be written again.
-/

namespace LintMend.Disk

variable {disk old new : Disk} {path : Path} {place : Place}

@[simp]
theorem lookup_put (place other : Place) (node : Node)
    (nodes : List (Place × Node)) :
    (put place node nodes).lookup other =
      if other = place then some node else nodes.lookup other := by
  induction nodes with
  | nil => rw [put, lookup_entry]
  | cons entry nodes induction =>
      obtain ⟨first, found⟩ := entry
      by_cases here : place = first
      · subst here
        rw [put, if_pos rfl, lookup_entry, lookup_entry]
        split <;> rfl
      · rw [put, if_neg here, lookup_entry, lookup_entry, induction]
        by_cases same : other = place
        · rw [if_pos same, if_pos same, if_neg (same ▸ here)]
        · rw [if_neg same, if_neg same]

theorem node?_set (some : place ≠ []) (node : Node) (other : Place) :
    (disk.set place node).node? other =
      if other = place then .some node else disk.node? other := by
  by_cases root : other = []
  · simp [node?, root, Ne.symm some]
  · simp [node?, root, set]

/-! ## Directories -/

def HasDirectory (disk : Disk) (place : Place) : Prop :=
  ∃ mode, disk.node? place = some (.directory mode)

theorem hasDirectory_root (disk : Disk) : disk.HasDirectory [] :=
  ⟨directoryMode, rfl⟩

/-- The directories of one disk are directories of the other one too. -/
structure Leads (old new : Disk) : Prop where
  working : new.working = old.working
  directories : ∀ place, old.HasDirectory place → new.HasDirectory place

theorem Leads.refl (disk : Disk) : Leads disk disk :=
  ⟨rfl, fun _ found => found⟩

theorem Leads.trans {middle : Disk} (first : Leads old middle)
    (second : Leads middle new) :
    Leads old new :=
  ⟨second.working.trans first.working,
    fun place found => second.directories place (first.directories place found)⟩

theorem Leads.walk (leads : Leads old new) {start ended : Place}
    {steps : List Component} (walked : old.walk start steps = .ok ended) :
    new.walk start steps = .ok ended := by
  induction steps generalizing start with
  | nil => exact walked
  | cons step steps induction =>
      unfold Disk.walk at walked ⊢
      split at walked
      next => cases walked
      next => cases walked
      next mode found =>
        obtain ⟨newMode, newFound⟩ := leads.directories start ⟨mode, found⟩
        rw [newFound]
        cases step with
        | root => exact induction walked
        | here => exact induction walked
        | up => exact induction walked
        | name text =>
            simp only at walked ⊢
            split at walked
            next => cases walked
            next short =>
              rw [if_neg short]
              exact induction walked

theorem Leads.locate (leads : Leads old new)
    (located : old.locate path = .ok place) :
    new.locate path = .ok place := by
  unfold Disk.locate at located ⊢
  split_ifs at located ⊢
  rw [leads.working]
  exact leads.walk located

/-- Two disks with the same directories; every path leads to the same place on
both. -/
structure SameDirectories (old new : Disk) : Prop where
  forth : Leads old new
  back : Leads new old

theorem SameDirectories.refl (disk : Disk) : SameDirectories disk disk :=
  ⟨Leads.refl disk, Leads.refl disk⟩

theorem SameDirectories.symm (same : SameDirectories old new) :
    SameDirectories new old :=
  ⟨same.back, same.forth⟩

theorem SameDirectories.trans {middle : Disk}
    (first : SameDirectories old middle) (second : SameDirectories middle new) :
    SameDirectories old new :=
  ⟨first.forth.trans second.forth, second.back.trans first.back⟩

/-! ## Files -/

/-- The file at a place: its permissions and its content. -/
def file? (disk : Disk) (place : Place) : Option (Nat × Bytes) :=
  match disk.node? place with
  | some (.file mode content) => some (mode, content)
  | _ => none

/-- A file with new content; a new file gets the permissions of new files. -/
def withFile (disk : Disk) (place : Place) (content : Bytes) : Disk :=
  disk.set place
    (.file (((disk.file? place).map Prod.fst).getD fileMode) content)

/-- A path at whose place a file may be written. -/
structure MayWrite (disk : Disk) (path : Path) (place : Place) : Prop where
  located : disk.locate path = .ok place
  free : ¬ disk.HasDirectory place
  isFile : wantsDirectory path = false

theorem file?_eq_some {mode : Nat} {content : Bytes} :
    disk.file? place = some (mode, content) ↔
      disk.node? place = some (.file mode content) := by
  unfold file?
  split
  next found => simp [found]
  next none =>
    constructor
    · intro impossible
      cases impossible
    · exact fun found => absurd found (none mode content)

theorem ne_root_of_free (free : ¬ disk.HasDirectory place) : place ≠ [] := by
  rintro rfl
  exact free disk.hasDirectory_root

theorem node?_set_file (free : ¬ disk.HasDirectory place) (mode : Nat)
    (content : Bytes) (other : Place) :
    (disk.set place (.file mode content)).node? other =
      if other = place then some (.file mode content) else disk.node? other :=
  node?_set (ne_root_of_free free) _ other

theorem sameDirectories_of_iff (working : new.working = old.working)
    (directories : ∀ place, new.HasDirectory place ↔ old.HasDirectory place) :
    SameDirectories old new where
  forth := ⟨working, fun place => (directories place).mpr⟩
  back := ⟨working.symm, fun place => (directories place).mp⟩

/-- A file leaves the directories as they are. -/
theorem sameDirectories_set_file (free : ¬ disk.HasDirectory place) (mode : Nat)
    (content : Bytes) :
    SameDirectories disk (disk.set place (.file mode content)) := by
  refine sameDirectories_of_iff rfl fun other => ?_
  unfold HasDirectory
  rw [node?_set_file free]
  split
  next same =>
    subst same
    exact ⟨by simp, fun found => absurd found free⟩
  next => rfl

theorem sameDirectories_withFile (free : ¬ disk.HasDirectory place)
    (content : Bytes) :
    SameDirectories disk (disk.withFile place content) :=
  sameDirectories_set_file free _ content

theorem file?_withFile (free : ¬ disk.HasDirectory place) (content : Bytes)
    (other : Place) :
    (disk.withFile place content).file? other =
      if other = place then
      some (((disk.file? place).map Prod.fst).getD fileMode, content)
      else disk.file? other := by
  by_cases here : other = place
  · rw [if_pos here, file?_eq_some, withFile, node?_set_file free, if_pos here]
  · rw [if_neg here, file?, withFile, node?_set_file free, if_neg here, file?]

theorem MayWrite.of_same (may : old.MayWrite path place)
    (same : SameDirectories old new) :
    new.MayWrite path place where
  located := same.forth.locate may.located
  free directory := may.free (same.back.directories place directory)
  isFile := may.isFile

theorem openForWriting_eq_ok_iff {found : Option (Nat × Bytes)} :
    disk.openForWriting path = .ok (place, found) ↔
      disk.MayWrite path place ∧ found = disk.file? place := by
  constructor
  · intro opened
    obtain ⟨goal, located, opened⟩ := bind_eq_ok_iff.mp opened
    split at opened
    next => cases opened
    next mode content here =>
      split at opened
      next => cases opened
      next isFile =>
        obtain ⟨rfl, rfl⟩ := Prod.mk.inj (Except.ok.inj opened)
        refine ⟨⟨located, ?_, by simpa using isFile⟩,
          (file?_eq_some.mpr here).symm⟩
        rintro ⟨other, directory⟩
        rw [here] at directory
        cases directory
    next none =>
      split at opened
      next => cases opened
      next isFile =>
        obtain ⟨rfl, rfl⟩ := Prod.mk.inj (Except.ok.inj opened)
        refine ⟨⟨located, ?_, by simpa using isFile⟩, by
          simp only [file?, none]⟩
        rintro ⟨other, directory⟩
        rw [none] at directory
        cases directory
  · rintro ⟨may, rfl⟩
    unfold openForWriting file?
    rw [may.located]
    simp only [ok_bind, may.isFile]
    split
    next mode found => exact absurd ⟨mode, found⟩ may.free
    next mode content found =>
      rw [found]
      rfl
    next none =>
      rw [none]
      rfl

private theorem opened_eq_ok_iff
    {next : Place × Option (Nat × Bytes) → Except FileFault Disk} :
    (disk.openForWriting path >>= next) = .ok new ↔
      ∃ place, disk.MayWrite path place ∧
      next (place, disk.file? place) = .ok new := by
  rw [bind_eq_ok_iff]
  constructor
  · rintro ⟨⟨place, found⟩, opened, done⟩
    obtain ⟨may, rfl⟩ := openForWriting_eq_ok_iff.mp opened
    exact ⟨place, may, done⟩
  · rintro ⟨place, may, done⟩
    exact ⟨_, openForWriting_eq_ok_iff.mpr ⟨may, rfl⟩, done⟩

theorem write_eq_ok_iff {content : Bytes} :
    disk.write path content = .ok new ↔
      ∃ place, disk.MayWrite path place ∧
      disk.withFile place content = new := by
  refine opened_eq_ok_iff.trans (exists_congr fun place =>
    and_congr_right fun _ => ?_)
  cases found : disk.file? place <;> simp [withFile, found, pure, Except.pure]

theorem append_eq_ok_iff {more : Bytes} :
    disk.append path more = .ok new ↔
      ∃ place, disk.MayWrite path place ∧
        disk.withFile place (((disk.file? place).map Prod.snd).getD [] ++
            more) = new := by
  refine opened_eq_ok_iff.trans (exists_congr fun place =>
    and_congr_right fun _ => ?_)
  cases found : disk.file? place <;> simp [withFile, found, pure, Except.pure]

theorem touch_eq_ok_iff :
    disk.touch path = .ok new ↔
      ∃ place, disk.MayWrite path place ∧
        (if (disk.file? place).isSome then disk else disk.withFile place []) =
          new := by
  refine opened_eq_ok_iff.trans (exists_congr fun place =>
    and_congr_right fun _ => ?_)
  cases found : disk.file? place <;> simp [withFile, found, pure, Except.pure]

theorem find_eq_ok_iff {node : Node} :
    disk.find path = .ok (place, node) ↔
      disk.locate path = .ok place ∧ disk.node? place = some node ∧
        (wantsDirectory path = true → node.isDirectory = true) := by
  rw [find, bind_eq_ok_iff]
  constructor
  · rintro ⟨goal, located, found⟩
    split at found
    next => cases found
    next here =>
      split at found
      next => cases found
      next fits =>
        obtain ⟨rfl, rfl⟩ := Prod.mk.inj (Except.ok.inj found)
        exact ⟨located, here, by simpa using fits⟩
  · rintro ⟨located, here, fits⟩
    refine ⟨place, located, ?_⟩
    rw [here]
    exact if_neg (by simpa using fits)

theorem readBytes_eq_ok_iff {content : Bytes} :
    disk.readBytes path = .ok content ↔
      ∃ place mode, disk.locate path = .ok place ∧
        disk.node? place = some (.file mode content) ∧
        wantsDirectory path = false := by
  rw [readBytes, bind_eq_ok_iff]
  constructor
  · rintro ⟨⟨place, node⟩, found, read⟩
    obtain ⟨located, here, fits⟩ := find_eq_ok_iff.mp found
    cases node with
    | directory mode => cases read
    | file mode content =>
        obtain rfl := Except.ok.inj read
        exact ⟨place, mode, located, here, by
          simpa [Node.isDirectory] using fits⟩
  · rintro ⟨place, mode, located, here, isFile⟩
    exact ⟨_, find_eq_ok_iff.mpr ⟨located, here, by simp [isFile]⟩, rfl⟩

theorem readText_eq_ok_iff {text : Text} :
    disk.readText path = .ok text ↔
      ∃ content, disk.readBytes path = .ok content ∧
      Utf8.decode? content = some text := by
  rw [readText, bind_eq_ok_iff]
  refine exists_congr fun content => and_congr_right fun _ => ?_
  cases Utf8.decode? content <;>
    simp [pure, Except.pure, throw, throwThe, MonadExceptOf.throw]

/-- A file that may be written is missing or read. -/
theorem MayWrite.readBytes_eq (may : disk.MayWrite path place) :
    disk.readBytes path =
      ((disk.file? place).map Prod.snd).elim (.error .notFound) .ok := by
  cases found : disk.file? place with
  | some file =>
      obtain ⟨mode, content⟩ := file
      exact readBytes_eq_ok_iff.mpr ⟨place, mode, may.located,
        file?_eq_some.mp found, may.isFile⟩
  | none =>
      have missing : disk.node? place = none := by
        unfold file? at found
        split at found
        next => cases found
        next none =>
          cases there : disk.node? place with
          | none => rfl
          | some node =>
              cases node with
              | file mode content => exact absurd there (none mode content)
              | directory mode => exact absurd ⟨mode, there⟩ may.free
      rw [readBytes, find, may.located]
      simp only [ok_bind, missing]
      rfl

/-- A file that is opened gains nothing but, where it was missing, an empty
content. -/
theorem touch_spec (touched : disk.touch path = .ok new) :
    SameDirectories disk new ∧
      ∀ place, new.file? place = disk.file? place ∨
        (disk.file? place = none ∧ new.file? place = some (fileMode, [])) := by
  obtain ⟨goal, may, rfl⟩ := touch_eq_ok_iff.mp touched
  split_ifs with there
  · exact ⟨.refl disk, fun _ => .inl rfl⟩
  · have missing : disk.file? goal = none := by simpa using there
    refine ⟨sameDirectories_withFile may.free [], fun place => ?_⟩
    rw [file?_withFile may.free]
    split_ifs with here
    · subst here
      exact .inr ⟨missing, by rw [missing]; rfl⟩
    · exact .inl rfl

/-! ## Making directories -/

/-- A disk that has nothing but more directories. -/
structure Grown (old new : Disk) : Prop where
  working : new.working = old.working
  kept : ∀ place node, old.node? place = some node → new.node? place = some node
  added : ∀ place node, new.node? place = some node →
    old.node? place = some node ∨ node.isDirectory = true

theorem Grown.refl (disk : Disk) : Grown disk disk :=
  ⟨rfl, fun _ _ found => found, fun _ _ found => .inl found⟩

theorem Grown.trans {middle : Disk} (first : Grown old middle)
    (second : Grown middle new) :
    Grown old new where
  working := second.working.trans first.working
  kept place node found := second.kept place node (first.kept place node found)
  added place node found :=
    (second.added place node found).elim (first.added place node) .inr

theorem Grown.leads (grown : Grown old new) : Leads old new :=
  ⟨grown.working, fun place ⟨mode, found⟩ => ⟨mode, grown.kept place _ found⟩⟩

/-- The files are the same. -/
theorem Grown.file? (grown : Grown old new) (place : Place) :
    new.file? place = old.file? place := by
  cases found : old.file? place with
  | some file =>
      exact file?_eq_some.mpr (grown.kept place _ (file?_eq_some.mp found))
  | none =>
      cases appeared : new.file? place with
      | none => rfl
      | some file =>
          rcases grown.added place _ (file?_eq_some.mp appeared) with
            there | directory
          · rw [file?_eq_some.mpr there] at found
            cases found
          · cases directory

theorem grown_set_directory (missing : disk.node? place = none) (mode : Nat) :
    Grown disk (disk.set place (.directory mode)) := by
  have some : place ≠ [] := by
    rintro rfl
    cases missing
  refine ⟨rfl, fun other node found => ?_, fun other node found => ?_⟩
  · rw [node?_set some, if_neg]
    · exact found
    · rintro rfl
      rw [missing] at found
      cases found
  · rw [node?_set some] at found
    split at found
    next =>
      obtain rfl := Option.some.inj found
      exact .inr rfl
    next => exact .inl found

theorem ensureDirectory_spec {isLast : Bool}
    (made : disk.ensureDirectory place isLast = .ok new) :
    Grown disk new ∧ new.HasDirectory place := by
  unfold ensureDirectory at made
  split at made
  next mode found =>
    obtain rfl := Except.ok.inj made
    exact ⟨Grown.refl disk, mode, found⟩
  next => cases made
  next missing =>
    split at made
    next => cases made
    next =>
      obtain rfl := Except.ok.inj made
      refine ⟨grown_set_directory missing directoryMode, directoryMode, ?_⟩
      rw [node?_set, if_pos rfl]
      rintro rfl
      cases missing

theorem ensureDirectory_of_hasDirectory (there : disk.HasDirectory place)
    (isLast : Bool) :
    disk.ensureDirectory place isLast = .ok disk := by
  obtain ⟨mode, found⟩ := there
  simp only [ensureDirectory, found]

/-- Every directory on the way is there in the end, and nothing else has
changed. -/
theorem grown_makeDirectories (made : disk.makeDirectories place = .ok new) :
    Grown disk new ∧ ∀ count ≤ place.length,
      new.HasDirectory (place.take count) := by
  constructor
  · exact foldlM_keeps (fun index _ _ _ stepped grown =>
      grown.trans (ensureDirectory_spec stepped).1) made (Grown.refl disk)
  · have reached : ∀ index ∈ List.range place.length,
        new.HasDirectory (place.take (index + 1)) := by
      refine foldlM_reaches
        (motive := fun index disk => disk.HasDirectory (place.take (index + 1)))
        (fun index _ _ _ stepped => ?_) made
      have ⟨grown, there⟩ := ensureDirectory_spec stepped
      exact ⟨there, fun other =>
        grown.leads.directories (place.take (other + 1))⟩
    intro count short
    cases count with
    | zero => exact new.hasDirectory_root
    | succ index => exact reached index (List.mem_range.mpr short)

/-- Directories that are there are not made anew. -/
theorem makeDirectories_of_hasDirectory
    (there : ∀ count ≤ place.length, disk.HasDirectory (place.take count)) :
    disk.makeDirectories place = .ok disk := by
  exact foldlM_of_idle fun index member =>
    ensureDirectory_of_hasDirectory
      (there (index + 1) (List.mem_range.mp member)) _

/-! ## What stands on the disk -/

/-- Whatever is on the disk stands in a directory. -/
def Rooted (disk : Disk) : Prop :=
  ∀ place node, disk.node? place = some node → disk.HasDirectory place.dropLast

theorem Rooted.hasDirectory_take (rooted : disk.Rooted)
    (there : disk.HasDirectory place) :
    ∀ count ≤ place.length, disk.HasDirectory (place.take count) := by
  induction place using List.reverseRecOn with
  | nil =>
      intro count _
      rwa [List.take_nil]
  | append_singleton front name induction =>
      obtain ⟨mode, found⟩ := there
      have above : disk.HasDirectory front := by
        simpa using rooted (front ++ [name]) _ found
      intro count short
      rcases Nat.lt_or_ge front.length count with whole | inner
      · rw [List.take_of_length_le (by rw [List.length_append]; exact whole)]
        exact ⟨mode, found⟩
      · rw [List.take_append_of_le_length inner]
        exact induction above count inner

/-- Where a path leads, it leads along its steps. -/
theorem placeOf_of_locate (located : disk.locate path = .ok place) :
    disk.placeOf path = place := by
  have along : ∀ (steps : List Component) (start : Place),
      disk.walk start steps = .ok place →
      steps.foldl follow start = place := by
    intro steps
    induction steps with
    | nil => exact fun start walked => Except.ok.inj walked
    | cons step steps induction =>
        intro start walked
        unfold walk at walked
        split at walked
        next => cases walked
        next => cases walked
        next =>
          cases step with
          | root => exact induction [] walked
          | here => exact induction start walked
          | up => exact induction start.dropLast walked
          | name text =>
              simp only at walked
              split at walked
              next => cases walked
              next => exact induction (start ++ [text]) walked
  unfold locate at located
  split_ifs at located
  exact along path.components disk.working located

/-- No directory is made on the way to a file that is there. -/
theorem makeDirectories_of_file {file : Nat × Bytes} (rooted : disk.Rooted)
    (there : disk.file? place = some file)
    (made : disk.makeDirectories (disk.placeOf path).dropLast = .ok new)
    (located : new.locate path = .ok place) : new = disk := by
  have grown := (grown_makeDirectories made).1
  have stands : disk.HasDirectory place.dropLast :=
    rooted place _ (file?_eq_some.mp there)
  have led : disk.placeOf path = place := by
    rw [← placeOf_of_locate located, placeOf, placeOf, grown.working]
  rw [led, makeDirectories_of_hasDirectory (rooted.hasDirectory_take stands)]
    at made
  exact (Except.ok.inj made).symm

end LintMend.Disk
