import LintMend.Proofs.Files.Replacing

/-!
# The steps of a replacement

A step of a replacement touches the neighbour and nothing else. The one
exception is the renaming that succeeds: it puts what the neighbour holds in the
place of the target. What the neighbour holds is told by the phase, so that is
the whole content, and behind the last step the neighbour is gone unless the
removal itself was spoilt.
-/

namespace LintMend

namespace Disk

variable {disk old new : Disk} {path : Path} {place : Place}

/-- What a path leads to. -/
def nodeAt? (disk : Disk) (path : Path) : Option Node :=
  (disk.find? path).map Prod.snd

theorem nodeAt?_eq_some {node : Node} :
    disk.nodeAt? path = some node ↔ ∃ place,
      disk.find path = .ok (place, node) := by
  unfold nodeAt? find?
  rcases disk.find path with fault | ⟨place, found⟩ <;> simp [Except.toOption]

theorem nodeAt?_eq_none :
    disk.nodeAt? path = none ↔ disk.exists? path = false := by
  simp [nodeAt?, exists?]

theorem readBytes_of_nodeAt? {mode : Nat} {content : Bytes}
    (there : disk.nodeAt? path = some (.file mode content)) :
    disk.readBytes path = .ok content := by
  obtain ⟨place, found⟩ := nodeAt?_eq_some.mp there
  obtain ⟨located, here, fits⟩ := find_eq_ok_iff.mp found
  refine readBytes_eq_ok_iff.mpr ⟨place, mode, located, here, ?_⟩
  simpa [Node.isDirectory] using fits

theorem mayWrite_of_find {mode : Nat} {content : Bytes}
    (found : disk.find path = .ok (place, .file mode content)) :
    disk.MayWrite path place := by
  obtain ⟨located, here, fits⟩ := find_eq_ok_iff.mp found
  refine ⟨located, ?_, by simpa [Node.isDirectory] using fits⟩
  rintro ⟨other, directory⟩
  rw [here] at directory
  cases directory

theorem MayWrite.nodeAt? (may : disk.MayWrite path place) :
    disk.nodeAt? path = disk.node? place := by
  cases here : disk.node? place with
  | some node =>
      exact nodeAt?_eq_some.mpr
        ⟨place, find_eq_ok_iff.mpr ⟨may.located, here, by simp [may.isFile]⟩⟩
  | none =>
      cases there : disk.nodeAt? path with
      | none => rfl
      | some node =>
          obtain ⟨other, found⟩ := nodeAt?_eq_some.mp there
          obtain ⟨located, present, -⟩ := find_eq_ok_iff.mp found
          obtain rfl := Except.ok.inj (may.located.symm.trans located)
          rw [here] at present
          cases present

/-- What a path leads to changes only with the place that it leads to. -/
theorem nodeAt?_congr (same : SameDirectories old new)
    (kept : ∀ place, old.locate path = .ok place →
      new.node? place = old.node? place) :
    new.nodeAt? path = old.nodeAt? path := by
  apply Option.ext
  intro node
  rw [nodeAt?_eq_some, nodeAt?_eq_some]
  refine exists_congr fun place => ?_
  rw [find_eq_ok_iff, find_eq_ok_iff]
  constructor
  · rintro ⟨located, here, fits⟩
    have before := same.back.locate located
    exact ⟨before, by rw [← kept place before]; exact here, fits⟩
  · rintro ⟨located, here, fits⟩
    exact ⟨same.forth.locate located, by
      rw [kept place located]; exact here, fits⟩

/-! ## Operations on one path -/

/-- Nothing has changed but what is at a path. -/
structure Touched (path : Path) (old new : Disk) : Prop where
  directories : SameDirectories old new
  elsewhere : ∀ place, old.locate path ≠ .ok place →
    new.node? place = old.node? place

theorem Touched.refl (path : Path) (disk : Disk) : Touched path disk disk :=
  ⟨.refl disk, fun _ _ => rfl⟩

/-- The disk without what is at a place. -/
def without (disk : Disk) (place : Place) : Disk :=
  { disk with nodes := disk.nodes.filter fun (other, _) => other ≠ place }

theorem node?_without (some : place ≠ []) (other : Place) :
    (disk.without place).node? other = if other =
      place then none else disk.node? other := by
  by_cases root : other = []
  · subst root
    rw [if_neg some.symm]
    rfl
  · have named : other.isEmpty = false := by simpa using root
    simp only [node?, without, named, Bool.false_eq_true, if_false,
      lookup_filter_ne]

theorem touched_set_file (may : disk.MayWrite path place) (mode : Nat)
    (content : Bytes) :
    Touched path disk (disk.set place (.file mode content)) ∧
      (disk.set place (.file mode content)).nodeAt? path =
        some (.file mode content) := by
  have same := sameDirectories_set_file may.free mode content
  refine ⟨⟨same, fun other elsewhere => ?_⟩, ?_⟩
  · rw [node?_set_file may.free, if_neg]
    rintro rfl
    exact elsewhere may.located
  · rw [(may.of_same same).nodeAt?, node?_set_file may.free, if_pos rfl]

theorem touched_write {content : Bytes}
    (written : disk.write path content = .ok new) :
    Touched path disk new ∧ ∃ mode,
      new.nodeAt? path = some (.file mode content) := by
  obtain ⟨place, may, rfl⟩ := write_eq_ok_iff.mp written
  exact (touched_set_file may _ content).imp_right fun there => ⟨_, there⟩

theorem touched_setMode {mode other : Nat} {content : Bytes}
    (there : disk.nodeAt? path = some (.file other content))
    (changed : disk.setMode path mode = .ok new) :
    Touched path disk new ∧ new.nodeAt? path = some (.file mode content) := by
  obtain ⟨place, found⟩ := nodeAt?_eq_some.mp there
  rw [setMode, found] at changed
  obtain rfl := Except.ok.inj changed
  exact touched_set_file (mayWrite_of_find found) mode content

/-- A file can be removed. -/
theorem touched_remove {mode : Nat} {content : Bytes}
    (there : disk.nodeAt? path = some (.file mode content)) :
    ∃ new, disk.remove path = .ok new ∧ Touched path disk new ∧
      new.nodeAt? path = none := by
  obtain ⟨place, found⟩ := nodeAt?_eq_some.mp there
  have may := mayWrite_of_find found
  have named := ne_root_of_free may.free
  have same : SameDirectories disk (disk.without place) := by
    refine sameDirectories_of_iff rfl fun other => ?_
    unfold HasDirectory
    rw [node?_without named]
    split_ifs with here
    · subst here
      exact ⟨by simp, fun found => absurd found may.free⟩
    · rfl
  refine ⟨disk.without place, ?_, ⟨same, fun other elsewhere => ?_⟩, ?_⟩
  · simp only [remove, found, ok_bind]
    rfl
  · rw [node?_without named, if_neg]
    rintro rfl
    exact elsewhere may.located
  · rw [(may.of_same same).nodeAt?, node?_without named, if_pos rfl]

theorem isFile_of_remove (removed : disk.remove path = .ok new) :
    ∃ mode content, disk.nodeAt? path = some (.file mode content) := by
  obtain ⟨⟨place, node⟩, found, removed⟩ := bind_eq_ok_iff.mp removed
  cases node with
  | directory mode => cases removed
  | file mode content =>
      exact ⟨mode, content, nodeAt?_eq_some.mpr ⟨place, found⟩⟩

/-- A file that is renamed is at the target and no longer where it was. -/
theorem rename_spec {source target : Path} {mode : Nat} {content : Bytes}
    (there : disk.nodeAt? source = some (.file mode content))
    (apart : ∀ place, disk.locate source = .ok place →
      disk.locate target ≠ .ok place)
    (renamed : disk.rename source target = .ok new) :
    SameDirectories disk new ∧ new.nodeAt? source = none ∧
      ∃ goal, disk.locate target = .ok goal ∧
      new.node? goal = some (.file mode content) ∧
        ∀ other, disk.locate source ≠ .ok other → other ≠ goal →
          new.node? other = disk.node? other := by
  obtain ⟨place, node, goal, found, arrives, rfl⟩ := rename_eq_ok_iff.mp renamed
  obtain ⟨other, again⟩ := nodeAt?_eq_some.mp there
  obtain ⟨rfl, rfl⟩ := Prod.mk.inj (Except.ok.inj (found.symm.trans again))
  have leaves := mayWrite_of_find found
  have different : place ≠ goal := by
    rintro rfl
    exact apart place leaves.located arrives.located
  have same := sameDirectories_moved leaves.free arrives.free mode content
  have nodes : ∀ other,
      (disk.moved place (.file mode content) goal).node? other = _ :=
    node?_moved (ne_root_of_free leaves.free) (ne_root_of_free arrives.free)
  refine ⟨same, ?_, goal, arrives.located, ?_, ?_⟩
  · rw [(leaves.of_same same).nodeAt?, nodes, if_neg different, if_pos rfl]
  · rw [nodes, if_pos rfl]
  · intro other elsewhere away
    rw [nodes, if_neg away, if_neg]
    rintro rfl
    exact elsewhere leaves.located

end Disk

namespace Replacement

open Disk (SameDirectories Touched)

/-- What the neighbour holds before the next step. -/
def Fits (call : Replacement) (node : Option Node) : Prop :=
  match call.phase with
  | .create | .ended (.ok _) => node = none
  | .fill => ∃ mode content, node = some (.file mode content)
  | .adopt | .rename => ∃ mode, node = some (.file mode call.content)
  | .remove _ | .ended (.error _) => ∀ mode, node ≠ some (.directory mode)

/-- The next step is a renaming that succeeds. -/
def lands (mishap : Option Mishap) (call : Replacement) (disk : Disk) : Bool :=
  match call.phase, mishap with
  | .rename, none => (disk.rename call.neighbour call.target).toOption.isSome
  | _, _ => false

/-- What a step does, whatever goes wrong with it. -/
structure Stepped (mishap : Option Mishap) (call : Replacement) (disk : Disk)
    (next : Replacement) (after : Disk) : Prop where
  same : next = { call with phase := next.phase }
  directories : SameDirectories disk after
  /-- Other places than that of the neighbour change only where the content
  lands. -/
  elsewhere : ∀ place, disk.locate call.neighbour ≠ .ok place →
    (call.lands mishap disk = true → disk.locate call.target ≠ .ok place) →
    after.node? place = disk.node? place
  landed : call.lands mishap disk = true →
    ∃ goal mode, disk.locate call.target = .ok goal ∧
      after.node? goal = some (.file mode call.content)
  fits : next.Fits (after.nodeAt? call.neighbour)
  /-- Only a landing ends well. -/
  success : next.phase = .ended (.ok ()) ↔
    call.lands mishap disk = true ∨ call.phase = .ended (.ok ())
  /-- A call that has come to its end has cleaned up, unless that was spoilt. -/
  clean : ∀ result, next.phase = .ended result →
    call.phase = .ended result ∧ after = disk ∨
    after.nodeAt? call.neighbour = none ∨
      mishap ≠ none ∧ ∃ fault, call.phase = .remove fault

variable {mishap : Option Mishap} {call : Replacement} {disk after : Disk}

theorem lands_iff :
    call.lands mishap disk = true ↔
      call.phase = .rename ∧ mishap = none ∧
        ∃ after, disk.rename call.neighbour call.target = .ok after := by
  unfold lands
  cases call.phase with
  | rename =>
      cases mishap with
      | some mishap => simp
      | none => cases disk.rename call.neighbour call.target <;>
          simp [Except.toOption]
  | create | fill | adopt | remove | ended => simp

theorem attempt_eq_ok_iff {outcome : Except FileFault Disk} :
    attempt mishap outcome = .ok after ↔
      mishap = none ∧ outcome = .ok after := by
  cases mishap <;> simp [attempt]

/-- A spoilt filling leaves some part of the content, or the file as it was. -/
theorem fillPart_spec (mishap : Option Mishap) {mode : Nat} {content : Bytes}
    (there : disk.nodeAt? call.neighbour = some (.file mode content)) :
    Touched call.neighbour disk (call.fillPart mishap disk) ∧
      ∃ mode content,
        (call.fillPart mishap disk).nodeAt? call.neighbour =
          some (.file mode content) := by
  cases mishap with
  | none => exact ⟨.refl _ disk, mode, content, there⟩
  | some mishap =>
      rw [fillPart]
      cases written : disk.write call.neighbour
        (call.content.take mishap.filled) with
      | error fault => exact ⟨.refl _ disk, mode, content, there⟩
      | ok filled =>
          obtain ⟨touched, mode, there⟩ := Disk.touched_write written
          exact ⟨touched, mode, _, there⟩

/-- A removal leaves nothing behind, unless it was spoilt. -/
theorem removed_spec {path : Path} (mishap : Option Mishap)
    (fits : ∀ mode, disk.nodeAt? path ≠ some (.directory mode)) :
    let after := (attempt mishap (disk.remove path)).toOption.getD disk
    Touched path disk after ∧
    (after.nodeAt? path = none ∨ mishap ≠ none ∧ after = disk) := by
  cases mishap with
  | some mishap => exact ⟨.refl _ disk, .inr ⟨by simp, rfl⟩⟩
  | none =>
      cases there : disk.nodeAt? path with
      | none =>
          cases outcome : disk.remove path with
          | error fault => exact ⟨.refl _ disk, .inl there⟩
          | ok after =>
              obtain ⟨mode, content, found⟩ := Disk.isFile_of_remove outcome
              rw [there] at found
              cases found
      | some node =>
          cases node with
          | directory mode => exact absurd there (fits mode)
          | file mode content =>
              obtain ⟨after, outcome, touched, gone⟩ :=
                Disk.touched_remove there
              simp only [attempt, outcome]
              exact ⟨touched, .inl gone⟩

/-- A call that is under way and lands nothing goes to another phase that is
none of the last. -/
theorem stepped_of_touched {next : ReplacementPhase}
    (touched : Touched call.neighbour disk after)
    (away : call.lands mishap disk = false)
    (pending : ∀ result, call.phase ≠ .ended result)
    (goesOn : ∀ result, next ≠ .ended result)
    (fits : Fits { call with phase := next } (after.nodeAt? call.neighbour)) :
    Stepped mishap call disk { call with phase := next } after where
  same := rfl
  directories := touched.directories
  elsewhere place other _ := touched.elsewhere place other
  landed lands := by
    rw [away] at lands
    cases lands
  fits := fits
  success := by simp [away, pending, goesOn]
  clean result ended := absurd ended (goesOn result)

theorem stepped_create (phase : call.phase = .create)
    (fits : call.Fits (disk.nodeAt? call.neighbour)) :
    Stepped mishap call disk (call.step mishap disk).1
      (call.step mishap disk).2 := by
  have away : call.lands mishap disk = false := by simp [lands, phase]
  have pending : ∀ result, call.phase ≠ .ended result := by simp [phase]
  simp only [Fits, phase] at fits
  simp only [step, phase, proceed]
  cases outcome : attempt mishap (disk.write call.neighbour []) with
  | ok after =>
      obtain ⟨touched, mode, there⟩ :=
        Disk.touched_write (attempt_eq_ok_iff.mp outcome).2
      exact stepped_of_touched touched away pending (by simp) ⟨mode, [], there⟩
  | error fault =>
      exact stepped_of_touched (.refl _ disk) away pending (by simp)
        (by simp [Fits, fits])

theorem stepped_fill (phase : call.phase = .fill)
    (fits : call.Fits (disk.nodeAt? call.neighbour)) :
    Stepped mishap call disk (call.step mishap disk).1
      (call.step mishap disk).2 := by
  have away : call.lands mishap disk = false := by simp [lands, phase]
  have pending : ∀ result, call.phase ≠ .ended result := by simp [phase]
  simp only [Fits, phase] at fits
  obtain ⟨mode, content, there⟩ := fits
  simp only [step, phase, proceed]
  cases outcome : attempt mishap (disk.write call.neighbour call.content) with
  | ok after =>
      obtain ⟨touched, mode, there⟩ :=
        Disk.touched_write (attempt_eq_ok_iff.mp outcome).2
      exact stepped_of_touched touched away pending (by simp) ⟨mode, there⟩
  | error fault =>
      obtain ⟨touched, mode, content, there⟩ := fillPart_spec mishap there
      exact stepped_of_touched touched away pending (by simp)
        (by simp [Fits, there])

theorem stepped_adopt (phase : call.phase = .adopt)
    (fits : call.Fits (disk.nodeAt? call.neighbour)) :
    Stepped mishap call disk (call.step mishap disk).1
      (call.step mishap disk).2 := by
  have away : call.lands mishap disk = false := by simp [lands, phase]
  have pending : ∀ result, call.phase ≠ .ended result := by simp [phase]
  simp only [Fits, phase] at fits
  obtain ⟨mode, there⟩ := fits
  simp only [step, phase]
  cases disk.mode call.target with
  | error fault =>
      exact stepped_of_touched (.refl _ disk) away pending (by simp)
        ⟨mode, there⟩
  | ok adopted =>
      simp only [proceed]
      cases outcome : attempt mishap (disk.setMode call.neighbour adopted) with
      | ok after =>
          obtain ⟨touched, there⟩ :=
            Disk.touched_setMode there (attempt_eq_ok_iff.mp outcome).2
          exact stepped_of_touched touched away pending (by simp)
            ⟨adopted, there⟩
      | error fault =>
          exact stepped_of_touched (.refl _ disk) away pending (by simp)
            (by simp [Fits, there])

theorem stepped_rename (phase : call.phase = .rename)
    (fits : call.Fits (disk.nodeAt? call.neighbour))
    (apart : ∀ place, disk.locate call.neighbour = .ok place →
      disk.locate call.target ≠ .ok place) :
    Stepped mishap call disk (call.step mishap disk).1
      (call.step mishap disk).2 := by
  simp only [Fits, phase] at fits
  obtain ⟨mode, there⟩ := fits
  simp only [step, phase, proceed]
  cases outcome : attempt mishap (disk.rename call.neighbour call.target) with
  | ok after =>
      obtain ⟨rfl, renamed⟩ := attempt_eq_ok_iff.mp outcome
      have lands : call.lands none disk = true := by
        simp [Replacement.lands, phase, renamed, Except.toOption]
      obtain ⟨directories, gone, goal, arrives, here, others⟩ :=
        Disk.rename_spec there apart renamed
      refine
        { same := rfl
          directories
          elsewhere := ?_
          landed := fun _ => ⟨goal, mode, arrives, here⟩
          fits := gone
          success := by simp [lands]
          clean := fun _ _ => .inr (.inl gone) }
      intro place other target
      apply others place other
      rintro rfl
      exact target lands arrives
  | error fault =>
      have away : call.lands mishap disk = false := by
        cases mishap with
        | some mishap => simp [Replacement.lands, phase]
        | none =>
            change disk.rename call.neighbour call.target = .error fault
              at outcome
            simp [Replacement.lands, phase, outcome, Except.toOption]
      exact stepped_of_touched (.refl _ disk) away (by simp [phase]) (by simp)
        (by simp [Fits, there])

theorem stepped_remove {fault : FileFault} (phase : call.phase = .remove fault)
    (fits : call.Fits (disk.nodeAt? call.neighbour)) :
    Stepped mishap call disk (call.step mishap disk).1
      (call.step mishap disk).2 := by
  have away : call.lands mishap disk = false := by simp [lands, phase]
  simp only [Fits, phase] at fits
  simp only [step, phase]
  have removed := removed_spec mishap fits
  generalize (attempt mishap (disk.remove call.neighbour)).toOption.getD disk =
    after at removed
  obtain ⟨touched, cleaned⟩ := removed
  refine
    { same := rfl
      directories := touched.directories
      elsewhere := fun place other _ => touched.elsewhere place other
      landed := by simp [away]
      fits := ?_
      success := by simp [away, phase]
      clean := ?_ }
  · rcases cleaned with gone | ⟨-, rfl⟩
    · simp [Fits, gone]
    · exact fits
  · intro result _
    rcases cleaned with gone | ⟨spoilt, -⟩
    · exact .inr (.inl gone)
    · exact .inr (.inr ⟨spoilt, fault, phase⟩)

theorem step_spec (mishap : Option Mishap)
    (fits : call.Fits (disk.nodeAt? call.neighbour))
    (apart : ∀ place, disk.locate call.neighbour = .ok place →
      disk.locate call.target ≠ .ok place) :
    Stepped mishap call disk (call.step mishap disk).1
      (call.step mishap disk).2 := by
  cases phase : call.phase with
  | create => exact stepped_create phase fits
  | fill => exact stepped_fill phase fits
  | adopt => exact stepped_adopt phase fits
  | rename => exact stepped_rename phase fits apart
  | remove fault => exact stepped_remove phase fits
  | ended result =>
      have away : call.lands mishap disk = false := by simp [lands, phase]
      have stays : call.step mishap disk = (call, disk) := by
        simp only [step, phase]
      rw [stays]
      exact
        { same := rfl
          directories := .refl disk
          elsewhere := fun _ _ _ => rfl
          landed := by simp [away]
          fits
          success := by simp [away]
          clean := fun _ ended => .inl ⟨ended, rfl⟩ }

end Replacement

end LintMend
