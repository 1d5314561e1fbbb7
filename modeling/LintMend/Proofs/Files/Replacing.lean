import LintMend.Files.Replace
import LintMend.Proofs.Files.Disk

/-!
# What a replacement leaves

Whether a file may be replaced depends on its path and on the directories, not
on its content. A replacement leaves the directories as they are, so a file that
was replaced once may be replaced again, and it holds what it was given last.
-/

namespace LintMend.Disk

variable {disk old new : Disk} {path : Path} {place : Place} {content : Bytes}

/-- The path of the neighbour that takes the content of a file with that
name. -/
def neighbourOf (path : Path) (name : String) : Path :=
  path.withLast (Replacement.neighbourName soleStamp name)

/-- A path whose file, there or not, may be replaced through its neighbour. -/
structure MayReplace (disk : Disk) (path : Path) (place : Place) : Prop where
  target : disk.MayWrite path place
  neighbour : ∃ name hidden, path.fileName? = some name ∧
    disk.MayWrite (neighbourOf path name) hidden

theorem MayReplace.of_same (may : old.MayReplace path place)
    (same : SameDirectories old new) :
    new.MayReplace path place where
  target := may.target.of_same same
  neighbour :=
    have ⟨name, hidden, named, beside⟩ := may.neighbour
    ⟨name, hidden, named, beside.of_same same⟩

/-- A file gets the permissions of another one, if that exists. -/
def adopt (disk : Disk) (path neighbour : Path) : Except FileFault Disk :=
  match disk.mode path with
  | .ok mode => disk.setMode neighbour mode
  | .error _ => .ok disk

/-- The neighbour is created, filled and given the permissions of the target. -/
def prepare (disk : Disk) (path neighbour : Path) (content : Bytes) :
    Except FileFault Disk := do
  let created ← disk.write neighbour []
  let filled ← created.write neighbour content
  filled.adopt path neighbour

/-- The disk with what is at one place moved to another one. -/
def moved (disk : Disk) (place : Place) (node : Node) (goal : Place) : Disk :=
  { disk with
    nodes := put goal node (disk.nodes.filter fun (other, _) => other ≠ place) }

/-- The disk behind a replacement that has come to its end. -/
def ended : Replacement × Disk → Except FileFault Disk
  | ({ phase := .ended (.ok _), .. }, disk) => .ok disk
  | ({ phase := .ended (.error fault), .. }, _) => .error fault
  | _ => .error .busy

theorem replaceBytes_eq :
    disk.replaceBytes path content =
      Replacement.start soleStamp path content >>= fun call =>
        ended (call.steps Replacement.maxSteps disk) :=
  rfl

private theorem steps_ended (count : Nat) {call : Replacement}
    {result : Except FileFault Unit} (phase : call.phase = .ended result) :
    call.steps count disk = (call, disk) := by
  induction count with
  | zero => rfl
  | succ count induction =>
      rw [Replacement.steps, Replacement.step, phase]
      exact induction

/-- A replacement goes on behind a step that is done, and comes to nothing
behind one that fails. -/
private theorem ended_step (count : Nat) {call : Replacement}
    {next : ReplacementPhase} {outcome : Except FileFault Disk}
    (step : call.step none disk = call.proceed next disk outcome) :
    ended (call.steps (count + 2) disk) =
      outcome >>= fun after =>
        ended (Replacement.steps (count + 1)
            { call with phase := next } after) := by
  rw [Replacement.steps, step]
  cases outcome with
  | ok after => rfl
  | error fault =>
      simp only [Replacement.proceed, Replacement.steps, Replacement.step]
      rw [steps_ended count rfl]
      rfl

theorem replaceBytes_eq_ok_iff :
    disk.replaceBytes path content = .ok new ↔
      ∃ name, path.fileName? = some name ∧ ∃ ready,
        disk.prepare path (neighbourOf path name) content = .ok ready ∧
        ready.rename (neighbourOf path name) path = .ok new := by
  rw [replaceBytes_eq, Replacement.start]
  cases path.fileName? with
  | none => simp
  | some name =>
      rw [bind_eq_ok_iff]
      simp only [Except.ok.injEq, exists_eq_left', Option.some.injEq,
        Replacement.maxSteps, ← bind_eq_ok_iff, neighbourOf]
      generalize path.withLast (Replacement.neighbourName soleStamp name) =
        neighbour
      let call (phase : ReplacementPhase) : Replacement :=
        ⟨path, neighbour, content, phase⟩
      have create : ended ((call .create).steps 5 disk) =
          disk.write neighbour [] >>= fun created =>
            ended ((call .fill).steps 4 created) :=
        ended_step 3 rfl
      have fill (disk : Disk) : ended ((call .fill).steps 4 disk) =
          disk.write neighbour content >>= fun filled =>
            ended ((call .adopt).steps 3 filled) :=
        ended_step 2 rfl
      have rename (disk : Disk) : ended ((call .rename).steps 2 disk) =
          disk.rename neighbour path := by
        rw [ended_step 0 rfl]
        cases disk.rename neighbour path <;> rfl
      have adopt (disk : Disk) : ended ((call .adopt).steps 3 disk) =
          disk.adopt path neighbour >>= fun adopted =>
            adopted.rename neighbour path := by
        have stepped : (call .adopt).step none disk =
            match disk.mode path with
            | .ok mode =>
                (call .adopt).proceed .rename disk (disk.setMode neighbour mode)
            | .error _ => (call .rename, disk) :=
          rfl
        unfold Disk.adopt
        cases found : disk.mode path with
        | ok mode =>
            rw [found] at stepped
            rw [ended_step 1 stepped]
            exact congrArg _ (funext rename)
        | error fault =>
            rw [found] at stepped
            rw [Replacement.steps, stepped]
            exact rename disk
      rw [create]
      simp only [fill, adopt, prepare, bind_assoc]

/-! ## One step after another -/

/-- A file that is given the permissions of another one. -/
private theorem adopt_eq_ok {neighbour : Path} {hidden : Place} {mode : Nat}
    (path : Path) (beside : disk.MayWrite neighbour hidden)
    (file : disk.node? hidden = some (.file mode content)) :
    ∃ mode after, disk.adopt path neighbour = .ok after ∧
      SameDirectories disk after ∧
      after.node? hidden = some (.file mode content) := by
  unfold adopt
  cases disk.mode path with
  | error fault => exact ⟨mode, disk, rfl, .refl disk, file⟩
  | ok mode =>
      have found : disk.find neighbour = .ok (hidden, .file _ content) :=
        find_eq_ok_iff.mpr ⟨beside.located, file, by simp [beside.isFile]⟩
      refine ⟨mode, disk.set hidden (.file mode content), ?_,
        sameDirectories_set_file beside.free mode content, ?_⟩
      · simp only [setMode, found, ok_bind]
        rfl
      · rw [node?_set_file beside.free, if_pos rfl]

theorem lookup_filter_ne (place other : Place) (nodes : List (Place × Node)) :
    (nodes.filter fun (found, _) => found ≠ place).lookup other =
      if other = place then none else nodes.lookup other := by
  have kept := lookup_filter (fun found => decide (found ≠ place)) other nodes
  refine kept.trans ?_
  by_cases same : other = place <;> simp [same]

/-- What may be written at a path may be moved there. -/
theorem rename_eq_ok_iff {source target : Path} :
    disk.rename source target = .ok new ↔
      ∃ place node goal, disk.find source = .ok (place, node) ∧
      disk.MayWrite target goal ∧
        disk.moved place node goal = new := by
  unfold rename
  rw [bind_eq_ok_iff]
  constructor
  · rintro ⟨⟨place, node⟩, found, renamed⟩
    obtain ⟨goal, located, renamed⟩ := bind_eq_ok_iff.mp renamed
    split_ifs at renamed with dotted directory
    split at renamed
    next => cases renamed
    next free =>
      refine ⟨place, node, goal, found, ⟨located, ?_, by simpa using directory⟩,
        Except.ok.inj renamed⟩
      rintro ⟨mode, there⟩
      exact free mode there
  · rintro ⟨place, node, goal, found, may, rfl⟩
    refine ⟨(place, node), found, bind_eq_ok_iff.mpr ⟨goal, may.located, ?_⟩⟩
    have plain : target.text.endsWith "/." = false := by
      have isFile := may.isFile
      unfold wantsDirectory at isFile
      exact (Bool.or_eq_false_iff.mp isFile).2
    rw [if_neg (by simp [plain]), if_neg (by simp [may.isFile])]
    split
    next mode there => exact absurd ⟨mode, there⟩ may.free
    next => rfl

theorem node?_moved {goal : Place} {node : Node} (leaves : place ≠ [])
    (arrives : goal ≠ []) (other : Place) :
    (disk.moved place node goal).node? other =
      if other = goal then some node else if other = place then none
      else disk.node? other := by
  by_cases root : other = []
  · subst root
    rw [if_neg arrives.symm, if_neg leaves.symm]
    rfl
  · have named : other.isEmpty = false := by simpa using root
    simp only [node?, moved, named, Bool.false_eq_true, if_false, lookup_put,
      lookup_filter_ne]

theorem sameDirectories_moved {goal : Place}
    (leaves : ¬ disk.HasDirectory place) (arrives : ¬ disk.HasDirectory goal)
    (mode : Nat) (content : Bytes) :
    SameDirectories disk (disk.moved place (.file mode content) goal) := by
  refine sameDirectories_of_iff rfl fun other => ?_
  unfold HasDirectory
  rw [node?_moved (ne_root_of_free leaves) (ne_root_of_free arrives)]
  split_ifs with there left
  · subst there
    exact ⟨by simp, fun found => absurd found arrives⟩
  · subst left
    exact ⟨by simp, fun found => absurd found leaves⟩
  · rfl

private theorem prepare_eq_ok {neighbour : Path} {hidden : Place}
    (beside : disk.MayWrite neighbour hidden) (path : Path) (content : Bytes) :
    ∃ mode ready, disk.prepare path neighbour content = .ok ready ∧
      SameDirectories disk ready ∧
      ready.node? hidden = some (.file mode content) := by
  have creating : disk.write neighbour [] = .ok (disk.withFile hidden []) :=
    write_eq_ok_iff.mpr ⟨hidden, beside, rfl⟩
  have created := sameDirectories_withFile beside.free []
  have besideCreated := beside.of_same created
  have filling := write_eq_ok_iff.mpr
    ⟨hidden, besideCreated, (rfl : withFile _ _ content = _)⟩
  have filled := sameDirectories_withFile besideCreated.free content
  obtain ⟨mode, ready, adopting, adopted, found⟩ := adopt_eq_ok path
    (besideCreated.of_same filled)
    ((node?_set_file besideCreated.free _ content hidden).trans (if_pos rfl))
  refine ⟨mode, ready, ?_, created.trans (filled.trans adopted), found⟩
  rw [prepare, creating]
  simp [filling, adopting]

/-- What a replacement does, where it is possible. -/
theorem replaceBytes_of_mayReplace (may : disk.MayReplace path place)
    (content : Bytes) :
    ∃ mode after, disk.replaceBytes path content = .ok after ∧
      SameDirectories disk after ∧
      after.node? place = some (.file mode content) := by
  obtain ⟨name, hidden, named, beside⟩ := may.neighbour
  obtain ⟨mode, ready, prepared, same, found⟩ :=
    prepare_eq_ok beside path content
  have hides := beside.of_same same
  have target := may.target.of_same same
  refine ⟨mode, ready.moved hidden (.file mode content) place, ?_,
    same.trans (sameDirectories_moved hides.free target.free mode content), ?_⟩
  · have taken : ready.find (neighbourOf path name) =
        .ok (hidden, .file mode content) :=
      find_eq_ok_iff.mpr ⟨hides.located, found, by simp [hides.isFile]⟩
    exact replaceBytes_eq_ok_iff.mpr ⟨name, named, ready, prepared,
      rename_eq_ok_iff.mpr ⟨hidden, _, place, taken, target, rfl⟩⟩
  · rw [node?_moved (ne_root_of_free hides.free) (ne_root_of_free target.free),
      if_pos rfl]

theorem mayReplace_of_replaceBytes
    (replaced : disk.replaceBytes path content = .ok new) :
    ∃ place, disk.MayReplace path place := by
  obtain ⟨name, named, ready, prepared, renamed⟩ :=
    replaceBytes_eq_ok_iff.mp replaced
  obtain ⟨_, creating, -⟩ := bind_eq_ok_iff.mp prepared
  obtain ⟨hidden, beside, -⟩ := write_eq_ok_iff.mp creating
  obtain ⟨_, again, preparedAgain, same, -⟩ := prepare_eq_ok beside path content
  obtain rfl := Except.ok.inj (prepared.symm.trans preparedAgain)
  obtain ⟨_, _, place, -, target, -⟩ := rename_eq_ok_iff.mp renamed
  exact ⟨place, target.of_same same.symm, name, hidden, named, beside⟩

end LintMend.Disk
