import Mathlib
import LintMend.Proofs.Files.Steps
import LintMend.Proofs.Path.Steps
import LintMend.Proofs.Text.Digits

/-!
# Replacements at the same time

Any number of replacements take their steps by turns on one disk, in whatever
order, and any step may go wrong. The name of a neighbour tells the stamp of its
replacement, so no two replacements share one, and what is renamed to a target
is what its own replacement has filled in. A target therefore holds what landed
there last, as a whole, or what it held at the start.
-/

namespace LintMend

namespace Replacement

/-! ## The names of neighbours -/

theorem toList_neighbourName (stamp : Stamp) (name : String) :
    (neighbourName stamp name).toList =
      (('.' :: name.toList ++ ".lintpilot".toList) ++ '-' ::
        Nat.toDigits 10 stamp.process) ++
        '-' :: Nat.toDigits 10 stamp.number := by
  simp [neighbourName]
  rfl

private theorem dash_not_mem_toDigits (n : Nat) : '-' ∉ Nat.toDigits 10 n := by
  intro member
  have digit := (Text.digits_toDigits n).digits '-' member
  cases digit

/-- Digits behind the last dash are told from the whole. -/
private theorem cut_digits {left right : Text} {m n : Nat}
    (same : left ++ '-' :: Nat.toDigits 10 m =
      right ++ '-' :: Nat.toDigits 10 n) :
    left = right ∧ m = n := by
  have digits : Nat.toDigits 10 m = Nat.toDigits 10 n := by
    have last := congrArg (Text.afterLast '-') same
    rwa [Text.afterLast_append, Text.afterLast_append,
      Text.afterLast_of_not_mem (dash_not_mem_toDigits m),
      Text.afterLast_of_not_mem (dash_not_mem_toDigits n)] at last
  rw [digits] at same
  refine ⟨List.append_cancel_right same, ?_⟩
  rw [← (Text.digits_toDigits m).value, digits, (Text.digits_toDigits n).value]

/-- The name of a neighbour tells the stamp of its replacement. -/
theorem stamp_of_neighbourName {left right : Stamp} {name other : String}
    (same : neighbourName left name = neighbourName right other) :
    left = right := by
  have texts := congrArg String.toList same
  rw [toList_neighbourName, toList_neighbourName] at texts
  obtain ⟨front, number⟩ := cut_digits texts
  obtain ⟨-, process⟩ := cut_digits front
  cases left
  cases right
  exact (Stamp.mk.injEq ..).mpr ⟨process, number⟩

private theorem slash_not_mem_neighbourName (stamp : Stamp) {name : String}
    (clean : '/' ∉ name.toList) : '/' ∉ (neighbourName stamp name).toList := by
  have digits (n : Nat) : '/' ∉ Nat.toDigits 10 n := by
    intro member
    have digit := (Text.digits_toDigits n).digits '/' member
    cases digit
  simp [toList_neighbourName, clean, digits]

@[simp]
private theorem ofPiece?_neighbourName (stamp : Stamp) (name : String) :
    Path.ofPiece? (neighbourName stamp name).toList =
      some (.name (neighbourName stamp name)) := by
  have long : 2 < (neighbourName stamp name).toList.length := by
    simp [toList_neighbourName]
    omega
  unfold Path.ofPiece?
  rw [if_neg, if_neg, String.ofList_toList]
  · intro dots
    simp [dots] at long
  · rintro (empty | dot)
    · simp [empty] at long
    · simp [dot] at long

theorem fileName?_neighbour (stamp : Stamp) {target : Path} {name : String}
    (named : target.fileName? = some name) :
    (target.withLast (neighbourName stamp name)).fileName? =
      some (neighbourName stamp name) :=
  Path.fileName?_withLast target
    (slash_not_mem_neighbourName stamp (Path.not_mem_of_fileName? named))
    (ofPiece?_neighbourName stamp name)

end Replacement

/-- The place that a path leads to has the file name of the path as its last
name. -/
theorem Disk.getLast?_of_locate {disk : Disk} {path : Path} {place : Place}
    {name : String} (located : disk.locate path = .ok place)
    (named : path.fileName? = some name) :
    place.getLast? = some name := by
  obtain ⟨steps, components⟩ :=
    List.getLast?_eq_some_iff.mp (Path.fileName?_eq_some.mp named)
  rw [← placeOf_of_locate located, placeOf, components,
    List.foldl_concat, follow]
  exact List.getLast?_concat

namespace Disk

/-- The content of the file at a place. -/
def content? (disk : Disk) (place : Place) : Option Bytes :=
  (disk.file? place).map Prod.snd

def leads (disk : Disk) (path : Path) (place : Place) : Bool :=
  (disk.locate path).toOption = some place

theorem leads_iff {disk : Disk} {path : Path} {place : Place} :
    disk.leads path place = true ↔ disk.locate path = .ok place := by
  unfold leads
  cases disk.locate path <;> simp [Except.toOption]

end Disk

/-! ## Replacements by turns -/

/-- A content for a target, and the stamp of the replacement that is to bring it
there. -/
structure Request where
  stamp : Stamp
  target : Path
  content : Bytes

/-- The replacement as it starts; a target without a file name is refused at
once. -/
def Request.call (request : Request) : Except FileFault Replacement :=
  Replacement.start request.stamp request.target request.content

/-- Replacements under way on one disk. -/
structure Race (ι : Type) where
  calls : ι → Except FileFault Replacement
  disk : Disk

namespace Race

variable {ι : Type}

def start (requests : ι → Request) (disk : Disk) : Race ι :=
  { calls := fun i => (requests i).call, disk }

/-- One of the replacements takes its next step. -/
def turn [DecidableEq ι] (race : Race ι) (move : ι × Option Mishap) : Race ι :=
  match race.calls move.1 with
  | .error _ => race
  | .ok call =>
    let (call, disk) := call.step move.2 race.disk
    { calls := Function.update race.calls move.1 (.ok call), disk }

/-- Some turns one after another, as far as they come. -/
def after [DecidableEq ι] (race : Race ι)
    (schedule : List (ι × Option Mishap)) : Race ι :=
  schedule.foldl turn race

def lands (race : Race ι) (move : ι × Option Mishap) : Bool :=
  match race.calls move.1 with
  | .error _ => false
  | .ok call => call.lands move.2 race.disk

/-- The replacements whose content lands, one after another. -/
def landings [DecidableEq ι] (race : Race ι) : List (ι × Option Mishap) → List ι
  | [] => []
  | move :: schedule =>
    (if race.lands move then [move.1] else []) ++
      (race.turn move).landings schedule

/-- The next step of a replacement cleans up behind a failure. -/
def removing (race : Race ι) (i : ι) : Bool :=
  match race.calls i with
  | .error _ => false
  | .ok call =>
    match call.phase with
    | .remove _ => true
    | _ => false

/-- What a replacement has come to. -/
def result? (race : Race ι) (i : ι) : Option (Except FileFault Unit) :=
  match race.calls i with
  | .error fault => some (.error fault)
  | .ok call =>
    match call.phase with
    | .ended result => some result
    | _ => none

section

variable [DecidableEq ι]

theorem after_concat (race : Race ι) (schedule : List (ι × Option Mishap))
    (move : ι × Option Mishap) :
    race.after (schedule ++ [move]) = (race.after schedule).turn move :=
  List.foldl_concat ..

theorem landings_concat (race : Race ι) (schedule : List (ι × Option Mishap))
    (move : ι × Option Mishap) :
    race.landings (schedule ++ [move]) =
      race.landings schedule ++
        if (race.after schedule).lands move then [move.1] else [] := by
  induction schedule generalizing race with
  | nil => exact List.append_nil _
  | cons first schedule induction =>
      rw [List.cons_append, landings, landings, induction, List.append_assoc]
      rfl

theorem calls_turn_self {race : Race ι} {move : ι × Option Mishap}
    {call : Replacement} (there : race.calls move.1 = .ok call) :
    (race.turn move).calls move.1 = .ok (call.step move.2 race.disk).1 := by
  simp [turn, there]

theorem calls_turn_other (race : Race ι) {move : ι × Option Mishap} {i : ι}
    (other : i ≠ move.1) :
    (race.turn move).calls i = race.calls i := by
  unfold turn
  split
  · rfl
  · exact Function.update_of_ne other ..

/-- After a turn a call has taken its step, or is as it was. -/
theorem calls_turn {race : Race ι} {move : ι × Option Mishap} {i : ι}
    {next : Replacement} (there : (race.turn move).calls i = .ok next) :
    (∃ call, i = move.1 ∧ race.calls i = .ok call ∧
      next = (call.step move.2 race.disk).1 ∧
      (race.turn move).disk = (call.step move.2 race.disk).2) ∨
    i ≠ move.1 ∧ race.calls i = .ok next := by
  by_cases same : i = move.1
  · subst same
    cases before : race.calls move.1 with
    | error fault =>
        simp only [turn, before] at there
        cases there
    | ok call =>
        rw [calls_turn_self before] at there
        refine .inl ⟨call, rfl, rfl, (Except.ok.inj there).symm, ?_⟩
        simp only [turn, before]
  · rw [race.calls_turn_other same] at there
    exact .inr ⟨same, there⟩

/-- A turn is the step of a call, or nothing if the call was refused. -/
theorem disk_turn (race : Race ι) (move : ι × Option Mishap) :
    (∃ call, race.calls move.1 = .ok call ∧
      (race.turn move).disk = (call.step move.2 race.disk).2) ∨
    (∃ fault, race.calls move.1 = .error fault) ∧ race.turn move = race := by
  unfold turn
  cases race.calls move.1 with
  | error fault => exact .inr ⟨⟨fault, rfl⟩, rfl⟩
  | ok call => exact .inl ⟨call, rfl, rfl⟩

end

/-! ## What every turn keeps -/

/-- Nobody else has to do with the neighbours: the stamps differ, no target
is where a neighbour would be, and there is nothing at the start. -/
structure Undisturbed (requests : ι → Request) (disk : Disk) : Prop where
  stamps : Function.Injective fun i => (requests i).stamp
  targets : ∀ i j call place, (requests i).call = .ok call →
    disk.locate call.neighbour = .ok place →
    disk.locate (requests j).target ≠ .ok place
  unused : ∀ i call, (requests i).call = .ok call →
    disk.exists? call.neighbour = false

/-- How a race stands after some turns: every call serves its request, its
neighbour holds what its phase says, and all directories are as they were. -/
structure Orderly (requests : ι → Request) (disk : Disk)
    (race : Race ι) : Prop where
  serves : ∀ i call, race.calls i = .ok call →
    (requests i).call = .ok { call with phase := .create }
  directories : Disk.SameDirectories disk race.disk
  fits : ∀ i call, race.calls i = .ok call →
    call.Fits (race.disk.nodeAt? call.neighbour)

/-- A request that is not refused names its target and its content, and its
neighbour bears its stamp. -/
theorem spec_of_call {request : Request} {call : Replacement}
    (started : request.call = .ok call) :
    call.target = request.target ∧ call.content = request.content ∧
    call.phase = .create ∧
      ∃ name, call.neighbour.fileName? =
        some (Replacement.neighbourName request.stamp name) := by
  unfold Request.call Replacement.start at started
  split at started
  next => cases started
  next name named =>
    obtain rfl := Except.ok.inj started
    exact ⟨rfl, rfl, rfl, name,
      Replacement.fileName?_neighbour request.stamp named⟩

theorem orderly_start {requests : ι → Request} {disk : Disk}
    (undisturbed : Undisturbed requests disk) :
    (start requests disk).Orderly requests disk where
  serves i call started := by
    obtain ⟨target, neighbour, content, phase⟩ := call
    obtain ⟨-, -, rfl, -⟩ := spec_of_call started
    exact started
  directories := .refl disk
  fits i call started := by
    obtain ⟨-, -, phase, -⟩ := spec_of_call started
    simp only [Replacement.Fits, phase]
    exact Disk.nodeAt?_eq_none.mpr (undisturbed.unused i call started)

section

variable {requests : ι → Request} {disk : Disk} {race : Race ι}
  (undisturbed : Undisturbed requests disk)
  (orderly : race.Orderly requests disk)

include orderly

theorem Orderly.target {i : ι} {call : Replacement}
    (there : race.calls i = .ok call) :
    call.target = (requests i).target :=
  (spec_of_call (orderly.serves i call there)).1

theorem Orderly.content {i : ι} {call : Replacement}
    (there : race.calls i = .ok call) :
    call.content = (requests i).content :=
  (spec_of_call (orderly.serves i call there)).2.1

include undisturbed

/-- No neighbour is at the place of a target. -/
theorem Orderly.not_target {i j : ι} {call : Replacement}
    (there : race.calls i = .ok call) {place : Place}
    (hidden : race.disk.locate call.neighbour = .ok place) :
    race.disk.locate (requests j).target ≠ .ok place := by
  intro located
  exact undisturbed.targets i j _ place (orderly.serves i call there)
    (orderly.directories.back.locate hidden)
    (orderly.directories.back.locate located)

/-- No two neighbours are at one place. -/
theorem Orderly.not_neighbour {i j : ι} (different : i ≠ j)
    {call other : Replacement} (there : race.calls i = .ok call)
    (elsewhere : race.calls j = .ok other) {place : Place}
    (hidden : race.disk.locate call.neighbour = .ok place) :
    race.disk.locate other.neighbour ≠ .ok place := by
  intro located
  obtain ⟨-, -, -, name, named⟩ := spec_of_call (orderly.serves i call there)
  obtain ⟨-, -, -, nickname, known⟩ :=
    spec_of_call (orderly.serves j other elsewhere)
  have last := Disk.getLast?_of_locate hidden named
  rw [Disk.getLast?_of_locate located known] at last
  have same := Replacement.stamp_of_neighbourName (Option.some.inj last)
  exact different (undisturbed.stamps same).symm

/-- What the step of a call does. -/
theorem Orderly.stepped {i : ι} {call : Replacement}
    (there : race.calls i = .ok call) (mishap : Option Mishap) :
    Replacement.Stepped mishap call race.disk (call.step mishap race.disk).1
      (call.step mishap race.disk).2 := by
  apply Replacement.step_spec mishap (orderly.fits i call there)
  intro place hidden
  rw [orderly.target there]
  exact orderly.not_target undisturbed there hidden

end

section

variable [DecidableEq ι] {requests : ι → Request} {disk : Disk} {race : Race ι}

/-- A turn of another call leaves a neighbour as it is. -/
theorem Orderly.nodeAt?_turn (orderly : race.Orderly requests disk)
    (undisturbed : Undisturbed requests disk) {i : ι} {call : Replacement}
    (there : race.calls i = .ok call) {move : ι × Option Mishap}
    (other : i ≠ move.1) :
    (race.turn move).disk.nodeAt? call.neighbour =
      race.disk.nodeAt? call.neighbour := by
  rcases race.disk_turn move with ⟨moving, before, disk⟩ | ⟨-, same⟩
  · have stepped := orderly.stepped undisturbed before move.2
    rw [disk]
    refine Disk.nodeAt?_congr stepped.directories fun place hidden => ?_
    apply stepped.elsewhere
    · exact orderly.not_neighbour undisturbed other there before hidden
    · intro _
      rw [orderly.target before]
      exact orderly.not_target undisturbed there hidden
  · rw [same]

/-- A turn of one call leaves the neighbours of all others fitting. -/
theorem Orderly.turn (orderly : race.Orderly requests disk)
    (undisturbed : Undisturbed requests disk) (move : ι × Option Mishap) :
    (race.turn move).Orderly requests disk := by
  refine ⟨?_, ?_, ?_⟩
  · intro i next there
    rcases calls_turn there with ⟨call, -, before, rfl, -⟩ | ⟨-, before⟩
    · rw [(orderly.stepped undisturbed before move.2).same]
      exact orderly.serves i call before
    · exact orderly.serves i next before
  · rcases race.disk_turn move with ⟨call, before, disk⟩ | ⟨-, same⟩
    · rw [disk]
      exact orderly.directories.trans
        (orderly.stepped undisturbed before move.2).directories
    · rw [same]
      exact orderly.directories
  · intro i next there
    rcases calls_turn there with ⟨call, -, before, rfl, disk⟩ | ⟨other, before⟩
    · have stepped := orderly.stepped undisturbed before move.2
      have beside : (call.step move.2 race.disk).1.neighbour =
          call.neighbour := by
        rw [stepped.same]
      rw [disk, beside]
      exact stepped.fits
    · rw [orderly.nodeAt?_turn undisturbed before other]
      exact orderly.fits i next before

theorem orderly_after (undisturbed : Undisturbed requests disk)
    (schedule : List (ι × Option Mishap)) :
    ((start requests disk).after schedule).Orderly requests disk := by
  induction schedule using List.reverseRecOn with
  | nil => exact orderly_start undisturbed
  | append_singleton schedule move induction =>
      rw [after_concat]
      exact induction.turn undisturbed move

/-! ## What lands -/

omit [DecidableEq ι] in
theorem lands_iff {i : ι} {mishap : Option Mishap} :
    race.lands (i, mishap) = true ↔
      ∃ call, race.calls i = .ok call ∧ call.lands mishap race.disk = true := by
  unfold lands
  cases race.calls i <;> simp

omit [DecidableEq ι] in
theorem result?_eq_ok_iff {i : ι} :
    race.result? i = some (.ok ()) ↔
      ∃ call, race.calls i = .ok call ∧ call.phase = .ended (.ok ()) := by
  unfold result?
  cases race.calls i with
  | error fault => simp
  | ok call => cases phase : call.phase <;> simp [phase]

/-- A call ends well with its landing. -/
theorem Orderly.result?_turn (orderly : race.Orderly requests disk)
    (undisturbed : Undisturbed requests disk)
    (move : ι × Option Mishap) (i : ι) :
    (race.turn move).result? i = some (.ok ()) ↔
      race.result? i = some (.ok ()) ∨ race.lands move = true ∧ i = move.1 := by
  obtain ⟨j, mishap⟩ := move
  rw [result?_eq_ok_iff, result?_eq_ok_iff, lands_iff]
  by_cases same : i = j
  · subst same
    cases before : race.calls i with
    | error fault =>
        have refused : race.turn (i, mishap) = race := by
          simp only [Race.turn, before]
        simp [refused, before]
    | ok call =>
        have success := (orderly.stepped undisturbed before mishap).success
        have stepped : (race.turn (i, mishap)).calls i =
            .ok (call.step mishap race.disk).1 :=
          calls_turn_self before
        rw [stepped]
        simp [success, or_comm]
  · rw [race.calls_turn_other same]
    simp [same]

omit [DecidableEq ι] in
/-- What lands has not come to an end before. -/
theorem not_ended_of_lands {move : ι × Option Mishap}
    (lands : race.lands move = true) :
    race.result? move.1 ≠ some (.ok ()) := by
  obtain ⟨call, before, lands⟩ := lands_iff.mp lands
  rw [Ne, result?_eq_ok_iff]
  rintro ⟨other, there, phase⟩
  obtain rfl := Except.ok.inj (before.symm.trans there)
  simp [Replacement.lands, phase] at lands

/-- The calls that end well are those that land, and each lands once. -/
theorem landings_spec (undisturbed : Undisturbed requests disk)
    (schedule : List (ι × Option Mishap)) :
    ((start requests disk).landings schedule).Nodup ∧
      ∀ i, ((start requests disk).after schedule).result? i = some (.ok ()) ↔
        i ∈ (start requests disk).landings schedule := by
  induction schedule using List.reverseRecOn with
  | nil =>
      refine ⟨List.nodup_nil, fun i => ?_⟩
      have fresh : (start requests disk).result? i ≠ some (.ok ()) := by
        rw [Ne, result?_eq_ok_iff]
        rintro ⟨call, started, phase⟩
        rw [(spec_of_call started).2.2.1] at phase
        cases phase
      exact iff_of_false fresh List.not_mem_nil
  | append_singleton schedule move induction =>
      obtain ⟨once, landed⟩ := induction
      have orderly := orderly_after undisturbed schedule
      rw [after_concat, landings_concat]
      constructor
      · split
        next lands =>
          refine List.nodup_append.mpr ⟨once, List.pairwise_singleton _ _,
            fun i before j here => ?_⟩
          obtain rfl := List.mem_singleton.mp here
          rintro rfl
          exact not_ended_of_lands lands ((landed _).mpr before)
        next => rwa [List.append_nil]
      · intro i
        rw [orderly.result?_turn undisturbed, List.mem_append, landed]
        split
        next lands => simp [lands]
        next away => simp [away]

theorem exists_of_mem_landings {i : ι} {schedule : List (ι × Option Mishap)}
    (landed : i ∈ race.landings schedule) :
    ∃ front mishap rest, schedule = front ++ (i, mishap) :: rest ∧
      (race.after front).lands (i, mishap) = true := by
  induction schedule generalizing race with
  | nil => cases landed
  | cons move schedule induction =>
      rw [landings, List.mem_append] at landed
      rcases landed with here | later
      · split at here
        next lands =>
          obtain rfl := List.mem_singleton.mp here
          exact ⟨[], move.2, schedule, rfl, lands⟩
        next => cases here
      · obtain ⟨front, mishap, rest, cut, lands⟩ := induction later
        exact ⟨move :: front, mishap, rest, by rw [cut]; rfl, lands⟩

/-- What lands is renamed as a whole from the neighbour to the target. -/
theorem Orderly.renames (orderly : race.Orderly requests disk) {i : ι}
    {mishap : Option Mishap} (lands : race.lands (i, mishap) = true) :
    mishap = none ∧ ∃ call, race.calls i = .ok call ∧
      race.disk.readBytes call.neighbour = .ok (requests i).content ∧
      race.disk.rename call.neighbour (requests i).target =
        .ok (race.turn (i, none)).disk := by
  obtain ⟨call, there, lands⟩ := lands_iff.mp lands
  obtain ⟨phase, rfl, after, renamed⟩ := Replacement.lands_iff.mp lands
  have fits := orderly.fits i call there
  simp only [Replacement.Fits, phase] at fits
  obtain ⟨mode, holds⟩ := fits
  refine ⟨rfl, call, there, ?_, ?_⟩
  · rw [← orderly.content there]
    exact Disk.readBytes_of_nodeAt? holds
  · rw [← orderly.target there, renamed]
    simp only [Race.turn, there, Replacement.step, phase,
      Replacement.attempt, renamed, Replacement.proceed]

/-! ## What is left -/

omit [DecidableEq ι] in
theorem removing_of_phase {i : ι} {call : Replacement}
    (there : race.calls i = .ok call) {fault : FileFault}
    (phase : call.phase = .remove fault) : race.removing i = true := by
  simp only [removing, there, phase]

/-- A call that has come to its end leaves no neighbour, unless the cleaning up
was spoilt. -/
theorem nodeAt?_of_ended (undisturbed : Undisturbed requests disk)
    (schedule : List (ι × Option Mishap)) {i : ι} {call : Replacement}
    {result : Except FileFault Unit}
    (there : ((start requests disk).after schedule).calls i = .ok call)
    (ended : call.phase = .ended result)
    (unspoilt : ∀ front mishap rest,
      schedule = front ++ (i, some mishap) :: rest →
      ((start requests disk).after front).removing i = false) :
    ((start requests disk).after schedule).disk.nodeAt? call.neighbour =
      none := by
  induction schedule using List.reverseRecOn generalizing call with
  | nil =>
      rw [(spec_of_call there).2.2.1] at ended
      cases ended
  | append_singleton schedule move induction =>
      have orderly := orderly_after undisturbed schedule
      have before : ∀ front mishap rest,
          schedule = front ++ (i, some mishap) :: rest →
          ((start requests disk).after front).removing i = false := by
        intro front mishap rest cut
        apply unspoilt front mishap (rest ++ [move])
        rw [cut, List.append_assoc, List.cons_append]
      rw [after_concat] at there ⊢
      rcases calls_turn there with ⟨moving, rfl, found, rfl, left⟩ |
        ⟨other, found⟩
      · have stepped := orderly.stepped undisturbed found move.2
        have beside : (moving.step move.2
              ((start requests disk).after schedule).disk).1.neighbour =
            moving.neighbour := by
          rw [stepped.same]
        rw [left, beside]
        rcases stepped.clean result ended with
          ⟨already, same⟩ | gone | ⟨spoilt, fault, phase⟩
        · rw [same]
          exact induction found already before
        · exact gone
        · obtain ⟨mishap, spoils⟩ := Option.ne_none_iff_exists'.mp spoilt
          have kept := unspoilt schedule mishap [] (by rw [← spoils])
          rw [removing_of_phase found phase] at kept
          cases kept
      · rw [orderly.nodeAt?_turn undisturbed found other]
        exact induction found ended before

/-! ## What the targets hold -/

omit [DecidableEq ι] in
theorem content?_of_node? {old new : Disk} {place : Place}
    (same : new.node? place = old.node? place) :
    new.content? place = old.content? place := by
  simp only [Disk.content?, Disk.file?, same]

/-- Where no neighbour is, a turn leaves the content, or puts there what
lands. -/
theorem Orderly.content?_turn (orderly : race.Orderly requests disk)
    (undisturbed : Undisturbed requests disk) {place : Place}
    (visible : ∀ i call, race.calls i = .ok call →
      race.disk.locate call.neighbour ≠ .ok place)
    (move : ι × Option Mishap) :
    (race.turn move).disk.content? place =
      if race.lands move && disk.leads (requests move.1).target place then
        some (requests move.1).content
      else race.disk.content? place := by
  obtain ⟨i, mishap⟩ := move
  rcases race.disk_turn (i, mishap) with
    ⟨call, before, left⟩ | ⟨⟨fault, refused⟩, same⟩
  · have stepped := orderly.stepped undisturbed before mishap
    have lands : race.lands (i, mishap) = call.lands mishap race.disk := by
      simp only [Race.lands, before]
    have back {goal : Place} (located : race.disk.locate call.target =
          .ok goal) :
        disk.locate (requests i).target = .ok goal := by
      rw [orderly.target before] at located
      exact orderly.directories.back.locate located
    rw [left, lands]
    split
    next arrives =>
      obtain ⟨landing, leads⟩ := Bool.and_eq_true_iff.mp arrives
      obtain ⟨goal, mode, located, there⟩ := stepped.landed landing
      obtain rfl :=
        Except.ok.inj ((back located).symm.trans (Disk.leads_iff.mp leads))
      rw [Disk.content?, Disk.file?_eq_some.mpr there, orderly.content before]
      rfl
    next away =>
      apply content?_of_node?
      apply stepped.elsewhere place (visible i call before)
      intro landing located
      exact away (Bool.and_eq_true_iff.mpr
          ⟨landing, Disk.leads_iff.mpr (back located)⟩)
  · have away : race.lands (i, mishap) = false := by
      simp only [Race.lands, refused]
    rw [same, away, Bool.false_and]
    rfl

/-- Where no neighbour is, the last content that landed is held, or what was
there before. -/
theorem content?_after (undisturbed : Undisturbed requests disk) {place : Place}
    (visible : ∀ i call, (requests i).call = .ok call →
      disk.locate call.neighbour ≠ .ok place)
    (schedule : List (ι × Option Mishap)) :
    ((start requests disk).after schedule).disk.content? place =
      (((start requests disk).landings schedule).filter fun i =>
        disk.leads (requests i).target place).getLast?.elim
      (disk.content? place)
          fun i => some (requests i).content := by
  induction schedule using List.reverseRecOn with
  | nil => rfl
  | append_singleton schedule move induction =>
      have orderly := orderly_after undisturbed schedule
      have hidden : ∀ i call,
          ((start requests disk).after schedule).calls i = .ok call →
          ((start requests disk).after schedule).disk.locate call.neighbour ≠
            .ok place := by
        intro i call there located
        exact visible i _ (orderly.serves i call there)
          (orderly.directories.back.locate located)
      rw [after_concat, landings_concat,
        orderly.content?_turn undisturbed hidden, induction]
      cases lands : ((start requests disk).after schedule).lands move with
      | false => simp
      | true =>
          cases leads : disk.leads (requests move.1).target place with
          | false => simp [leads]
          | true => simp [leads]

/-- Replacements are atomic, however their steps take turns and whatever goes
wrong with them, at every moment. Each target holds as a whole the content of
the replacement that landed there last, or what it held at the start. The
replacements that land are those that report success, each once: it has renamed
to the target a neighbour with the whole of its own content. And one that has
come to its end, with success or not, has left no neighbour, unless the removal
itself was spoilt. -/
theorem replacements_are_atomic (undisturbed : Undisturbed requests disk)
    (schedule : List (ι × Option Mishap)) :
    let race := (start requests disk).after schedule
    let landed := (start requests disk).landings schedule
    (∀ i place, disk.locate (requests i).target = .ok place →
      race.disk.content? place =
        (landed.filter fun j =>
          disk.leads (requests j).target place).getLast?.elim
          (disk.content? place) fun j => some (requests j).content) ∧
    landed.Nodup ∧ (∀ i, race.result? i = some (.ok ()) ↔ i ∈ landed) ∧
    (∀ i ∈ landed, ∃ front rest call, schedule = front ++ (i, none) :: rest ∧
      let before := (start requests disk).after front
      before.calls i = .ok call ∧
      before.disk.readBytes call.neighbour = .ok (requests i).content ∧
      before.disk.rename call.neighbour (requests i).target =
        .ok ((start requests disk).after (front ++ [(i, none)])).disk) ∧
    ∀ i call, race.calls i = .ok call → race.result? i ≠ none →
      (∀ front mishap rest, schedule = front ++ (i, some mishap) :: rest →
        ((start requests disk).after front).removing i = false) →
      race.disk.exists? call.neighbour = false := by
  intro race landed
  obtain ⟨once, succeeded⟩ := landings_spec undisturbed schedule
  refine ⟨?_, once, succeeded, ?_, ?_⟩
  · intro i place located
    refine content?_after undisturbed (fun j call started hidden => ?_) schedule
    exact undisturbed.targets j i call place started hidden located
  · intro i member
    obtain ⟨front, mishap, rest, cut, lands⟩ := exists_of_mem_landings member
    obtain ⟨rfl, call, there, holds, renamed⟩ :=
      (orderly_after undisturbed front).renames lands
    refine ⟨front, rest, call, cut, there, holds, ?_⟩
    rw [after_concat]
    exact renamed
  · intro i call there ended unspoilt
    have phase : ∃ result, call.phase = .ended result := by
      rw [result?, there] at ended
      cases phase : call.phase with
      | ended result => exact ⟨result, rfl⟩
      | create | fill | adopt | rename | remove => simp [phase] at ended
    obtain ⟨result, phase⟩ := phase
    exact Disk.nodeAt?_eq_none.mp
      (nodeAt?_of_ended undisturbed schedule there phase unspoilt)

end

/-! Two writers of one file by turns; the second one fails while it fills its
neighbour. -/

def twoWriters (second : Bool) : Request :=
  { stamp := { process := 7, number := if second then 1 else 0 }
    target := ⟨"a.py"⟩
    content := if second then [50, 50, 50] else [49, 49] }

def writtenDisk : Disk :=
  { nodes := [(["a.py"], .file 0o600 [48])], working := [] }

def twoTurns : List (Bool × Option Mishap) :=
  [(false, none), (true, none), (false, none),
    (true, some { fault := .busy, filled := 1 }), (false, none), (false, none),
    (true, none)]

private theorem twoWriters_undisturbed :
    Undisturbed twoWriters writtenDisk where
  stamps := by
    intro left right same
    cases left <;> cases right <;> simp [twoWriters] at same ⊢
  targets := by
    intro i j call place started hidden located
    obtain ⟨-, -, -, name, named⟩ := spec_of_call started
    have target : (twoWriters j).target.fileName? = some "a.py" := by
      cases j <;> rfl
    have last := Disk.getLast?_of_locate located target
    rw [Disk.getLast?_of_locate hidden named, Option.some.injEq] at last
    have text := congrArg String.toList last
    simp [Replacement.toList_neighbourName] at text
  unused := by
    intro i call started
    cases i with
    | false =>
        have first : (twoWriters false).call =
            .ok ⟨⟨"a.py"⟩, ⟨".a.py.lintpilot-7-0"⟩, [49, 49], .create⟩ := by cbv
        rw [first] at started
        obtain rfl := Except.ok.inj started
        decide +kernel
    | true =>
        have second : (twoWriters true).call =
            .ok ⟨⟨"a.py"⟩, ⟨".a.py.lintpilot-7-1"⟩, [50, 50, 50], .create⟩ := by
          cbv
        rw [second] at started
        obtain rfl := Except.ok.inj started
        decide +kernel

/-- The first writer lands, the second one gives up and cleans up. -/
theorem two_writers_by_turns :
    let race := (start twoWriters writtenDisk).after twoTurns
    Undisturbed twoWriters writtenDisk ∧
      race.disk.content? ["a.py"] = some [49, 49] ∧
      race.result? false = some (.ok ()) ∧ race.result? true ≠ some (.ok ()) ∧
      ∀ i call, race.calls i = .ok call →
      race.disk.exists? call.neighbour = false := by
  obtain ⟨contents, -, succeeded, -, clean⟩ :=
    replacements_are_atomic twoWriters_undisturbed twoTurns
  have landed : (start twoWriters writtenDisk).landings twoTurns = [false] := by
    decide +kernel
  rw [landed] at contents succeeded
  refine ⟨twoWriters_undisturbed, ?_, ?_, ?_, ?_⟩
  · exact contents false ["a.py"] rfl
  · simp [succeeded]
  · simp [succeeded]
  · intro i call there
    refine clean i call there ?_ ?_
    · have ended : (((start twoWriters writtenDisk).after twoTurns).result?
            i).isSome = true := by
        cases i <;> decide +kernel
      exact Option.isSome_iff_ne_none.mp ended
    · -- One turn of the second writer is spoilt, and it is not the removal.
      intro front mishap rest cut
      match front with
      | [] => simp [twoTurns] at cut
      | [_] => simp [twoTurns] at cut
      | [_, _] => simp [twoTurns] at cut
      | [first, second, third] =>
          simp only [twoTurns, List.cons_append, List.nil_append,
            List.cons.injEq] at cut
          obtain ⟨rfl, rfl, rfl, here, -⟩ := cut
          obtain ⟨rfl, -⟩ := Prod.mk.inj here
          decide +kernel
      | [_, _, _, _] => simp [twoTurns] at cut
      | [_, _, _, _, _] => simp [twoTurns] at cut
      | [_, _, _, _, _, _] => simp [twoTurns] at cut
      | _ :: _ :: _ :: _ :: _ :: _ :: _ :: rest => simp [twoTurns] at cut

end Race

end LintMend
