import LintMend.Files.Disk

/-!
# Replacing files

A file is replaced in steps: a hidden neighbour is created, filled, given the
permissions of the target and renamed to the target. Only the renaming touches
the target, so it holds its old or its new content at every moment. A
replacement that fails removes its neighbour. Replacements may take their steps
by turns, because each has a stamp of its own in the name of its neighbour.
-/

namespace LintMend

/-- What sets a replacement apart: the process that makes it, and its number
there. -/
structure Stamp where
  process : Nat
  number : Nat
  deriving DecidableEq, Repr

/-- What a replacement does next. -/
inductive ReplacementPhase
  | create
  | fill
  | adopt
  | rename
  | remove (fault : FileFault)
  | ended (result : Except FileFault Unit)

structure Replacement where
  target : Path
  neighbour : Path
  content : Bytes
  phase : ReplacementPhase

/-- What goes wrong with a step. -/
structure Mishap where
  fault : FileFault
  /-- The bytes that were filled in by then. -/
  filled : Nat
  deriving Repr

namespace Replacement

def neighbourName (stamp : Stamp) (name : String) : String :=
  s!".{name}.lintpilot-{stamp.process}-{stamp.number}"

/-- A new replacement; the target needs a file name. -/
def start (stamp : Stamp) (target : Path) (content : Bytes) :
    Except FileFault Replacement :=
  match target.fileName? with
  | none => .error .noFileName
  | some name =>
    .ok
      { target
        neighbour := target.withLast (neighbourName stamp name)
        content
        phase := .create }

/-- Goes on where a step was done, and cleans up where it was not. -/
def proceed (call : Replacement) (next : ReplacementPhase) (disk : Disk)
    (outcome : Except FileFault Disk) : Replacement × Disk :=
  match outcome with
  | .ok disk => ({ call with phase := next }, disk)
  | .error fault => ({ call with phase := .remove fault }, disk)

/-- A step fails if something goes wrong with it, or if the disk refuses it. -/
def attempt (mishap : Option Mishap) (outcome : Except FileFault Disk) :
    Except FileFault Disk :=
  match mishap with
  | some mishap => .error mishap.fault
  | none => outcome

/-- What a spoilt filling leaves. -/
def fillPart (call : Replacement) (mishap : Option Mishap)
    (disk : Disk) : Disk :=
  match mishap with
  | some mishap =>
    (disk.write call.neighbour (call.content.take mishap.filled)).toOption.getD
      disk
  | none => disk

/-- The next step. -/
def step (mishap : Option Mishap) (call : Replacement) (disk : Disk) :
    Replacement × Disk :=
  match call.phase with
  | .create =>
      call.proceed .fill disk (attempt mishap (disk.write call.neighbour []))
  | .fill =>
    call.proceed .adopt (call.fillPart mishap disk)
      (attempt mishap (disk.write call.neighbour call.content))
  | .adopt =>
    match disk.mode call.target with
    | .ok mode =>
      call.proceed .rename disk
        (attempt mishap (disk.setMode call.neighbour mode))
    | .error _ => ({ call with phase := .rename }, disk)
  | .rename =>
    call.proceed (.ended (.ok ())) disk
      (attempt mishap (disk.rename call.neighbour call.target))
  | .remove fault =>
    ({ call with phase := .ended (.error fault) },
      (attempt mishap (disk.remove call.neighbour)).toOption.getD disk)
  | .ended _ => (call, disk)

/-- The steps of a replacement that fails as late as it can. -/
def maxSteps : Nat := 5

/-- Some steps with which nothing goes wrong. -/
def steps : Nat → Replacement → Disk → Replacement × Disk
  | 0, call, disk => (call, disk)
  | count + 1, call, disk =>
    let (call, disk) := call.step none disk
    steps count call disk

end Replacement

namespace Disk

/-- The stamp of replacements that are made one after another. -/
def soleStamp : Stamp :=
  { process := 1, number := 0 }

/-- Replaces the bytes of a file without interruption. -/
def replaceBytes (disk : Disk) (path : Path) (content : Bytes) :
    Except FileFault Disk := do
  let call ← Replacement.start soleStamp path content
  match call.steps Replacement.maxSteps disk with
  | ({ phase := .ended (.ok _), .. }, after) => return after
  | ({ phase := .ended (.error fault), .. }, _) => throw fault
  | _ => throw .busy

def replace (disk : Disk) (path : Path) (content : Text) :
    Except FileFault Disk :=
  disk.replaceBytes path (Utf8.encode content)

instance : FileStore Disk where
  read := readText
  replace := replace
  exists? := exists?

end Disk

end LintMend
