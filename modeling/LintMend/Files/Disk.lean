import LintMend.Files.Store
import LintMend.Text.Utf8

/-!
# A disk

A tree of directories and files as a superuser sees it, with the answers of a
disk to names that are missing, too long or of the wrong kind. Relative paths
start at the working directory.
-/

namespace LintMend

inductive Node
  | file (mode : Nat) (content : Bytes)
  | directory (mode : Nat)
  deriving Repr

namespace Node

def isDirectory : Node → Bool
  | directory _ => true
  | file _ _ => false

def mode : Node → Nat
  | file mode _ => mode
  | directory mode => mode

def withMode (node : Node) (mode : Nat) : Node :=
  match node with
  | file _ content => file mode content
  | directory _ => directory mode

end Node

/-- A place on the disk: the names from the root on. -/
abbrev Place := List String

structure Disk where
  nodes : List (Place × Node)
  /-- Where relative paths start. -/
  working : Place
  deriving Repr

namespace Disk

/-- The absolute path of a place. -/
def pathOf (place : Place) : Path :=
  ⟨"/" ++ "/".intercalate place⟩

def empty : Disk :=
  { nodes := [], working := [] }

/-- The permissions of new files. -/
def fileMode : Nat := 0o644

def directoryMode : Nat := 0o755

/-- What is at a place; the root is always there. -/
def node? (disk : Disk) (place : Place) : Option Node :=
  if place.isEmpty then some (.directory directoryMode)
  else disk.nodes.lookup place

/-- Replaces what is at a place, or adds it. -/
def put (place : Place) (node : Node) :
    List (Place × Node) → List (Place × Node)
  | [] => [(place, node)]
  | (other, found) :: rest =>
    if place = other then (place, node) :: rest
    else (other, found) :: put place node rest

def set (disk : Disk) (place : Place) (node : Node) : Disk :=
  { disk with nodes := put place node disk.nodes }

/-- The most bytes that a name may have. -/
def maxName : Nat := 255

/-- Walks from a place along the steps. All places but the last have to be
directories; the last one need not exist. -/
def walk (disk : Disk) : Place → List Component → Except FileFault Place
  | place, [] => .ok place
  | place, step :: steps => do
    match disk.node? place with
    | none => throw .notFound
    | some (.file _ _) => throw .notADirectory
    | some (.directory _) =>
      match step with
      | .root => walk disk [] steps
      | .here => walk disk place steps
      | .up => walk disk place.dropLast steps
      | .name text =>
        if maxName < text.utf8ByteSize then throw .nameTooLong
        else walk disk (place ++ [text]) steps

/-- Whether the path insists on naming a directory. -/
def wantsDirectory (path : Path) : Bool :=
  path.text.endsWith "/" || path.text.endsWith "/."

/-- The place that a path leads to. -/
def locate (disk : Disk) (path : Path) : Except FileFault Place :=
  if path.text.isEmpty then .error .notFound
  else if path.text.toList.contains '\x00' then .error .nulInName
  else if 4096 ≤ path.text.utf8ByteSize then .error .nameTooLong
  else disk.walk disk.working path.components

/-- The place and the node of something that exists. -/
def find (disk : Disk) (path : Path) : Except FileFault (Place × Node) := do
  let place ← disk.locate path
  match disk.node? place with
  | none => throw .notFound
  | some node =>
    if wantsDirectory path && !node.isDirectory then throw .notADirectory
    else return (place, node)

def find? (disk : Disk) (path : Path) : Option (Place × Node) :=
  (disk.find path).toOption

def exists? (disk : Disk) (path : Path) : Bool :=
  (disk.find? path).isSome

def isFile (disk : Disk) (path : Path) : Bool :=
  match disk.find? path with
  | some (_, .file _ _) => true
  | _ => false

def isDirectory (disk : Disk) (path : Path) : Bool :=
  match disk.find? path with
  | some (_, .directory _) => true
  | _ => false

def readBytes (disk : Disk) (path : Path) : Except FileFault Bytes := do
  match ← disk.find path with
  | (_, .file _ content) => return content
  | (_, .directory _) => throw .isADirectory

def readText (disk : Disk) (path : Path) : Except FileFault Text := do
  match Utf8.decode? (← disk.readBytes path) with
  | some text => return text
  | none => throw .notText

/-- The place of a file that may be opened for writing, and its content if it
exists. -/
def openForWriting (disk : Disk) (path : Path) :
    Except FileFault (Place × Option (Nat × Bytes)) := do
  let place ← disk.locate path
  match disk.node? place with
  | some (.directory _) => throw .isADirectory
  | some (.file mode content) =>
    if wantsDirectory path then throw .notADirectory
    else return (place, some (mode, content))
  | none =>
      if wantsDirectory path then throw .isADirectory else return (place, none)

/-- Opens a file and creates it where it is missing; the content stays. -/
def touch (disk : Disk) (path : Path) : Except FileFault Disk := do
  match ← disk.openForWriting path with
  | (_, some _) => return disk
  | (place, none) => return disk.set place (.file fileMode [])

/-- Writes at the end of a file, which is created where it is missing. -/
def append (disk : Disk) (path : Path) (more : Bytes) :
    Except FileFault Disk := do
  match ← disk.openForWriting path with
  | (place, some (mode, content)) =>
      return disk.set place (.file mode (content ++ more))
  | (place, none) => return disk.set place (.file fileMode more)

/-- Writes a whole file in place. -/
def write (disk : Disk) (path : Path) (content : Bytes) :
    Except FileFault Disk := do
  match ← disk.openForWriting path with
  | (place, some (mode, _)) => return disk.set place (.file mode content)
  | (place, none) => return disk.set place (.file fileMode content)

/-- Makes a directory where nothing is. What is there already has to be a
directory. -/
def ensureDirectory (disk : Disk) (place : Place) (isLast : Bool) :
    Except FileFault Disk :=
  match disk.node? place with
  | some (.directory _) => .ok disk
  | some (.file _ _) =>
      .error (if isLast then .alreadyExists else .notADirectory)
  | none =>
    if maxName < (place.getLastD "").utf8ByteSize then .error .nameTooLong
    else .ok (disk.set place (.directory directoryMode))

/-- Makes directories from the outermost missing one inwards. -/
def makeDirectories (disk : Disk) (place : Place) : Except FileFault Disk :=
  (List.range place.length).foldlM
    (fun disk index =>
      disk.ensureDirectory (place.take (index + 1)) (index + 1 = place.length))
    disk

/-- The place one step on, whatever is there. -/
def follow (place : Place) : Component → Place
  | .root => []
  | .here => place
  | .up => place.dropLast
  | .name text => place ++ [text]

/-- The names of the steps below the root, with the steps upwards undone. -/
def placeOf (disk : Disk) (path : Path) : Place :=
  path.components.foldl follow disk.working

def remove (disk : Disk) (path : Path) : Except FileFault Disk := do
  match ← disk.find path with
  | (_, .directory _) => throw .isADirectory
  | (place, .file _ _) =>
    return { disk with
      nodes := disk.nodes.filter fun (other, _) => other ≠ place }

def mode (disk : Disk) (path : Path) : Except FileFault Nat := do
  let (_, node) ← disk.find path
  return node.mode

def setMode (disk : Disk) (path : Path) (mode : Nat) :
    Except FileFault Disk := do
  let (place, node) ← disk.find path
  return disk.set place (node.withMode mode)

/-- All files below a place, with the names that lead to them. -/
def tree (disk : Disk) (place : Place) : List (Place × Bytes) :=
  disk.nodes.filterMap fun (other, node) =>
    match node with
    | .file _ content =>
      if place.isPrefixOf other then
        some (other.drop place.length, content)
      else none
    | .directory _ => none

/-- Gives a file another path. What was a file there is gone; a directory
stays. -/
def rename (disk : Disk) (source target : Path) : Except FileFault Disk := do
  let (place, node) ← disk.find source
  let goal ← disk.locate target
  if target.text.endsWith "/." then throw .busy
  else if wantsDirectory target then throw .notADirectory
  else
    match disk.node? goal with
    | some (.directory _) => throw .isADirectory
    | _ =>
      let others := disk.nodes.filter fun (other, _) => other ≠ place
      return { disk with nodes := put goal node others }

end Disk

end LintMend
