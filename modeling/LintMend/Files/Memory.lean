import LintMend.Files.Store

/-!
# Files in memory

A file store that keeps its files in a list and remembers every write, so that
one can tell whether a file was written at all. Paths that name the same steps
are the same file.
-/

namespace LintMend

structure MemoryFiles where
  files : List (Path × Text)
  /-- The paths written so far, in order. -/
  writes : List Path
  /-- The paths that may not be written. -/
  denied : List Path
  deriving Repr

namespace MemoryFiles

def empty : MemoryFiles :=
  { files := [], writes := [], denied := [] }

/-- Replaces the content of a path, or puts the path at the end. -/
def put (path : Path) (content : Text) : List (Path × Text) → List (Path × Text)
  | [] => [(path, content)]
  | (other, found) :: rest =>
    if path.same other then (other, content) :: rest
    else (other, found) :: put path content rest

def get? (store : MemoryFiles) (path : Path) : Option Text :=
  (store.files.find? fun (other, _) => path.same other).map Prod.snd

/-- Sets a content without a write. -/
def insert (store : MemoryFiles) (path : Path) (content : Text) : MemoryFiles :=
  { store with files := put path content store.files }

def deny (store : MemoryFiles) (path : Path) : MemoryFiles :=
  { store with denied := store.denied ++ [path] }

def denies (store : MemoryFiles) (path : Path) : Bool :=
  store.denied.any path.same

def read (store : MemoryFiles) (path : Path) : Except FileFault Text :=
  match store.get? path with
  | some content => .ok content
  | none => .error (.absent path)

def replace (store : MemoryFiles) (path : Path) (content : Text) :
    Except FileFault MemoryFiles :=
  if store.denies path then .error (.denied path)
  else .ok { store.insert path content with writes := store.writes ++ [path] }

instance : FileStore MemoryFiles where
  read := read
  replace := replace
  exists? store path := (store.get? path).isSome

end MemoryFiles

end LintMend
