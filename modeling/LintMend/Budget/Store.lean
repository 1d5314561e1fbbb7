import LintMend.Budget.Usage
import LintMend.Files.Replace

/-!
# Usage stores

Where the usage of the providers is kept between runs. An update reads, changes
and writes in one step that no other run can come between.
-/

namespace LintMend

inductive StoreFault
  | unreadable (path : Path) (cause : String)
  | corrupted (path : Path) (cause : String)
  | locked (path : Path) (cause : String)
  deriving Repr

def StoreFault.message : StoreFault → String
  | unreadable path cause => s!"usage store {path.text} unreadable: {cause}"
  | corrupted path cause => s!"usage store {path.text} is corrupted: {cause}"
  | locked path cause => s!"could not lock usage store {path.text}: {cause}"

/-- A store that is part of some surroundings. A change of the usage also
answers a question, namely whether a call was recorded. -/
class UsageStore (σ : Type) where
  load : σ → Except StoreFault Usage × σ
  update : (Usage → Bool × Usage) → σ → Except StoreFault Bool × σ
  describe : σ → String

/-- One of two stores. -/
instance {α β : Type} [UsageStore α] [UsageStore β] : UsageStore (α ⊕ β) where
  load
    | .inl store => (UsageStore.load store).map id .inl
    | .inr store => (UsageStore.load store).map id .inr
  update change
    | .inl store => (UsageStore.update change store).map id .inl
    | .inr store => (UsageStore.update change store).map id .inr
  describe
    | .inl store => UsageStore.describe store
    | .inr store => UsageStore.describe store

/-! ## In memory -/

/-- A store in memory that may be told to fail. Loads and updates are counted
apart. -/
structure MemoryUsage where
  usage : Usage
  loads : Nat
  updates : Nat
  failingLoads : List (Nat × StoreFault)
  failingUpdates : List (Nat × StoreFault)
  deriving Repr

namespace MemoryUsage

def load (store : MemoryUsage) : Except StoreFault Usage × MemoryUsage :=
  let counted := { store with loads := store.loads + 1 }
  match store.failingLoads.lookup store.loads with
  | some fault => (.error fault, counted)
  | none => (.ok store.usage, counted)

def update (change : Usage → Bool × Usage) (store : MemoryUsage) :
    Except StoreFault Bool × MemoryUsage :=
  let counted := { store with updates := store.updates + 1 }
  match store.failingUpdates.lookup store.updates with
  | some fault => (.error fault, counted)
  | none =>
    let (answer, usage) := change store.usage
    (.ok answer, { counted with usage })

instance : UsageStore MemoryUsage where
  load := load
  update := update
  describe _ := "in-memory"

end MemoryUsage

/-! ## In a file -/

namespace UsageFile

/-- What is wrong with a file that holds no usage. -/
def problem (content : Text) : String :=
  (JsonText.diagnosis? Usage.shape content).getD "no record of calls"

/-- A missing or blank file holds no calls. -/
def read (path : Path) (disk : Disk) : Except StoreFault Usage :=
  match disk.readText path with
  | .error .notFound => .ok Usage.empty
  | .error fault => .error (.unreadable path fault.message)
  | .ok content =>
    if Text.blank content then .ok Usage.empty
    else
      match JsonText.decode Usage.decode content with
      | .ok usage => .ok usage
      | .error _ => .error (.corrupted path (problem content))

/-- The file whose lock keeps other runs out. -/
def lockPath (path : Path) : Path :=
  ⟨path.text ++ ".lock"⟩

/-- Takes the lock; the directory is made on the way. -/
def lock (path : Path) (disk : Disk) : Except StoreFault Disk :=
  match disk.makeDirectories (disk.placeOf path).dropLast with
  | .error fault => .error (.unreadable path fault.message)
  | .ok made =>
    match made.touch (lockPath path) with
    | .error fault => .error (.locked (lockPath path) fault.message)
    | .ok locked => .ok locked

/-- A corrupted file is started anew. -/
def readOrRestart (path : Path) (disk : Disk) : Except StoreFault Usage :=
  match read path disk with
  | .error (.corrupted _ _) => .ok Usage.empty
  | other => other

/-- The directory made for the lock and the lock file stay, whatever happens
next. -/
def update (path : Path) (change : Usage → Bool × Usage) (disk : Disk) :
    Except StoreFault Bool × Disk :=
  match lock path disk with
  | .error fault =>
    (.error fault,
      (disk.makeDirectories (disk.placeOf path).dropLast).toOption.getD disk)
  | .ok locked =>
    match readOrRestart path locked with
    | .error fault => (.error fault, locked)
    | .ok usage =>
      let (answer, changed) := change usage
      match locked.replace path changed.json.pretty.toList with
      | .error fault => (.error (.unreadable path fault.message), locked)
      | .ok written => (.ok answer, written)

end UsageFile

/-- A disk with a file on it that holds the usage. -/
structure UsageDisk where
  disk : Disk
  path : Path
  deriving Repr

instance : UsageStore UsageDisk where
  load store := (UsageFile.read store.path store.disk, store)
  update change store :=
    let (answer, disk) := UsageFile.update store.path change store.disk
    (answer, { store with disk })
  describe store := store.path.text

instance : FileStore UsageDisk where
  read store path := store.disk.readText path
  replace store path content := do
    let disk ← store.disk.replace path content
    .ok { store with disk }
  exists? store path := store.disk.exists? path

end LintMend
