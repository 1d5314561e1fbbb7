import LintMend.Arithmetic
import LintMend.Budget.Store

/-!
# The budget for calls

A tracker grants calls to providers as long as fewer than `limit` of them lie
within the window that ends now. Trackers may share a store. A tracker whose
store fails goes on in memory from an empty record, says so once, and never asks
the store again.
-/

namespace LintMend

structure Tracker where
  limit : Nat
  /-- The length of the window in nanoseconds. -/
  window : Int
  /-- The record in memory, once the store has failed. -/
  fallback : Option Usage
  warnings : List String
  deriving Repr

/-- How many calls may be made in how many seconds. -/
structure UsageConfig where
  limit : Nat
  windowSeconds : Nat
  deriving DecidableEq, Repr

namespace Tracker

/-- The longest window, in milliseconds. -/
def maxWindowMillis : Nat := signedLimit - 1

/-- Windows beyond the longest one are as long as that. -/
def windowOf (seconds : Nat) : Int :=
  if maxWindowMillis / 1000 < seconds then maxWindowMillis * 1000000
  else seconds * Instant.nanosPerSecond

/-- Goes on in memory. Only the first failure does anything to the record. -/
def degrade (tracker : Tracker) (fault : StoreFault) : Tracker :=
  { tracker with
    fallback := some (tracker.fallback.getD Usage.empty)
    warnings :=
      tracker.warnings ++
        [fault.message ++ "; tracking AI usage in memory for this run"] }

def inWindow (tracker : Tracker) (now call : Instant) : Bool :=
  decide (now.elapsed call < tracker.window)

def countInWindow (tracker : Tracker) (now : Instant)
    (calls : List Instant) : Nat :=
  calls.countP (tracker.inWindow now)

/-- Drops the calls outside the window and adds one now, if there is room for
it. The calls outside are gone even if there is none. -/
def recordInto (tracker : Tracker) (provider : String) (now : Instant)
    (usage : Usage) :
    Bool × Usage :=
  let kept := (usage.calls provider).filter (tracker.inWindow now)
  if tracker.limit ≤ kept.length then (false, Usage.set provider kept usage)
  else (true, Usage.set provider ((kept ++ [now]).mergeSort Instant.le) usage)

section

variable {σ : Type} [UsageStore σ]

/-- A new tracker looks into the store once. -/
def start (config : UsageConfig) (store : σ) : Tracker × σ :=
  let fresh : Tracker :=
    { limit := config.limit, window := windowOf config.windowSeconds,
      fallback := none
      warnings := [] }
  match UsageStore.load store with
  | (.ok _, store) => (fresh, store)
  | (.error fault, store) => (fresh.degrade fault, store)

/-- The record as it is now. -/
def current (tracker : Tracker) (store : σ) : Usage × Tracker × σ :=
  match tracker.fallback with
  | some usage => (usage, tracker, store)
  | none =>
    match UsageStore.load store with
    | (.ok usage, store) => (usage, tracker, store)
    | (.error fault, store) => (Usage.empty, tracker.degrade fault, store)

/-- The calls within the window that ends now. -/
def used (tracker : Tracker) (provider : String) (now : Instant) (store : σ) :
    Nat × Tracker × σ :=
  let (usage, tracker, store) := tracker.current store
  (tracker.countInWindow now (usage.calls provider), tracker, store)

/-- Whether a call may be made now; records nothing. -/
def canProceed (tracker : Tracker) (provider : String) (now : Instant)
    (store : σ) :
    Bool × Tracker × σ :=
  let (count, tracker, store) := tracker.used provider now store
  (decide (count < tracker.limit), tracker, store)

/-- Records a call in memory. -/
def recordInMemory (tracker : Tracker) (provider : String)
    (now : Instant) : Bool × Tracker :=
  let (recorded, usage) :=
    tracker.recordInto provider now (tracker.fallback.getD Usage.empty)
  (recorded, { tracker with fallback := some usage })

/-- Records a call now, if there is room for it. Room is looked for again within
the update, because another run may have taken it since. -/
def record (tracker : Tracker) (provider : String) (now : Instant) (store : σ) :
    Bool × Tracker × σ :=
  match tracker.fallback with
  | some _ =>
    let (recorded, tracker) := tracker.recordInMemory provider now
    (recorded, tracker, store)
  | none =>
    match UsageStore.update (tracker.recordInto provider now) store with
    | (.ok recorded, store) => (recorded, tracker, store)
    | (.error fault, store) =>
      let (recorded, tracker) :=
        (tracker.degrade fault).recordInMemory provider now
      (recorded, tracker, store)

end

end Tracker

end LintMend
