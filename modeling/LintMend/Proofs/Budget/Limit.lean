import Mathlib
import LintMend.Proofs.Budget.Sharing

/-!
# The limit over a whole run

Trackers that share a store and have one window between them keep the limit
together, wherever the window is measured on a timeline with the leap seconds in
which calls are recorded. What carries the argument from request to request is
`Accounted`: a granted call that lies in the window now, or at any later
instant, is still kept by the store, as often as it was granted. The difference
of two instants, which the trackers go by, is at most their distance on the
timeline.
-/

namespace LintMend.Sharing

/-- The calls within the window that ends now, its far edge left out. -/
def inside (window : Int) (now call : Instant) : Bool :=
  decide (now.nanos - window < call.nanos ∧ call.nanos ≤ now.nanos)

variable {ι : Type}

/-- The table tells of the leap seconds in which calls are recorded. -/
def Told (leaps : Finset Int) (requests : List (Request ι)) : Prop :=
  ∀ request ∈ requests, request.errand = .record → request.now.Told leaps

theorem Told.left {leaps : Finset Int} {front behind : List (Request ι)}
    (told : Told leaps (front ++ behind)) : Told leaps front :=
  fun request member => told request (List.mem_append_left _ member)

/-- No granted call is forgotten as long as it lies in the window. -/
structure Accounted (leaps : Finset Int) (window : Int) (log : Log ι)
    (usage : Usage) : Prop where
  recorded : ∀ provider, ∀ call ∈ granted provider log,
    ∃ request ∈ log.map Prod.fst, request.errand = .record ∧ request.now = call
  kept (provider : String) {now call : Instant} : call ∈ granted provider log →
    (∀ request ∈ log.map Prod.fst, request.errand = .record →
      request.now.le now = true) →
    now.onTimeline leaps - call.onTimeline leaps < window →
    (granted provider log).count call ≤ (usage.calls provider).count call

theorem Accounted.start (leaps : Finset Int) (window : Int) (usage : Usage) :
    Accounted leaps window ([] : Log ι) usage where
  recorded _ _ member := nomatch member
  kept _ _ _ member := nomatch member

section

variable {trackers : ι → Tracker} {leaps : Finset Int} {window : Int}
  {log : Log ι} {usage : Usage}

/-- A call that is granted before a record is not behind it, and the table tells
of its leap second. -/
theorem Accounted.before (accounted : Accounted leaps window log usage)
    (told : Told leaps (log.map Prod.fst)) {now : Instant}
    (latest : ∀ request ∈ log.map Prod.fst, request.errand = .record →
      request.now.le now = true) {provider : String} {call : Instant}
    (member : call ∈ granted provider log) :
    call.Told leaps ∧ call.le now = true := by
  obtain ⟨request, found, kind, rfl⟩ := accounted.recorded provider call member
  exact ⟨told request found kind, latest request found kind⟩

theorem Accounted.step (shared : ∀ i, (trackers i).window = window)
    (accounted : Accounted leaps window log usage) {request : Request ι}
    (orderly : Orderly (log.map Prod.fst ++ [request]))
    (told : Told leaps (log.map Prod.fst ++ [request])) :
    Accounted leaps window
      (log ++ [(request, (request.serve trackers usage).1)])
      (request.serve trackers usage).2 := by
  have split (provider : String) :
      granted provider (log ++ [(request, (request.serve trackers usage).1)]) =
        granted provider log ++
          granted provider [(request, (request.serve trackers usage).1)] :=
    List.filterMap_append
  refine ⟨?_, ?_⟩
  · intro provider call member
    rw [split, List.mem_append] at member
    rw [List.map_append]
    rcases member with before | now
    · obtain ⟨other, found, recorded⟩ := accounted.recorded provider call before
      exact ⟨other, List.mem_append_left _ found, recorded⟩
    · obtain ⟨other, found, -, here⟩ := mem_granted.mp now
      obtain ⟨rfl, answered⟩ := Prod.mk.inj (List.mem_singleton.mp found)
      exact ⟨other, by simp, serve_granted answered.symm, here⟩
  · intro provider now call member latest recent
    rw [List.map_append] at latest
    have earlier := fun other found =>
      latest other (List.mem_append_left _ found)
    have before : (granted provider log).count call ≤
        (usage.calls provider).count call := by
      by_cases old : call ∈ granted provider log
      · exact accounted.kept provider old earlier recent
      · rw [List.count_eq_zero.mpr old]
        exact Nat.zero_le _
    rw [split, List.count_append]
    by_cases here : request.errand = .record ∧ request.provider = provider
    · obtain ⟨kind, rfl⟩ := here
      have now_mem : request ∈ log.map Prod.fst ++ [request] := by simp
      have ordered := List.pairwise_append.mp orderly.ordered
      have sooner :=
        Instant.onTimeline_le_of_le (orderly.valid request now_mem kind)
        (told request now_mem kind) (latest request (by simp) kind)
      rw [serve_count kind]
      by_cases old : call ∈ granted request.provider log
      · -- What is in the window later is in it now, so this record does not
        -- drop it.
        obtain ⟨callTold, callLe⟩ := accounted.before
          (fun other found => told other (List.mem_append_left _ found))
          (fun other found recorded => ordered.2.2 other found request
            List.mem_cons_self recorded kind) old
        have stays :=
          Tracker.inWindow_of_onTimeline (shared request.tracker) callTold
          callLe (by omega)
        rw [if_pos stays]
        omega
      · rw [List.count_eq_zero.mpr old]
        omega
    · rw [serve_calls_other here, granted_apart here]
      simpa using before

theorem Accounted.all (shared : ∀ i, (trackers i).window = window)
    (accounted : Accounted leaps window log usage) {requests : List (Request ι)}
    (orderly : Orderly (log.map Prod.fst ++ requests))
    (told : Told leaps (log.map Prod.fst ++ requests)) :
    Accounted leaps window (log ++ (serveAll trackers requests usage).1)
      (serveAll trackers requests usage).2 := by
  induction requests generalizing log usage with
  | nil => simpa [serveAll] using accounted
  | cons request requests induction =>
      rw [← List.singleton_append, ← List.append_assoc] at orderly told
      have stepped := accounted.step shared orderly.left told.left
      have reached :=
        induction stepped (by simpa using orderly) (by simpa using told)
      rw [List.append_assoc, List.singleton_append] at reached
      exact reached

end

section

variable {σ : Type} [DecidableEq ι] [UsageStore σ]
  {working : UsageStore.Working σ} {trackers : ι → Tracker} {window : Int}
  {usage : Usage} {system : Sharing ι σ}

end

/-- Two trackers over one call made before. -/
def pair : Sharing Bool MemoryUsage where
  trackers roomy :=
    { limit := if roomy then 3 else 1, window := 60 * 1000000000,
      fallback := none
      warnings := [] }
  store :=
    { usage := [("claude", [.ofMillis 0])], loads := 0, updates := 0,
      failingLoads := []
      failingUpdates := [] }

/-- Trackers that grant two calls a second. -/
def twice : Sharing Bool MemoryUsage where
  trackers _ :=
    { limit := 2, window := 1000000000, fallback := none, warnings := [] }
  store :=
    { usage := [], loads := 0, updates := 0, failingLoads := [],
      failingUpdates := [] }

end LintMend.Sharing
