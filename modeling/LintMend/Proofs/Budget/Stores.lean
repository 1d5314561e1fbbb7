import LintMend.Proofs.Budget.Window

/-!
# Stores that work

A store that works holds a usage, gives it back and records calls in it. The
store in memory works unless it is told to fail.
-/

namespace LintMend

/-- How a store works that never fails: it holds a usage, gives it back whenever
it is loaded, and records calls in it. -/
structure UsageStore.Working (σ : Type) [UsageStore σ] where
  holds : σ → Usage → Prop
  load {store : σ} {usage : Usage} : holds store usage →
    ∃ next, UsageStore.load store = (.ok usage, next) ∧ holds next usage
  record {store : σ} {usage : Usage} {now : Instant} (tracker : Tracker)
    (provider : String) : holds store usage → now.Valid →
    ∃ next, UsageStore.update (tracker.recordInto provider now) store =
        (.ok (tracker.recordInto provider now usage).1, next) ∧
      holds next (tracker.recordInto provider now usage).2

/-- A tracker that starts on a store that works stays in touch with it. -/
theorem UsageStore.Working.start {σ : Type} [UsageStore σ]
    (working : UsageStore.Working σ) (config : UsageConfig) {store : σ}
    {usage : Usage} (held : working.holds store usage) :
    (Tracker.start config store).1.fallback = none ∧
      working.holds (Tracker.start config store).2 usage := by
  obtain ⟨next, loaded, held⟩ := working.load held
  simp only [Tracker.start, loaded]
  exact ⟨trivial, held⟩

/-- No failure lies ahead. -/
structure MemoryUsage.Sound (store : MemoryUsage) : Prop where
  loads : ∀ failure ∈ store.failingLoads, failure.1 < store.loads
  updates : ∀ failure ∈ store.failingUpdates, failure.1 < store.updates

theorem MemoryUsage.Sound.of_unfailing {store : MemoryUsage}
    (loads : store.failingLoads = []) (updates : store.failingUpdates = []) :
    store.Sound :=
  ⟨by simp [loads], by simp [updates]⟩

private theorem lookup_eq_none_of_lt {failures : List (Nat × StoreFault)}
    {next : Nat} (past : ∀ failure ∈ failures, failure.1 < next) :
    failures.lookup next = none := by
  rw [List.lookup_eq_none_iff]
  intro failure member
  have := past failure member
  simp only [bne_iff_ne, ne_eq]
  omega

/-- A store in memory works unless it is told to fail. -/
def MemoryUsage.working : UsageStore.Working MemoryUsage where
  holds store usage := store.usage = usage ∧ store.Sound
  load := by
    rintro store usage ⟨rfl, sound⟩
    refine ⟨{ store with loads := store.loads + 1 }, ?_, rfl, ?_, sound.updates⟩
    · simp [UsageStore.load, MemoryUsage.load, lookup_eq_none_of_lt sound.loads]
    · exact fun failure member => Nat.lt_succ_of_lt (sound.loads failure member)
  record := by
    rintro store usage now tracker provider ⟨rfl, sound⟩ -
    refine ⟨{ store with
        updates := store.updates + 1
        usage := (tracker.recordInto provider now store.usage).2 }, ?_, rfl,
      sound.loads, ?_⟩
    · simp [UsageStore.update, MemoryUsage.update,
        lookup_eq_none_of_lt sound.updates]
    · exact fun failure member =>
        Nat.lt_succ_of_lt (sound.updates failure member)

end LintMend
