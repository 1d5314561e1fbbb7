import LintMend.Proofs.Run.Calls

/-!
# Cancelled runs

The user may cancel before a run or during any call of the assistant. A run
looks at that between two files and nowhere else, so it does what an undisturbed
run does, and stops behind the file during which the user cancelled.
`Site.undisturbed` takes the cancelling away from a site; a cycle commutes with
it, and whether the user has cancelled can be told from the calls of the
undisturbed run.
-/

namespace LintMend

def Helper.undisturbed (helper : Helper) : Helper :=
  { helper with assistant := { helper.assistant with cancelOn := none } }

/-- The same site where the user does not cancel and has not cancelled. -/
def Site.undisturbed {σ : Type} (site : Site σ) : Site σ :=
  { site with helper := site.helper.map Helper.undisturbed, cancelled := false }

/-- The call during which the user cancels. -/
def Site.cancelsOn? {σ : Type} (site : Site σ) : Option Nat :=
  site.helper.bind fun helper => helper.assistant.cancelOn

/-- The user had cancelled at the one site, or cancels during one of the calls
that are made on the way to the other one. -/
def Site.DisturbedBy {σ : Type} (site after : Site σ) : Prop :=
  site.cancelled = true ∨
    ∃ call, site.cancelsOn? = some call ∧ site.prompts.length < call ∧
      call ≤ after.prompts.length

/-- The plan of the first files only. -/
def Plan.first (plan : Plan) (count : Nat) : Plan :=
  { plan with entries := plan.entries.take count }

/-- The two stores read and replace the file alike, at all places. -/
def FileStore.AgreesAt {σ : Type} (other store : FileStore σ)
    (path : Path) : Prop :=
  ∀ place, other.read place path = store.read place path ∧
    ∀ content, other.replace place path content =
      store.replace place path content

namespace Run

/-! ## Whether the user has cancelled -/

section

variable {σ : Type}

/-- The user cancels during the same call at both sites, and has cancelled at
the second one if at the first or during a call in between. -/
structure Heeds (site after : Site σ) : Prop where
  cancelsOn : after.cancelsOn? = site.cancelsOn?
  calls : site.prompts.length ≤ after.prompts.length
  cancelled : after.cancelled = true ↔ site.DisturbedBy after

/-- Taking the cancelling away does not change what the assistant was asked. -/
@[simp]
theorem prompts_undisturbed (site : Site σ) :
    site.undisturbed.prompts = site.prompts := by
  cases site with
  | mk place helper cancelled => cases helper <;> rfl

theorem Heeds.refl (site : Site σ) : Heeds site site := by
  refine ⟨rfl, Nat.le_refl _, .inl, ?_⟩
  rintro (cancelled | ⟨call, -, above, below⟩)
  · exact cancelled
  · omega

theorem Heeds.trans {site middle after : Site σ} (front : Heeds site middle)
    (back : Heeds middle after) : Heeds site after := by
  refine ⟨back.cancelsOn.trans front.cancelsOn,
    Nat.le_trans front.calls back.calls, ?_⟩
  have earlier := front.calls
  have later := back.calls
  rw [back.cancelled, Site.DisturbedBy, front.cancelled, front.cancelsOn]
  constructor
  · rintro ((cancelled | ⟨call, here, above, below⟩) |
        ⟨call, here, above, below⟩)
    · exact .inl cancelled
    · exact .inr ⟨call, here, above, by omega⟩
    · exact .inr ⟨call, here, by omega, below⟩
  · rintro (cancelled | ⟨call, here, above, below⟩)
    · exact .inl (.inl cancelled)
    · by_cases early : call ≤ middle.prompts.length
      · exact .inl (.inr ⟨call, here, above, early⟩)
      · exact .inr ⟨call, here, by omega, below⟩

/-- Where the assistant was not asked, the user cannot cancel. -/
theorem Heeds.of_unasked {site after : Site σ}
    (cancelled : after.cancelled = site.cancelled)
    (assistant : after.helper.map Helper.assistant =
      site.helper.map Helper.assistant) :
    Heeds site after := by
  have cancelsOn : after.cancelsOn? = site.cancelsOn? := by
    have same := congrArg (Option.bind · Assistant.cancelOn) assistant
    simpa [Site.cancelsOn?, Option.bind_map, Function.comp_def] using same
  have prompts : after.prompts = site.prompts := by
    have same :=
      congrArg (fun found => (found.map Assistant.prompts).getD []) assistant
    simpa [Site.prompts, Function.comp_def] using same
  refine ⟨cancelsOn, Nat.le_of_eq (by rw [prompts]), ?_⟩
  rw [cancelled, Site.DisturbedBy, prompts]
  exact (Heeds.refl site).cancelled

end

/-! ## Undisturbed fixes -/

section

variable {σ : Type} [UsageStore σ]

theorem takeCall_undisturbed (clock : Clock) (helper : Helper) (place : σ) :
    (takeCall clock helper place).map id (Prod.map Helper.undisturbed id) =
      takeCall clock helper.undisturbed place := by
  obtain ⟨⟨provider, answers, cancelOn, prompts⟩, tracker, looks⟩ := helper
  change _ = takeCall clock ⟨⟨provider, answers, none, prompts⟩, tracker,
    looks⟩ place
  unfold takeCall
  dsimp only
  rcases tracker.canProceed provider (clock.shows looks) place with
    ⟨free, tracker, looked⟩
  cases free <;> rfl

theorem assist_undisturbed (settings : Settings) (item : PlannedIssue)
    (buffer : Buffer) (site : Site σ) :
    (assist settings item buffer site).map id (Prod.map id Site.undisturbed) =
      assist settings item buffer site.undisturbed := by
  obtain ⟨place, helper, cancelled⟩ := site
  cases helper with
  | none => rfl
  | some helper =>
      simp only [assist, Site.undisturbed, Option.map_some]
      cases buffer.line? item.issue.line with
      | none => rfl
      | some target =>
          simp only [← takeCall_undisturbed settings.now helper place]
          rcases takeCall settings.now helper place with ⟨granted, taken, left⟩
          cases granted with
          | false => rfl
          | true =>
              -- the reply is the same, and nobody cancels during the call
              simp only [Prod.map, id, Helper.undisturbed, Assistant.suggest,
                Assistant.ask]
              split <;> rfl

theorem fixIssue_undisturbed (settings : Settings) (item : PlannedIssue)
    (buffer : Buffer) (site : Site σ) :
    (fixIssue settings item buffer site).map id (Prod.map id Site.undisturbed) =
      fixIssue settings item buffer site.undisturbed := by
  unfold fixIssue
  split
  · rfl
  · exact assist_undisturbed settings item buffer site

theorem fixIssues_undisturbed (settings : Settings) (items : List PlannedIssue)
    (buffer : Buffer) (site : Site σ) :
    (fixIssues settings items buffer site).map id
        (Prod.map id Site.undisturbed) =
      fixIssues settings items buffer site.undisturbed := by
  induction items generalizing buffer site with
  | nil => rfl
  | cons item items induction =>
      simp only [fixIssues, ← fixIssue_undisturbed settings item buffer site,
        Prod.map, id, ← induction]

end

section

variable {σ : Type} [FileStore σ]

theorem commit_undisturbed (settings : Settings) (path : Path) (content : Text)
    (site : Site σ) :
    (commit settings path content site).map Site.undisturbed =
      commit settings path content site.undisturbed := by
  unfold commit
  cases settings.mode with
  | dryRun => rfl
  | apply =>
      simp only [Site.undisturbed]
      cases FileStore.replace site.place path content <;> rfl

variable [UsageStore σ]

/-- The cycle of a file is the same whether the user cancels or not. -/
theorem fixFile_undisturbed (checker : Checker) (settings : Settings)
    (entry : FilePlan) (site : Site σ) :
    (fixFile checker settings entry site).map id Site.undisturbed =
      fixFile checker settings entry site.undisturbed := by
  have place : site.undisturbed.place = site.place := rfl
  rw [fixFile, fixFile, place]
  cases FileStore.read site.place entry.file with
  | error fault => rfl
  | ok before =>
      simp only [← fixIssues_undisturbed]
      rcases fixIssues settings entry.issues (.ofText before) site with
        ⟨outcomes, buffer, moved⟩
      simp only [Prod.map, id, ← commit_undisturbed]
      split
      · rfl
      · split
        · rfl
        · cases commit settings entry.file buffer.render moved <;> rfl

theorem fixFile_on_undisturbed (checker : Checker) (settings : Settings)
    (entry : FilePlan) (site : Site σ) :
    fixFile checker settings entry site.undisturbed =
      ((fixFile checker settings entry site).1,
        (fixFile checker settings entry site).2.undisturbed) :=
  (fixFile_undisturbed checker settings entry site).symm

/-! ## The files that are taken up -/

theorem Deal.heeds {clock : Clock} {site after : Site σ} {dealing : Dealing}
    (deal : Deal clock site dealing after) : Heeds site after := by
  cases deal with
  | look there | record there => exact .of_unasked rfl (by rw [there]; rfl)
  | write => exact .of_unasked rfl rfl
  | @ask helper prompt clean there =>
      have before : site.prompts = helper.assistant.prompts := by
        rw [Site.prompts, there]; rfl
      have cancelsOn : site.cancelsOn? = helper.assistant.cancelOn := by
        rw [Site.cancelsOn?, there]
        rfl
      refine ⟨cancelsOn.symm, ?_, ?_⟩
      · rw [before]
        simp [Site.prompts, Assistant.ask]
      · rw [Site.DisturbedBy, before, cancelsOn]
        simp only [Site.prompts, Assistant.ask, Option.map_some,
          Option.getD_some, List.length_append, List.length_singleton,
          Bool.or_eq_true, decide_eq_true_eq]
        constructor
        · rintro (cancelled | here)
          · exact .inl cancelled
          · exact .inr ⟨_, here, by omega, Nat.le_refl _⟩
        · rintro (cancelled | ⟨call, here, above, below⟩)
          · exact .inl cancelled
          · obtain rfl : call = helper.assistant.prompts.length + 1 := by omega
            exact .inr here

theorem Deals.heeds {clock : Clock} {site after : Site σ}
    {dealings : List Dealing} (deals : Deals clock site dealings after) :
    Heeds site after := by
  induction deals with
  | nil => exact .refl _
  | cons deal _ induction => exact deal.heeds.trans induction

theorem fixFile_heeds (checker : Checker) (settings : Settings)
    (entry : FilePlan) (site : Site σ) :
    Heeds site (fixFile checker settings entry site).2 := by
  obtain ⟨_, _, deals, -⟩ := (fixFile_cycle checker settings entry site).paid
  exact deals.heeds

/-- The site behind the cycles of some files, whatever the user does. -/
def behind (checker : Checker) (settings : Settings) :
    List FilePlan → Site σ → Site σ
  | [], site => site
  | entry :: entries, site =>
    behind checker settings entries (fixFile checker settings entry site).2

theorem behind_heeds (checker : Checker) (settings : Settings)
    (entries : List FilePlan) (site : Site σ) :
    Heeds site (behind checker settings entries site) := by
  induction entries generalizing site with
  | nil => exact .refl site
  | cons entry entries induction =>
      exact (fixFile_heeds checker settings entry site).trans (induction _)

/-- A run in which nobody cancels takes up all files. -/
theorem fixFiles_on_undisturbed (checker : Checker) (settings : Settings)
    (entries : List FilePlan) (site : Site σ) :
    ∃ reports, fixFiles checker settings entries site.undisturbed =
        (reports, false, (behind checker settings entries site).undisturbed) ∧
      reports.map FileReport.file = entries.map FilePlan.file := by
  induction entries generalizing site with
  | nil => exact ⟨[], rfl, rfl⟩
  | cons entry entries induction =>
      obtain ⟨reports, run, names⟩ :=
        induction (fixFile checker settings entry site).2
      refine ⟨(fixFile checker settings entry site).1 :: reports, ?_, ?_⟩
      · rw [fixFiles, fixFile_on_undisturbed]
        simp only [run]
        rfl
      · rw [List.map_cons, List.map_cons, names,
          (fixFile_cycle checker settings entry site).file]

section

variable (checker : Checker) (settings : Settings) (entries : List FilePlan)
  (site : Site σ)

/-- The run tells that it was cancelled if it has no report on some of the
files. -/
theorem fixFiles_cancelled_iff :
    (fixFiles checker settings entries site).2.1 = true ↔
      (fixFiles checker settings entries site).1.length < entries.length := by
  induction entries generalizing site with
  | nil => simp [fixFiles]
  | cons entry entries induction =>
      rw [fixFiles]
      split
      · simp
      · simpa using induction (fixFile checker settings entry site).2

/-- A run does the same as one over the files that it has reports on. -/
theorem fixFiles_take :
    let run := fixFiles checker settings entries site
    fixFiles checker settings (entries.take run.1.length) site =
      (run.1, false, run.2.2) ∧
      run.2.2 = behind checker settings (entries.take run.1.length) site := by
  induction entries generalizing site with
  | nil => exact ⟨rfl, rfl⟩
  | cons entry entries induction =>
      obtain ⟨same, site'⟩ := induction (fixFile checker settings entry site).2
      rw [fixFiles]
      split
      · exact ⟨rfl, rfl⟩
      · next going =>
          simp only [List.length_cons, List.take_succ_cons]
          refine ⟨?_, site'⟩
          rw [fixFiles, if_neg going]
          simp only [same]

/-- The reports are those of the run in which nobody cancels, as far as they
go. -/
theorem fixFiles_prefix :
    (fixFiles checker settings entries site).1 <+:
      (fixFiles checker settings entries site.undisturbed).1 := by
  induction entries generalizing site with
  | nil => exact List.prefix_rfl
  | cons entry entries induction =>
      have going : site.undisturbed.cancelled = false := rfl
      rw [fixFiles, fixFiles, going, fixFile_on_undisturbed]
      split
      · exact List.nil_prefix
      · exact (List.prefix_cons_inj _).mpr (induction _)

/-- A file is taken up if the user has not cancelled by the site behind the
files before it. -/
theorem lt_length_fixFiles_iff {index : Nat} (inside : index < entries.length) :
    index < (fixFiles checker settings entries site).1.length ↔
      (behind checker settings (entries.take index) site).cancelled =
        false := by
  induction entries generalizing site index with
  | nil => cases inside
  | cons entry entries induction =>
      have heeds :=
        behind_heeds checker settings ((entry :: entries).take index) site
      rw [fixFiles]
      split
      · next cancelled =>
          have gone := heeds.cancelled.mpr (.inl cancelled)
          simp [gone]
      · next going =>
          cases index with
          | zero => simpa [behind] using going
          | succ index =>
              have there : index < entries.length :=
                Nat.lt_of_succ_lt_succ inside
              simpa [behind] using induction _ there

end

end

/-! ## The files that are not taken up -/

section

variable {σ : Type} [UsageStore σ] {store other : FileStore σ}

theorem fixFile_of_agrees {entry : FilePlan}
    (agrees : other.AgreesAt store entry.file) (checker : Checker)
    (settings : Settings) (site : Site σ) :
    @fixFile σ other _ checker settings entry site =
      @fixFile σ store _ checker settings entry site := by
  have commits (content : Text) (site : Site σ) :
      @commit σ other settings entry.file content site =
        @commit σ store settings entry.file content site := by
    simp only [commit, (agrees site.place).2]
  simp only [fixFile, (agrees site.place).1, commits]

/-- What lies at the files that a run has no reports on is of no matter to
it. -/
theorem fixFiles_of_agrees (checker : Checker) (settings : Settings)
    (entries : List FilePlan) (site : Site σ)
    (agrees : ∀ entry ∈ entries.take
      (@fixFiles σ store _ checker settings entries site).1.length,
      other.AgreesAt store entry.file) :
    @fixFiles σ other _ checker settings entries site =
      @fixFiles σ store _ checker settings entries site := by
  induction entries generalizing site with
  | nil => rfl
  | cons entry entries induction =>
      simp only [fixFiles] at agrees ⊢
      split at agrees
      · next cancelled => rw [if_pos cancelled, if_pos cancelled]
      · next going =>
          simp only [List.length_cons, List.take_succ_cons,
            List.forall_mem_cons] at agrees
          rw [if_neg going, if_neg going, fixFile_of_agrees agrees.1,
            induction _ agrees.2]

end

variable {σ : Type} [store : FileStore σ] [UsageStore σ]

/-- However the user cancels, a run does what the undisturbed run does with the
files up to the one during which the user cancels, this one included, and with
no other. It reports on these files and says that it was cancelled if there are
more. It makes no call for the others, and no matter what a store has there, the
run is the same. -/
theorem cancelling_cuts_between_files (checker : Checker) (settings : Settings)
    (plan : Plan) (site : Site σ) :
    let run := execute checker settings plan site
    let whole := execute checker settings plan site.undisturbed
    let upTo (count : Nat) :=
      execute checker settings (plan.first count) site.undisturbed
    let count := run.1.files.length
    (whole.1.cancelled = false ∧
      whole.1.files.map FileReport.file = plan.entries.map FilePlan.file) ∧
    run.1.files <+: whole.1.files ∧
    run.2.undisturbed = (upTo count).2 ∧
    (∀ index < plan.entries.length, index < count ↔
      ¬site.DisturbedBy (upTo index).2) ∧
    (run.1.cancelled = true ↔ count < plan.entries.length) ∧
    execute checker settings (plan.first count) site =
      ({ run.1 with cancelled := false }, run.2) ∧
    ∀ other : FileStore σ,
      (∀ entry ∈ plan.entries.take count, other.AgreesAt store entry.file) →
      @execute σ other _ checker settings plan site = run := by
  intro run whole upTo count
  have upTo_site (index : Nat) :
      (upTo index).2 = (behind checker settings
          (plan.entries.take index) site).undisturbed := by
    obtain ⟨reports, undisturbed, -⟩ :=
      fixFiles_on_undisturbed checker settings (plan.entries.take index) site
    exact congrArg (fun run => run.2.2) undisturbed
  obtain ⟨cut, site_eq⟩ := fixFiles_take checker settings plan.entries site
  refine ⟨?_, fixFiles_prefix checker settings plan.entries site, ?_, ?_,
    fixFiles_cancelled_iff checker settings plan.entries site, ?_, ?_⟩
  · obtain ⟨reports, undisturbed, names⟩ :=
      fixFiles_on_undisturbed checker settings plan.entries site
    refine ⟨congrArg (fun run => run.2.1) undisturbed, ?_⟩
    rw [← names]
    exact congrArg (fun run => run.1.map FileReport.file) undisturbed
  · rw [upTo_site]
    exact congrArg Site.undisturbed site_eq
  · intro index inside
    have heeds := behind_heeds checker settings (plan.entries.take index) site
    have taken :=
      lt_length_fixFiles_iff checker settings plan.entries site inside
    rw [upTo_site, Site.DisturbedBy, prompts_undisturbed, ← Site.DisturbedBy,
      ← heeds.cancelled, Bool.not_eq_true]
    exact taken
  · have cut : fixFiles checker settings (plan.first count).entries site = _ :=
      cut
    simp only [execute, cut]
    rfl
  · intro other agrees
    have same : @fixFiles σ other _ checker settings plan.entries site = _ :=
      fixFiles_of_agrees checker settings plan.entries site agrees
    simp only [execute, same]
    rfl

end Run

end LintMend
