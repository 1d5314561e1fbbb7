import LintMend.Proofs.Run.Accounting
import LintMend.Run.Review

/-!
# Calls and their grants

A run and the review behind it deal with their surroundings in four ways: they
look at the budget, record a call in it, ask the assistant, and write a file.
`Deals` follows a site from one dealing to the next, whatever becomes of the
usage store on the way. Every call to the assistant stands right behind the
record that granted it, and a finding that is left for later leaves its lines as
they are.
-/

namespace LintMend

/-- What a run does to its surroundings. -/
inductive Dealing
  | looked (free : Bool)
  | recorded (granted : Bool)
  | asked (prompt : String)
  | wrote (path : Path)

/-- Calls, and the records that grant one. -/
def Dealing.isCharged : Dealing → Bool
  | recorded granted => granted
  | asked _ => true
  | looked _ | wrote _ => false

/-- What the assistant was asked with so far. -/
def Site.prompts {σ : Type} (site : Site σ) : List String :=
  (site.helper.map fun helper => helper.assistant.prompts).getD []

namespace Run

variable {σ : Type} [FileStore σ] [UsageStore σ]

/-- One dealing and the site behind it. -/
inductive Deal (clock : Clock) : Site σ → Dealing → Site σ → Prop where
  | look {site : Site σ} {helper : Helper} {free : Bool} {tracker : Tracker}
      {place : σ} :
      site.helper = some helper →
      helper.tracker.canProceed helper.assistant.provider
          (clock.shows helper.looks) site.place =
        (free, tracker, place) →
      Deal clock site (.looked free)
        { site with
          place
          helper := some { helper with tracker, looks := helper.looks + 1 } }
  | record {site : Site σ} {helper : Helper} {granted : Bool}
      {tracker : Tracker} {place : σ} :
      site.helper = some helper →
      helper.tracker.record helper.assistant.provider
          (clock.shows helper.looks) site.place =
        (granted, tracker, place) →
      Deal clock site (.recorded granted)
        { site with
          place
          helper := some { helper with tracker, looks := helper.looks + 1 } }
  | ask {site : Site σ} {helper : Helper} (prompt : String)
      (clean : Text → Except AssistFault Text) :
      site.helper = some helper →
      Deal clock site (.asked prompt)
        { site with
          helper := some { helper with
            assistant := (helper.assistant.ask prompt clean).2.2 }
          cancelled :=
            site.cancelled || (helper.assistant.ask prompt clean).2.1 }
  | write {site : Site σ} {path : Path} {content : Text} {place : σ} :
      FileStore.replace site.place path content = .ok place →
      Deal clock site (.wrote path) { site with place }

inductive Deals (clock : Clock) : Site σ → List Dealing → Site σ → Prop where
  | nil {site : Site σ} : Deals clock site [] site
  | cons {site middle after : Site σ} {dealing : Dealing}
      {dealings : List Dealing} :
      Deal clock site dealing middle → Deals clock middle dealings after →
      Deals clock site (dealing :: dealings) after

theorem Deals.append {clock : Clock} {site middle after : Site σ}
    {first second : List Dealing} (front : Deals clock site first middle)
    (back : Deals clock middle second after) :
    Deals clock site (first ++ second) after := by
  induction front with
  | nil => exact back
  | cons deal _ induction => exact .cons deal (induction back)

/-- From one site to the other there is a way on which grants and calls take
turns, a grant in front of its call; the calls are those that the assistant
remembers. -/
def Paid (clock : Clock) (site after : Site σ) : Prop :=
  ∃ dealings prompts, Deals clock site dealings after ∧
    dealings.filter Dealing.isCharged =
      prompts.flatMap (fun prompt => [.recorded true, .asked prompt]) ∧
    after.prompts = site.prompts ++ prompts

theorem Paid.refl (clock : Clock) (site : Site σ) : Paid clock site site :=
  ⟨[], [], .nil, rfl, (List.append_nil _).symm⟩

theorem Paid.trans {clock : Clock} {site middle after : Site σ}
    (front : Paid clock site middle) (back : Paid clock middle after) :
    Paid clock site after := by
  obtain ⟨first, early, firstDeals, firstCharged, firstAsked⟩ := front
  obtain ⟨second, late, secondDeals, secondCharged, secondAsked⟩ := back
  refine ⟨first ++ second, early ++ late, firstDeals.append secondDeals, ?_, ?_⟩
  · rw [List.filter_append, firstCharged, secondCharged, List.flatMap_append]
  · rw [secondAsked, firstAsked, List.append_assoc]

/-! ## Taking a call -/

/-- The dealings of taking a call are charged with a grant exactly if the call
is granted. -/
theorem takeCall_deals {clock : Clock} {site : Site σ} {helper taken : Helper}
    {granted : Bool} {place : σ} (there : site.helper = some helper)
    (called : takeCall clock helper site.place = (granted, taken, place)) :
    taken.assistant = helper.assistant ∧
      ∃ dealings, Deals clock site dealings { site with
        place, helper := some taken } ∧
        dealings.filter Dealing.isCharged =
          if granted then [.recorded true] else [] := by
  unfold takeCall at called
  rcases looked : helper.tracker.canProceed helper.assistant.provider
    (clock.shows helper.looks) site.place with ⟨free, tracker, left⟩
  have look := Deal.look there looked
  simp only [looked] at called
  cases free with
  | false =>
      cases called
      exact ⟨rfl, [.looked false], .cons look .nil, rfl⟩
  | true =>
      rcases recorded : tracker.record helper.assistant.provider
        (clock.shows (helper.looks + 1)) left with ⟨answer, charged, written⟩
      simp only [recorded, if_true] at called
      cases called
      refine ⟨rfl, [.looked true, .recorded granted], ?_, ?_⟩
      · exact .cons look (.cons (.record rfl recorded) .nil)
      · cases granted <;> rfl

theorem paid_of_refused {clock : Clock} {site : Site σ} {helper taken : Helper}
    {place : σ} (there : site.helper = some helper)
    (refused : takeCall clock helper site.place = (false, taken, place)) :
    Paid clock site { site with place, helper := some taken } := by
  obtain ⟨same, dealings, way, charged⟩ := takeCall_deals there refused
  refine ⟨dealings, [], way, charged, ?_⟩
  simp [Site.prompts, there, same]

/-- A call that is granted is made at once. -/
theorem paid_of_granted {clock : Clock} {site : Site σ} {helper taken : Helper}
    {place : σ} (there : site.helper = some helper)
    (granted : takeCall clock helper site.place = (true, taken, place))
    (prompt : String) (clean : Text → Except AssistFault Text) :
    Paid clock site
      { place
        helper :=
          some { taken with
            assistant := (taken.assistant.ask prompt clean).2.2 }
        cancelled :=
          site.cancelled || (taken.assistant.ask prompt clean).2.1 } := by
  obtain ⟨same, dealings, way, charged⟩ := takeCall_deals there granted
  have asked := way.append (.cons (.ask prompt clean rfl) .nil)
  refine ⟨dealings ++ [.asked prompt], [prompt], asked, ?_, ?_⟩
  · rw [List.filter_append, charged]
    rfl
  · simp [Site.prompts, there, same, Assistant.ask]

/-! ## Carrying out a plan -/

theorem assist_paid (settings : Settings) (item : PlannedIssue)
    (buffer : Buffer) (site : Site σ) :
    Paid settings.now site (assist settings item buffer site).2.2 := by
  unfold assist
  split
  · exact .refl _ _
  · next helper there =>
      simp only
      split
      · exact .refl _ _
      · split
        · next refused => exact paid_of_refused there refused
        · next granted =>
            split
            · exact paid_of_granted there granted _ Reply.cleanSuggestion
            · exact paid_of_granted there granted _ Reply.cleanSuggestion

theorem fixIssue_paid (settings : Settings) (item : PlannedIssue)
    (buffer : Buffer) (site : Site σ) :
    Paid settings.now site (fixIssue settings item buffer site).2.2 := by
  unfold fixIssue
  split
  · exact .refl _ _
  · exact assist_paid settings item buffer site

theorem fixIssues_paid (settings : Settings) (items : List PlannedIssue)
    (buffer : Buffer) (site : Site σ) :
    Paid settings.now site (fixIssues settings items buffer site).2.2 := by
  induction items generalizing buffer site with
  | nil => exact .refl _ _
  | cons item items induction =>
      rw [fixIssues]
      exact (fixIssue_paid settings item buffer site).trans (induction _ _)

theorem commit_paid {settings : Settings} {path : Path} {content : Text}
    {site after : Site σ}
    (committed : commit settings path content site = .ok after) :
    Paid settings.now site after := by
  unfold commit at committed
  split at committed
  · cases committed
    exact .refl _ _
  · cases written : FileStore.replace site.place path content with
    | error fault =>
        rw [written] at committed
        cases committed
    | ok place =>
        rw [written] at committed
        cases committed
        exact ⟨[.wrote path], [], .cons (.write written) .nil, rfl,
          (List.append_nil _).symm⟩

theorem Staged.paid {settings : Settings} {entry : FilePlan}
    {site moved : Site σ} {old : Text}
    {outcomes : List (PlannedIssue × Outcome)} {buffer : Buffer}
    (staged : Staged settings entry site old outcomes buffer moved) :
    Paid settings.now site moved := by
  have fixed := fixIssues_paid settings entry.issues (.ofText old) site
  rwa [staged.fixes] at fixed

theorem FileCycle.paid {checker : Checker} {settings : Settings}
    {entry : FilePlan} {site after : Site σ} {done : FileReport}
    (cycle : FileCycle checker settings entry site done after) :
    Paid settings.now site after := by
  cases cycle with
  | unreadable => exact .refl _ _
  | idle staged | rolledBack staged | unwritten staged => exact staged.paid
  | finished staged _ _ committed =>
      exact staged.paid.trans (commit_paid committed)

theorem fixFiles_paid (checker : Checker) (settings : Settings)
    (entries : List FilePlan) (site : Site σ) :
    Paid settings.now site (fixFiles checker settings entries site).2.2 := by
  induction entries generalizing site with
  | nil => exact .refl _ _
  | cons entry entries induction =>
      rw [fixFiles]
      split
      · exact .refl _ _
      · exact (fixFile_cycle checker settings entry site).paid.trans
          (induction _)

end Run

/-! ## Reviewing files -/

namespace Review

variable {σ : Type} [FileStore σ] [UsageStore σ]

theorem reviewFiles_paid (clock : Clock)
    (files : List (Path × List ClassifiedIssue)) (helper : Helper)
    (site : Site σ) :
    let reviewed := reviewFiles clock files helper site
    Run.Paid clock { site with helper := some helper }
      { reviewed.2.2 with helper := some reviewed.2.1 } := by
  induction files generalizing helper site with
  | nil => exact .refl _ _
  | cons file files induction =>
      obtain ⟨path, findings⟩ := file
      let before : Site σ := { site with helper := some helper }
      have there : before.helper = some helper := rfl
      simp only [reviewFiles]
      split
      · exact .refl _ _
      · split
        · exact induction helper site
        · next content _ =>
            split
            · next refused => exact Run.paid_of_refused there refused
            · next granted =>
                have asked := Run.paid_of_granted there granted
                  (request path findings content).prompt Reply.cleanReview
                apply asked.trans
                exact induction _ { site with
                  place := _, cancelled := site.cancelled || _ }

theorem run_paid (clock : Clock) (maxFiles : Nat) (queue : List ClassifiedIssue)
    (site : Site σ) :
    Run.Paid clock site (run clock maxFiles queue site).2 := by
  unfold run
  split
  · exact .refl _ _
  · next helper there =>
      have reviewed :=
        reviewFiles_paid clock ((byFile queue).take maxFiles) helper site
      have start : { site with helper := some helper } = site := by rw [← there]
      rwa [start] at reviewed

end Review

/-! ## Findings left for later -/

namespace Run

/-- A finding that is taken up, with the buffer and the site as they are
then. -/
structure Turn (σ : Type) where
  item : PlannedIssue
  buffer : Buffer
  site : Site σ

variable {σ : Type} [UsageStore σ]

def Turn.taken (settings : Settings) (turn : Turn σ) :
    Outcome × Buffer × Site σ :=
  fixIssue settings turn.item turn.buffer turn.site

/-- The findings of a file one after another. -/
def turns (settings : Settings) :
    List PlannedIssue → Buffer → Site σ → List (Turn σ)
  | [], _, _ => []
  | item :: items, buffer, site =>
    let taken := fixIssue settings item buffer site
    ⟨item, buffer, site⟩ :: turns settings items taken.2.1 taken.2.2

/-- Nothing is changed in the buffer. Only a call that failed was made. -/
structure Turn.IsLeft (settings : Settings) (turn : Turn σ)
    (reason : Deferral) : Prop where
  outcome : (turn.taken settings).1 = .deferred reason
  buffer : (turn.taken settings).2.1 = turn.buffer
  uncalled : (∀ detail, reason ≠ .assistantFailed detail) →
    (turn.taken settings).2.2.helper.map Helper.assistant =
      turn.site.helper.map Helper.assistant

@[simp]
theorem takeCall_assistant (clock : Clock) (helper : Helper) (place : σ) :
    (takeCall clock helper place).2.1.assistant = helper.assistant := by
  unfold takeCall
  simp only
  split <;> rfl

theorem assist_left {settings : Settings} {item : PlannedIssue}
    {buffer : Buffer} {site : Site σ} {reason : Deferral}
    (deferred : (assist settings item buffer site).1 = .deferred reason) :
    (assist settings item buffer site).2.1 = buffer ∧
      ((∀ detail, reason ≠ .assistantFailed detail) →
        (assist settings item buffer site).2.2.helper.map Helper.assistant =
          site.helper.map Helper.assistant) := by
  unfold assist at deferred ⊢
  split
  · exact ⟨rfl, fun _ => rfl⟩
  · next helper there =>
      have same := takeCall_assistant settings.now helper site.place
      simp only [there] at deferred ⊢
      split
      · exact ⟨rfl, fun _ => by rw [there]⟩
      · next found =>
          simp only [found] at deferred
          split
          · next refused =>
              rw [refused] at same
              exact ⟨rfl, fun _ => congrArg some same⟩
          · next granted =>
              simp only [granted] at deferred
              split
              · next failed =>
                  simp only [failed, Outcome.deferred.injEq] at deferred
                  exact ⟨rfl, fun other => absurd deferred.symm (other _)⟩
              · next suggestion answered =>
                  simp only [answered] at deferred
                  cases made : Fix.applySuggestion suggestion buffer
                    item.issue.line <;>
                    simp [made, outcomeOf] at deferred

theorem Turn.isLeft {settings : Settings} {turn : Turn σ} {reason : Deferral}
    (deferred : (turn.taken settings).1 = .deferred reason) :
    turn.IsLeft settings reason := by
  obtain ⟨item, buffer, site⟩ := turn
  have taken := deferred
  simp only [Turn.taken, fixIssue] at taken
  split at taken
  · next fix _ =>
      cases made : fix.apply settings.keepPackageFiles item.issue buffer <;>
        simp [made, outcomeOf] at taken
  · next assisted =>
      obtain ⟨kept, uncalled⟩ := assist_left taken
      refine ⟨deferred, ?_, ?_⟩
      · simpa only [Turn.taken, fixIssue, assisted] using kept
      · simpa only [Turn.taken, fixIssue, assisted] using uncalled

theorem fixIssues_turns (settings : Settings) (items : List PlannedIssue)
    (buffer : Buffer) (site : Site σ) :
    (fixIssues settings items buffer site).1 =
      (turns settings items buffer site).map fun turn =>
      (turn.item, (turn.taken settings).1) := by
  induction items generalizing buffer site with
  | nil => rfl
  | cons item items induction =>
      rw [fixIssues, turns, List.map_cons, ← induction]
      rfl

variable [FileStore σ]

/-- The findings of a file that is taken up at a site. There are none if it
cannot be read. -/
def turnsOf (settings : Settings) (visit : FilePlan × Site σ) : List (Turn σ) :=
  match FileStore.read visit.2.place visit.1.file with
  | .error _ => []
  | .ok content => turns settings visit.1.issues (.ofText content) visit.2

/-- A finding that the report counts as left for later was left so when it was
taken up. -/
def Leaves (settings : Settings) (visit : FilePlan × Site σ)
    (report : FileReport) : Prop :=
  ∀ (number : Nat) (made : IssueOutcome) (reason : Deferral),
    report.outcomes[number]? = some made → made.outcome = .deferred reason →
    ∃ turn, (turnsOf settings visit)[number]? = some turn ∧
    turn.item.issue = made.issue ∧
      turn.IsLeft settings reason

section

variable {settings : Settings} {entry : FilePlan} {site moved : Site σ}
  {old : Text} {outcomes : List (PlannedIssue × Outcome)} {buffer : Buffer}

theorem Staged.turnsOf_eq
    (staged : Staged settings entry site old outcomes buffer moved) :
    outcomes = (turnsOf settings (entry, site)).map
      fun turn => (turn.item, (turn.taken settings).1) := by
  have same := fixIssues_turns settings entry.issues (.ofText old) site
  rw [staged.fixes] at same
  simpa only [turnsOf, staged.read] using same

/-- Other outcomes than fixes are those of the turns. -/
theorem Staged.leaves
    (staged : Staged settings entry site old outcomes buffer moved)
    {shown : List (PlannedIssue × Outcome)} {report : FileReport}
    (reported : report.outcomes = shown.map fun (item, outcome) =>
      { issue := item.issue, outcome })
    (kept : ∀ (number : Nat) (item : PlannedIssue) (reason : Deferral),
      shown[number]? = some (item, .deferred reason) →
      outcomes[number]? = some (item, .deferred reason)) :
    Leaves settings (entry, site) report := by
  intro number made reason found deferred
  rw [reported, List.getElem?_map, Option.map_eq_some_iff] at found
  obtain ⟨⟨item, outcome⟩, there, rfl⟩ := found
  cases deferred
  have before := kept number item reason there
  rw [staged.turnsOf_eq, List.getElem?_map, Option.map_eq_some_iff] at before
  obtain ⟨turn, taken, same⟩ := before
  obtain ⟨rfl, outcome⟩ := Prod.mk.inj same
  exact ⟨turn, taken, rfl, turn.isLeft outcome⟩

end

theorem deferred_of_replaceFixed {replacement : Outcome}
    {outcomes : List (PlannedIssue × Outcome)}
    (other : replacement.isDeferred = false) {number : Nat}
    {item : PlannedIssue} {reason : Deferral}
    (found : (replaceFixed replacement outcomes)[number]? =
      some (item, .deferred reason)) :
    outcomes[number]? = some (item, .deferred reason) := by
  rw [replaceFixed, List.getElem?_map, Option.map_eq_some_iff] at found
  obtain ⟨⟨before, outcome⟩, there, same⟩ := found
  rw [there]
  cases outcome with
  | fixed =>
      obtain ⟨-, rfl⟩ := Prod.mk.inj same
      cases other
  | deferred | skipped | rolledBack => exact congrArg some same

theorem FileCycle.leaves {checker : Checker} {settings : Settings}
    {entry : FilePlan} {site after : Site σ} {done : FileReport}
    (cycle : FileCycle checker settings entry site done after) :
    Leaves settings (entry, site) done := by
  cases cycle with
  | unreadable =>
      intro number made reason found deferred
      simp only [Run.unreadable, report, List.map_map, List.getElem?_map,
        Option.map_eq_some_iff] at found
      obtain ⟨item, -, rfl⟩ := found
      cases deferred
  | idle staged | finished staged =>
      exact staged.leaves rfl fun _ _ _ found => found
  | rolledBack staged | unwritten staged =>
      exact staged.leaves rfl fun _ _ _ found =>
        deferred_of_replaceFixed rfl found

theorem fixFiles_leaves (checker : Checker) (settings : Settings)
    (entries : List FilePlan) (site : Site σ) :
    List.Forall₂ (Leaves settings) (visits checker settings entries site)
      (fixFiles checker settings entries site).1 :=
  fixFiles_visits (fun cycle => cycle.leaves) entries site

/-- In a run and the review behind it, grants and calls take turns, whatever the
assistant answers and wherever the usage store fails: every record that grants a
call is followed by that call before the next one is recorded, and no other call
is made. The calls are those that the assistant remembers. A finding that ends
as left for later, in whatever file of the run, has changed no line, and unless
the call for it failed there was no call for it. -/
theorem calls_follow_grants (checker : Checker) (settings : Settings)
    (plan : Plan) (maxFiles : Nat) (queue : List ClassifiedIssue)
    (site : Site σ) :
    let executed := execute checker settings plan site
    let reviewed := Review.run settings.now maxFiles queue executed.2
    (∃ dealings prompts, Deals settings.now site dealings reviewed.2 ∧
      dealings.filter Dealing.isCharged =
        prompts.flatMap (fun prompt => [.recorded true, .asked prompt]) ∧
      reviewed.2.prompts = site.prompts ++ prompts) ∧
    List.Forall₂ (Leaves settings) (visits checker settings plan.entries site)
      executed.1.files := by
  intro executed reviewed
  have carriedOut := fixFiles_paid checker settings plan.entries site
  have review := Review.run_paid settings.now maxFiles queue executed.2
  exact ⟨carriedOut.trans review,
    fixFiles_leaves checker settings plan.entries site⟩

end Run

end LintMend
