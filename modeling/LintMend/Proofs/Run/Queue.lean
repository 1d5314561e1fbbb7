import LintMend.Proofs.Run.Reviewing

/-!
# The walk through a review queue

A review takes the files of its queue one after another, each file where its
first finding stands. One file ends in one of three ways, which `Reviewed` tells
apart: it cannot be read, there is no call left for it, or the assistant is
asked. Only the second one ends the walk, and so does the user, who may cancel
during any call.
-/

namespace LintMend

def ReviewOutcome.IsLimited : ReviewOutcome → Prop
  | rateLimited _ => True
  | suggestions _ | failed _ => False

namespace Review

/-- The files of a queue, each one where it first appears. -/
def filesOf (queue : List ClassifiedIssue) : List Path :=
  (queue.map fun finding => finding.issue.file).eraseDups

def findingsIn (path : Path) (queue : List ClassifiedIssue) :
    List ClassifiedIssue :=
  queue.filter fun finding => path.same finding.issue.file

variable {σ : Type} [FileStore σ] [UsageStore σ]

/-- What becomes of one file. A file that cannot be read leaves the site as it
is, its budget included. -/
inductive Reviewed (clock : Clock) (queue : List ClassifiedIssue) (path : Path)
    (site : Site σ) :
    ReviewOutcome → Site σ → Prop where
  | unreadable {fault : FileFault} :
      FileStore.read site.place path = .error fault →
      Reviewed clock queue path site
        (.failed ("unreadable: " ++ fault.message)) site
  | limited {helper taken : Helper} {content : Text} {place : σ} :
      FileStore.read site.place path = .ok content →
      site.helper = some helper →
      Run.takeCall clock helper site.place = (false, taken, place) →
      Reviewed clock queue path site (.rateLimited helper.assistant.provider)
        { site with place, helper := some taken }
  | answered {helper taken : Helper} {content : Text} {place : σ}
      {first : ClassifiedIssue}
      {reply : Except AssistFault Text} {cancels : Bool}
      {assistant : Assistant} :
      FileStore.read site.place path = .ok content →
      site.helper = some helper →
      Run.takeCall clock helper site.place = (true, taken, place) →
      (findingsIn path queue).head? = some first →
      taken.assistant.review
          { file := path
            language := first.issue.language
            code := content.take 2000
            findings := ((findingsIn path queue).take 20).map findingText } =
        (reply, cancels, assistant) →
      Reviewed clock queue path site
        (match reply with
          | .ok text => .suggestions text
          | .error fault => .failed fault.message)
        { place, helper := some { taken with assistant },
          cancelled := site.cancelled || cancels }

/-- Reviews one after another, each with the number of findings in its file and
none behind the user's cancelling. -/
inductive Reviews (clock : Clock) (queue : List ClassifiedIssue) :
    Site σ → List FileReview → Site σ → Prop where
  | nil {site : Site σ} : Reviews clock queue site [] site
  | cons {site middle after : Site σ} {review : FileReview}
      {reviews : List FileReview} :
      site.cancelled = false →
      Reviewed clock queue review.file site review.outcome middle →
      review.findings = (findingsIn review.file queue).length →
      Reviews clock queue middle reviews after →
      Reviews clock queue site (review :: reviews) after

/-! ## The files of a queue -/

theorem addToFile_paths (entry : ClassifiedIssue)
    (groups : List (Path × List ClassifiedIssue)) :
    (addToFile entry groups).map Prod.fst =
      if (groups.map Prod.fst).any (·.same entry.issue.file) then
      groups.map Prod.fst
      else groups.map Prod.fst ++ [entry.issue.file] := by
  rcases addToFile_cases entry groups with
    ⟨front, path, found, behind, rfl, joins, added⟩ | ⟨apart, added⟩
  · rw [added, if_pos]
    · simp
    · simp [joins]
  · rw [added, if_neg]
    · simp
    · simpa using apart

/-- Behind the groups that are there, the files of the further findings begin
new ones. -/
theorem foldl_addToFile_paths (queue : List ClassifiedIssue)
    (groups : List (Path × List ClassifiedIssue)) :
    (queue.foldl (fun groups entry => addToFile entry groups) groups).map
        Prod.fst =
      groups.map Prod.fst ++
        ((queue.map fun entry => entry.issue.file).filter fun path =>
          !(groups.map Prod.fst).any (·.same path)).eraseDups := by
  induction queue generalizing groups with
  | nil => simp
  | cons entry queue induction =>
      rw [List.foldl_cons, induction, addToFile_paths, List.map_cons]
      split
      · next known => rw [List.filter_cons_of_neg (by simpa using known)]
      · next fresh =>
          -- The new group's file is left out of the rest by either side.
          have left (path : Path) :
              (!(groups.map Prod.fst ++ [entry.issue.file]).any (·.same path)) =
                (!(path == entry.issue.file) &&
                  !(groups.map Prod.fst).any (·.same path)) := by
            rw [List.any_append, List.any_cons, List.any_nil, Bool.or_false,
              Bool.not_or, Bool.and_comm, Path.same_comm entry.issue.file path]
            rfl
          rw [List.filter_cons_of_pos (by simpa using fresh),
            List.eraseDups_cons, List.append_assoc, List.singleton_append,
            List.filter_filter, funext left]

@[simp]
theorem byFile_paths (queue : List ClassifiedIssue) :
    (byFile queue).map Prod.fst = filesOf queue := by
  rw [byFile, foldl_addToFile_paths, filesOf]
  simp

theorem filesOf_apart (queue : List ClassifiedIssue) :
    (filesOf queue).Pairwise fun first second => first.same second = false :=
  byFile_paths queue ▸ (byFile_grouped queue).apart

/-! ## The walk -/

/-- How a review goes through the files in front of it: to their end, to the
user's cancelling or to a call that is refused. -/
inductive Walk (clock : Clock) (queue : List ClassifiedIssue) :
    List Path → Site σ → List FileReview → Site σ → Prop where
  | finished {site : Site σ} : Walk clock queue [] site [] site
  | cancelled {paths : List Path} {site : Site σ} :
      site.cancelled = true → Walk clock queue paths site [] site
  | limited {paths : List Path} {site after : Site σ} (review : FileReview) :
      site.cancelled = false →
      Reviewed clock queue review.file site review.outcome after →
      review.findings = (findingsIn review.file queue).length →
      review.outcome.IsLimited →
      Walk clock queue (review.file :: paths) site [review] after
  | next {paths : List Path} {site middle after : Site σ} (review : FileReview)
      {reviews : List FileReview} :
      site.cancelled = false →
      Reviewed clock queue review.file site review.outcome middle →
      review.findings = (findingsIn review.file queue).length →
      ¬ review.outcome.IsLimited →
      Walk clock queue paths middle reviews after →
      Walk clock queue (review.file :: paths) site (review :: reviews) after

theorem request_eq {path : Path} {queue : List ClassifiedIssue}
    {first : ClassifiedIssue}
    (begins : (findingsIn path queue).head? = some first) (content : Text) :
    request path (findingsIn path queue) content =
      { file := path
        language := first.issue.language
        code := content.take 2000
        findings := ((findingsIn path queue).take 20).map findingText } := by
  rw [request, begins]
  rfl

section

variable {clock : Clock} {queue : List ClassifiedIssue} {path : Path}
  {site : Site σ} {helper taken : Helper} {content : Text} {place : σ}

theorem reviewed_of_refused
    (read : FileStore.read site.place path = .ok content)
    (refused : Run.takeCall clock helper site.place = (false, taken, place)) :
    Reviewed clock queue path { site with helper := some helper }
      (.rateLimited taken.assistant.provider) { site with
        place, helper := some taken } := by
  have same := Run.takeCall_assistant clock helper site.place
  rw [refused] at same
  rw [same]
  exact .limited read rfl refused

theorem reviewed_of_granted
    (read : FileStore.read site.place path = .ok content)
    (granted : Run.takeCall clock helper site.place = (true, taken, place))
    (filled : findingsIn path queue ≠ []) :
    let asked :=
      taken.assistant.review (request path (findingsIn path queue) content)
    Reviewed clock queue path { site with helper := some helper }
      (match asked.1 with
        | .ok text => .suggestions text
        | .error fault => .failed fault.message)
      { place
        helper := some { taken with assistant := asked.2.2 }
        cancelled := site.cancelled || asked.2.1 } := by
  obtain ⟨first, begins⟩ : ∃ first,
      (findingsIn path queue).head? = some first :=
    Option.ne_none_iff_exists'.mp (mt List.head?_eq_none_iff.mp filled)
  rw [request_eq begins]
  exact .answered read rfl granted begins rfl

end

theorem reviewFiles_walk (clock : Clock) (queue : List ClassifiedIssue)
    (groups : List (Path × List ClassifiedIssue)) (helper : Helper)
    (site : Site σ)
    (found : ∀ group ∈ groups, group.2 = findingsIn group.1 queue)
    (filled : ∀ group ∈ groups, group.2 ≠ []) :
    let reviewed := reviewFiles clock groups helper site
    Walk clock queue (groups.map Prod.fst)
    { site with helper := some helper } reviewed.1
      { reviewed.2.2 with helper := some reviewed.2.1 } := by
  induction groups generalizing helper site with
  | nil => exact .finished
  | cons group groups induction =>
      obtain ⟨path, findings⟩ := group
      have here : findings = findingsIn path queue := found _ List.mem_cons_self
      have filledHere : findingsIn path queue ≠ [] :=
        here ▸ filled _ List.mem_cons_self
      have behind (helper : Helper) (site : Site σ) := induction helper site
        (fun group inside => found group (List.mem_cons_of_mem _ inside))
        (fun group inside => filled group (List.mem_cons_of_mem _ inside))
      subst here
      simp only [reviewFiles, List.map_cons]
      split
      · next isCancelled => exact .cancelled isCancelled
      · next free =>
          have free : site.cancelled = false := by simpa using free
          split
          · next fault unreadable =>
              exact .next ⟨path, _, _⟩ free (.unreadable unreadable) rfl id
                (behind helper site)
          · next content read =>
              split
              · next taken place refused =>
                  exact .limited ⟨path, _, _⟩ free
                    (reviewed_of_refused read refused) rfl trivial
              · next taken place granted =>
                  refine .next ⟨path, _, _⟩ free
                    (reviewed_of_granted read granted filledHere) rfl
                    ?_ (behind _ { site with
                      place, cancelled := site.cancelled || _ })
                  split <;> exact id

namespace Walk

variable {clock : Clock} {queue : List ClassifiedIssue} {paths : List Path}
  {site after : Site σ} {reviews : List FileReview}

theorem chain (walk : Walk clock queue paths site reviews after) :
    Reviews clock queue site reviews after := by
  induction walk with
  | finished | cancelled => exact .nil
  | limited _ free reviewed count => exact .cons free reviewed count .nil
  | next _ free reviewed count _ _ induction =>
      exact .cons free reviewed count induction

theorem files_prefix (walk : Walk clock queue paths site reviews after) :
    reviews.map FileReview.file <+: paths := by
  induction walk with
  | finished | cancelled => exact List.nil_prefix
  | limited => exact List.cons_prefix_cons.mpr ⟨rfl, List.nil_prefix⟩
  | next _ _ _ _ _ _ induction =>
      exact List.cons_prefix_cons.mpr ⟨rfl, induction⟩

theorem limited_last (walk : Walk clock queue paths site reviews after) :
    ∀ review ∈ reviews.dropLast, ¬ review.outcome.IsLimited := by
  induction walk with
  | finished | cancelled | limited => simp
  | @next _ _ _ _ _ reviews _ _ _ unlimited _ induction =>
      cases reviews with
      | nil => simp
      | cons => exact List.forall_mem_cons.mpr ⟨unlimited, induction⟩

/-- A walk that leaves files out was stopped. -/
theorem stopped (walk : Walk clock queue paths site reviews after)
    (short : reviews.length < paths.length) :
    (∃ review, reviews.getLast? = some review ∧ review.outcome.IsLimited) ∨
      after.cancelled = true := by
  induction walk with
  | finished => cases short
  | cancelled isCancelled => exact .inr isCancelled
  | limited review _ _ _ isLimited => exact .inl ⟨review, rfl, isLimited⟩
  | next _ _ _ _ _ _ induction =>
      rcases induction (Nat.lt_of_succ_lt_succ short) with
        ⟨review, last, isLimited⟩ | isCancelled
      · exact .inl ⟨review, by rw [List.getLast?_cons, last]; rfl, isLimited⟩
      · exact .inr isCancelled

end Walk

/-- A review goes through the files of its queue in their order, up to the cap,
and takes none twice. Nothing is reviewed behind a refused call, and files are
left out only behind such a call or after the user has cancelled. -/
theorem reviews_follow_queue (clock : Clock) (maxFiles : Nat)
    (queue : List ClassifiedIssue) (site : Site σ) (helper : Helper)
    (there : site.helper = some helper) :
    let reviewed := run clock maxFiles queue site
    let paths := (filesOf queue).take maxFiles
    reviewed.1.map FileReview.file <+: paths ∧
    (reviewed.1.map FileReview.file).Pairwise (fun first second =>
      first.same second = false) ∧
    Reviews clock queue site reviewed.1 reviewed.2 ∧
    (∀ review ∈ reviewed.1.dropLast, ¬ review.outcome.IsLimited) ∧
    (reviewed.1.length < paths.length →
      (∃ review, reviewed.1.getLast? = some review ∧ review.outcome.IsLimited) ∨
        reviewed.2.cancelled = true) := by
  intro reviewed paths
  have walk : Walk clock queue paths site reviewed.1 reviewed.2 := by
    have grouped := byFile_grouped queue
    have walked :=
      reviewFiles_walk clock queue ((byFile queue).take maxFiles) helper site
      (fun group inside => grouped.found group (List.mem_of_mem_take inside))
      (fun group inside => grouped.filled group (List.mem_of_mem_take inside))
    have same : { site with helper := some helper } = site := there ▸ rfl
    rw [List.map_take, byFile_paths, same] at walked
    simpa only [reviewed, run, there] using walked
  have apart : paths.Pairwise fun first second => first.same second = false :=
    (filesOf_apart queue).sublist (List.take_sublist maxFiles _)
  exact ⟨walk.files_prefix, apart.sublist walk.files_prefix.sublist, walk.chain,
    walk.limited_last, walk.stopped⟩

/-! A queue of four files, one of them spelled in two ways. The first one is not
there, and the second one takes the only call of the budget. -/

def unclearIn (file : String) (line : Nat) : ClassifiedIssue :=
  { issue := ⟨⟨file⟩, line, "E722", "Do not use bare `except`", .python⟩
    classification := RuleTable.standard.classify "E722" .python }

def unclearQueue : List ClassifiedIssue :=
  [unclearIn "a.py" 1, unclearIn "lib/b.py" 4, unclearIn "c.py" 2,
    unclearIn "lib//b.py" 9, unclearIn "d.py" 1]

def oneCall : Helper :=
  { assistant :=
      { provider := "groq", answers := [.clean "1. Name it.".toList],
        cancelOn := none
        prompts := [] }
    tracker :=
      { limit := 1, window := 3600000000000, fallback := none,
        warnings := [] } }

def unclearSite : Site Bench :=
  { place :=
      { files :=
          { files := ["lib/b.py", "c.py", "d.py"].map fun file =>
            (⟨file⟩, "try:\n".toList)
            writes := [], denied := [] }
        usage :=
          { usage := [], loads := 0, updates := 0, failingLoads := [],
            failingUpdates := [] } }
    helper := some oneCall
    cancelled := false }

/-- The place behind the call for `lib/b.py`. -/
def unclearTaken : Bench :=
  { unclearSite.place with
    usage :=
      { unclearSite.place.usage with
        usage := [("groq", [.ofMillis 0])], loads := 1, updates := 1 } }

private theorem oneCall_taken :
    Run.takeCall (.still (.ofMillis 0)) oneCall unclearSite.place =
      (true, { oneCall with looks := 2 }, unclearTaken) := by
  -- All but the sort of the recorded instants evaluates.
  change (true, _, { unclearTaken with
    usage :=
      { unclearTaken.usage with
        usage := [("groq", [Instant.ofMillis 0].mergeSort Instant.le)] } }) = _
  rw [List.mergeSort_singleton]
  rfl

private theorem unclearQueue_reviews :
    let reviewed := run (.still (.ofMillis 0)) 4 unclearQueue unclearSite
    reviewed.1.map (fun review =>
      (review.file, review.findings, review.outcome)) =
        [(⟨"a.py"⟩, 1, .failed "unreadable: a.py"),
          (⟨"lib/b.py"⟩, 2, .suggestions "1. Name it.".toList),
          (⟨"c.py"⟩, 1, .rateLimited "groq")] ∧
      reviewed.2.cancelled = false := by
  have there : unclearSite.helper = some oneCall := rfl
  have free : unclearSite.cancelled = false := rfl
  have groups : (byFile unclearQueue).take 4 =
      [(⟨"a.py"⟩, [unclearIn "a.py" 1]),
        (⟨"lib/b.py"⟩, [unclearIn "lib/b.py" 4, unclearIn "lib//b.py" 9]),
        (⟨"c.py"⟩, [unclearIn "c.py" 2]),
        (⟨"d.py"⟩, [unclearIn "d.py" 1])] := by
    rfl
  have absent : FileStore.read unclearSite.place ⟨"a.py"⟩ =
      .error (.absent ⟨"a.py"⟩) := rfl
  have present : FileStore.read unclearSite.place ⟨"lib/b.py"⟩ =
      .ok "try:\n".toList := rfl
  simp only [run, there, groups, reviewFiles, free, absent, present,
    oneCall_taken]
  exact ⟨rfl, rfl⟩

theorem unclearQueue_followed :
    let reviewed := run (.still (.ofMillis 0)) 4 unclearQueue unclearSite
    unclearSite.helper = some oneCall ∧
    filesOf unclearQueue = [⟨"a.py"⟩, ⟨"lib/b.py"⟩, ⟨"c.py"⟩, ⟨"d.py"⟩] ∧
    reviewed.1.map (fun review =>
        (review.file, review.findings, review.outcome)) =
      [(⟨"a.py"⟩, 1, .failed "unreadable: a.py"),
        (⟨"lib/b.py"⟩, 2, .suggestions "1. Name it.".toList),
        (⟨"c.py"⟩, 1, .rateLimited "groq")] ∧
    Reviews (.still (.ofMillis 0)) unclearQueue unclearSite reviewed.1
      reviewed.2 ∧
    ∃ review, reviewed.1.getLast? = some review ∧ review.outcome.IsLimited := by
  intro reviewed
  have files : filesOf unclearQueue =
      [⟨"a.py"⟩, ⟨"lib/b.py"⟩, ⟨"c.py"⟩, ⟨"d.py"⟩] := by rfl
  obtain ⟨three, uncancelled⟩ := unclearQueue_reviews
  obtain ⟨-, -, chain, -, stopped⟩ :=
    reviews_follow_queue (.still (.ofMillis 0)) 4 unclearQueue unclearSite
      oneCall rfl
  have short : reviewed.1.length < ((filesOf unclearQueue).take 4).length := by
    have counted := congrArg List.length three
    rw [List.length_map] at counted
    rw [counted, files]
    decide
  exact ⟨rfl, files, three, chain,
    (stopped short).resolve_right (by simp [uncancelled])⟩

end Review

end LintMend
