import LintMend.Proofs.Repository.Skipping
import LintMend.Proofs.Run.Cleaning
import LintMend.Proofs.Run.Reviewing
import LintMend.Proofs.Run.Shifts

/-!
# The lines that a review cites

The findings for a review are those of the survey, with the lines where the
analyzers found them; the content that goes with them is read behind the fixes.
So a request cites lines of the old content next to the new one. A cited line
that the fixes leave alone stands as many lines off as the fixes above it have
added or removed, and the citation is right exactly where these even out.
-/

namespace LintMend

namespace Run

/-- What a citation of a line of the old content is worth next to the new
content: if the fixes leave the line alone, it stands as many lines further down
as the fixes above it add. There it reads as before, up to a carriage return
that was the last character of the file. -/
def Cited {σ : Type} [UsageStore σ] (settings : Settings)
    (turns : List (Turn σ)) (old new : Text) (number : Nat) : Prop :=
  ∀ text place, number ≠ 0 → (Text.lines old)[number - 1]? = some text →
    follow settings turns number = some place →
    let shown := ((Text.lines new)[place - 1]?).getD []
    (place : Int) = number + growthAbove settings turns number ∧
      (shown = text ∨
        old.getLast? = some '\r' ∧ number = (Text.lines old).length ∧
        text = shown ++ ['\r'])

theorem fixIssues_cited {σ : Type} [UsageStore σ] {entry : FilePlan}
    (arranged : entry.Arranged) (settings : Settings) (old : Text)
    (site : Site σ) (number : Nat) :
    Cited settings (turns settings entry.issues (.ofText old) site) old
      (fixIssues settings entry.issues (.ofText old) site).2.1.render number :=
  fun _ _ start there followed =>
    ⟨distance_of_follow arranged followed, text_of_follow followed start there⟩

end Run

namespace Workshop

variable {σ : Type} [FileStore σ] [UsageStore σ] [MemoryPlace σ]

open MemoryPlace (files)

theorem review_requests (shop : Workshop) (cancelled : Bool)
    (queue : List ClassifiedIssue) (site : Site σ) :
    ∃ requests : List ReviewRequest,
      (shop.review cancelled queue site).2.prompts =
        site.prompts ++ requests.map ReviewRequest.prompt ∧
      ∀ sent ∈ requests, ∃ found content,
        found = queue.filter (fun finding =>
          sent.file.same finding.issue.file) ∧ found ≠ [] ∧
        (files site.place).get? sent.file = some content ∧
        sent = Review.request sent.file found content := by
  unfold review
  split
  · exact ⟨[], by simp, by simp⟩
  · exact Review.run_requests shop.clock shop.config.ai.reviewFiles queue site

omit [MemoryPlace σ] in
theorem execute_apply (shop : Workshop) (plan : Plan) (site : Site σ) :
    shop.execute .apply plan site =
      (some (Run.execute shop.checker (shop.settings .apply) plan site).1,
        (Run.execute shop.checker (shop.settings .apply) plan site).2) :=
  rfl

omit [MemoryPlace σ] in
/-- A run that applies its fixes reviews the site that they leave. -/
theorem site_carryOut (shop : Workshop) {request : RunRequest}
    (applies : request.mode = .apply) (survey : Survey) (tracker : Tracker)
    (site : Site σ) :
    let run := Run.execute shop.checker (shop.settings .apply)
        (shop.planOf request survey) site
    let carried := shop.carryOut request survey tracker site
    carried.2 = (shop.review run.1.cancelled carried.1.queue run.2).2 := by
  intro run carried
  change (shop.review
    (((shop.execute request.mode (shop.planOf request survey) site).1.map
      RunSummary.cancelled).getD false) _
    (shop.execute request.mode (shop.planOf request survey) site).2).2 = _
  rw [applies, execute_apply]
  rfl

/-- Every request of a review cites findings of the survey, with their lines in
the content before the run, next to the content after the fixes. For a file that
the run has changed, a cited line that no fix has altered stands where the fixes
above it have moved it to. -/
theorem reviews_cite_lines_before_fixes (shop : Workshop) {request : RunRequest}
    (applies : request.mode = .apply) (survey : Survey) (tracker : Tracker)
    (site : Site σ) :
    let settings := shop.settings .apply
    let plan := shop.planOf request survey
    let run := Run.execute shop.checker settings plan site
    let carried := shop.carryOut request survey tracker site
    carried.1.summary = some run.1 ∧
    ∃ requests : List ReviewRequest,
      carried.2.prompts = run.2.prompts ++ requests.map ReviewRequest.prompt ∧
      ∀ sent ∈ requests, ∃ found content,
        found = carried.1.queue.filter (fun finding =>
          sent.file.same finding.issue.file) ∧
        found ≠ [] ∧
        (files run.2.place).get? sent.file = some content ∧
        sent = Review.request sent.file found content ∧
        ∀ changed ∈ run.1.files, changed.changed = true →
          changed.file.same sent.file = true →
          ∃ visit ∈ Run.visits shop.checker settings plan.entries site,
            visit.1.file.same sent.file = true ∧ ∃ old,
              (files site.place).get? sent.file = some old ∧
              ∀ finding ∈ found,
                Run.Cited settings
                (Run.turns settings visit.1.issues (.ofText old) visit.2)
                  old content finding.issue.line := by
  intro settings plan
  have ordered : Plan.InOrder plan.entries := Plan.ofTriage_inOrder _ _ _ _
  have arranged : ∀ entry ∈ plan.entries, entry.Arranged :=
    fun entry member => Plan.ofTriage_arranged member
  have applied : settings.mode = .apply := rfl
  have rendered :=
    Run.fixFiles_renders_visits shop.checker applied ordered arranged site
  have executed := shop.execute_apply plan site
  rw [← applies] at executed
  have carried := shop.site_carryOut applies survey tracker site
  obtain ⟨requests, prompts, every⟩ := shop.review_requests
    (Run.execute shop.checker settings plan site).1.cancelled
    (shop.carryOut request survey tracker site).1.queue
    (Run.execute shop.checker settings plan site).2
  rw [← carried] at prompts
  refine ⟨congrArg Prod.fst executed, requests, prompts, fun sent member => ?_⟩
  obtain ⟨found, content, cited, filled, present, made⟩ := every sent member
  refine ⟨found, content, cited, filled, present, made,
    fun changed reported wrote same => ?_⟩
  obtain ⟨visit, visited, file, old, before, after⟩ :=
    rendered changed reported wrote
  have home : visit.1.file.same sent.file = true := file ▸ same
  rw [MemoryFiles.get?_congr _ home] at before after
  refine ⟨visit, visited, home, old, before, fun finding _ => ?_⟩
  have planned :=
    (Run.visits_entries shop.checker settings plan.entries site).1.subset
    (List.mem_map_of_mem visited)
  obtain rfl : content = _ := Option.some.inj (present.symm.trans after)
  exact Run.fixIssues_cited (arranged visit.1 planned) settings old visit.2
    finding.issue.line

/-! A line is parted into two, and the finding behind it is cited one line too
high. -/

def twoStatements : Issue :=
  ⟨⟨"a.py"⟩, 1, "E702", "Multiple statements on one line (semicolon)", .python⟩

def bareExcept : Issue :=
  ⟨⟨"a.py"⟩, 4, "E722", "Do not use bare `except`", .python⟩

def exceptContent : Text :=
  "x = 1; y = 2\ntry:\n    run()\nexcept:\n    pass\n".toList

def partedContent : Text :=
  "x = 1\ny = 2\ntry:\n    run()\nexcept:\n    pass\n".toList

def exceptSurvey : Survey :=
  { root := ⟨"/r"⟩, languages := [(.python, 1)],
    issues := [twoStatements, bareExcept]
    warnings := [] }

def reviewingShop : Workshop :=
  { config := .standard
    analyzers := []
    validate := fun _ _ => .valid
    log := ⟨"/log"⟩
    now := ⟨0, 0⟩
    duration := 0 }

def applyAll : RunRequest :=
  { repository := ⟨"/r"⟩, mode := .apply, onlyRules := [] }

def exceptTracker : Tracker :=
  { limit := 10, window := 3600000000000, fallback := none, warnings := [] }

def exceptPlace (content : Text) (writes : List Path) : Bench :=
  { files := { files := [(⟨"a.py"⟩, content)], writes, denied := [] }
    usage :=
      { usage := [], loads := 0, updates := 0, failingLoads := [],
        failingUpdates := [] } }

def reviewer : Helper :=
  { assistant :=
      { provider := "groq", answers := [.clean "1. Name the exception.".toList],
        cancelOn := none
        prompts := [] }
    tracker := exceptTracker }

def exceptSite : Site Bench :=
  { place := exceptPlace exceptContent [], helper := some reviewer,
    cancelled := false }

def exceptFinding : ClassifiedIssue :=
  { issue := bareExcept, classification :=
    RuleTable.standard.classify "E722" .python }

def partedItem : PlannedIssue :=
  Plan.planned .standard twoStatements

def partedEntry : FilePlan :=
  { file := ⟨"a.py"⟩, issues := [partedItem] }

private theorem partedEntries :
    (reviewingShop.planOf applyAll exceptSurvey).entries = [partedEntry] := by
  have selected : ((Triage.ofIssues .standard exceptSurvey.issues).safe.map
      ClassifiedIssue.issue).filter (Plan.selects .everything
        { onlyRules := [], maxIssues := some 1000 }) = [twoStatements] := by rfl
  have planned :
      (Plan.distinct [] [twoStatements]).map (Plan.planned .standard) =
        [partedItem] := by rfl
  have grouped : Plan.groupByFile [partedItem] = [partedEntry] := by rfl
  have sorted : Plan.sortEntry partedEntry = partedEntry := by
    rw [Plan.sortEntry, partedEntry, List.mergeSort_singleton]
  have whole : Plan.uncapped .standard .everything
      { onlyRules := [], maxIssues := some 1000 }
      (Triage.ofIssues .standard exceptSurvey.issues) = [partedEntry] := by
    simp only [Plan.uncapped]
    rw [selected, planned, grouped, List.map_singleton, sorted]
  have table : RuleTable.withOverrides reviewingShop.config.rules.overrides =
      .standard := rfl
  have filter : reviewingShop.config.rules.filter = .everything := rfl
  have limit : reviewingShop.config.fix.maxIssues = 1000 := rfl
  simp only [planOf, plan, table, filter, limit, applyAll,
    Plan.entries_ofTriage, whole]
  rfl

private theorem partedFix :
    Run.fixIssue (reviewingShop.settings .apply) partedItem
        (.ofText exceptContent) exceptSite =
      (.fixed, .ofText partedContent, exceptSite) := by
  have strategy : partedItem.strategy = .mechanical .splitStatements := by rfl
  have made :
      Fix.splitStatements.apply true twoStatements (.ofText exceptContent) =
        .ok (.ofText partedContent) := by cbv
  have keeps : (reviewingShop.settings .apply).keepPackageFiles = true := rfl
  have issue : partedItem.issue = twoStatements := rfl
  simp only [Run.fixIssue, strategy, keeps, issue, made, Run.outcomeOf]

/-- The site behind the fixes. -/
def partedSite : Site Bench :=
  { exceptSite with place := exceptPlace partedContent [⟨"a.py"⟩] }

private theorem partedFile :
    Run.fixFile reviewingShop.checker
        (reviewingShop.settings .apply) partedEntry exceptSite =
      (Run.report partedEntry [(partedItem, .fixed)] true, partedSite) := by
  have read : FileStore.read exceptSite.place partedEntry.file =
      .ok exceptContent := rfl
  have fixes : Run.fixIssues (reviewingShop.settings .apply) partedEntry.issues
      (.ofText exceptContent) exceptSite =
        ([(partedItem, .fixed)], .ofText partedContent, exceptSite) := by
    simp only [partedEntry, Run.fixIssues, partedFix]
  have rendered : (Buffer.ofText partedContent).render = partedContent := by rfl
  have other : (partedContent == exceptContent) = false := by rfl
  have checked :
      reviewingShop.checker.check exceptContent partedContent partedEntry.file
      (Run.profileOf [(partedItem, .fixed)]) = none := by rfl
  simp only [Run.fixFile, read, fixes, rendered, other, checked]
  rfl

private theorem partedRun :
    let run := Run.execute reviewingShop.checker (reviewingShop.settings .apply)
      (reviewingShop.planOf applyAll exceptSurvey) exceptSite
    run.1.files = [Run.report partedEntry [(partedItem, .fixed)] true] ∧
      run.1.cancelled = false ∧ run.2 = partedSite := by
  simp only [Run.execute, partedEntries, Run.fixFiles, partedFile]
  refine ⟨rfl, rfl, rfl⟩

private theorem exceptQueue :
    (reviewingShop.carryOut applyAll exceptSurvey exceptTracker
        exceptSite).1.queue =
      [exceptFinding] := by
  have risky : (Triage.ofIssues .standard exceptSurvey.issues).risky =
      [exceptFinding] := by rfl
  have suggest : (Triage.ofIssues .standard exceptSurvey.issues).suggest =
      [] := by rfl
  have table : RuleTable.withOverrides reviewingShop.config.rules.overrides =
      .standard := rfl
  simp [carryOut, table, Triage.reviewQueue, risky, suggest]

private theorem exceptFollowed :
    Run.follow (reviewingShop.settings .apply)
      (Run.turns (reviewingShop.settings .apply)
      partedEntry.issues (.ofText exceptContent) exceptSite) 4 = some 5 := by
  simp only [partedEntry, Run.turns, Run.follow, Run.Turn.follow,
    Run.Turn.isMade, Run.Turn.after, Run.Turn.taken, partedFix]
  rfl

private theorem exceptPrompts :
    (reviewingShop.carryOut applyAll exceptSurvey exceptTracker
        exceptSite).2.prompts =
      [(Review.request ⟨"a.py"⟩ [exceptFinding] partedContent).prompt] := by
  obtain ⟨-, finished, site⟩ := partedRun
  have applies : applyAll.mode = .apply := rfl
  have carried :=
    reviewingShop.site_carryOut applies exceptSurvey exceptTracker exceptSite
  simp only at carried
  rw [carried, finished, site, exceptQueue]
  rfl

/-- The request cites line 4, where `except:` stood before the run; in the
content that is sent with it the line is another one, and `except:` stands on
line 5. -/
theorem except_cited_above_its_line :
    let done :=
      (reviewingShop.carryOut applyAll exceptSurvey exceptTracker exceptSite).2
    let turns := Run.turns (reviewingShop.settings .apply) partedEntry.issues
      (.ofText exceptContent) exceptSite
    done.prompts =
      [(Review.request ⟨"a.py"⟩ [exceptFinding] partedContent).prompt] ∧
    Review.findingText exceptFinding = "line 4 E722: Do not use bare `except`" ∧
    (Text.lines exceptContent)[3]? = some "except:".toList ∧
    (Text.lines partedContent)[3]? = some "    run()".toList ∧
    Run.follow (reviewingShop.settings .apply) turns 4 = some 5 ∧
    Run.growthAbove (reviewingShop.settings .apply) turns 4 = 1 ∧
    ((Text.lines partedContent)[4]?).getD [] = "except:".toList := by
  intro done turns
  have applies : applyAll.mode = .apply := rfl
  obtain ⟨-, requests, prompts, every⟩ :=
    reviewingShop.reviews_cite_lines_before_fixes applies
    exceptSurvey exceptTracker exceptSite
  obtain ⟨changed, -, after⟩ := partedRun
  simp only [exceptPrompts, exceptQueue, changed, after] at prompts every
  have one : requests.map ReviewRequest.prompt =
      [(Review.request ⟨"a.py"⟩ [exceptFinding] partedContent).prompt] :=
    prompts.symm
  obtain ⟨sent, rfl, -⟩ := List.map_eq_singleton_iff.mp one
  obtain ⟨found, content, cites, filled, present, -, cited⟩ :=
    every sent (by simp)
  obtain ⟨finding, inside⟩ := List.exists_mem_of_ne_nil found filled
  obtain ⟨only, home⟩ := List.mem_filter.mp (cites ▸ inside)
  obtain rfl : finding = exceptFinding := List.mem_singleton.mp only
  rw [MemoryFiles.get?_congr _ home] at present
  obtain rfl : partedContent = content := Option.some.inj present
  have named : Path.same ⟨"a.py"⟩ sent.file = true := by
    rw [Path.same_comm]
    exact home
  obtain ⟨visit, visited, -, old, before, stands⟩ :=
    cited (Run.report partedEntry [(partedItem, .fixed)] true)
      (List.mem_singleton_self _) rfl named
  rw [MemoryFiles.get?_congr _ home] at before
  obtain rfl : exceptContent = old := Option.some.inj before
  rw [partedEntries] at visited
  obtain rfl : visit = (partedEntry, exceptSite) :=
    List.mem_singleton.mp visited
  have line : (Text.lines exceptContent)[3]? = some "except:".toList := rfl
  obtain ⟨moved, shown⟩ :=
    stands exceptFinding inside "except:".toList 5 (by decide) line
    exceptFollowed
  refine ⟨exceptPrompts, rfl, line, rfl, exceptFollowed, ?_, ?_⟩
  · have place : ((5 : Nat) : Int) = (4 : Nat) +
        Run.growthAbove (reviewingShop.settings .apply) turns 4 := moved
    omega
  · rcases shown with same | ⟨returns, -⟩
    · exact same
    · exact absurd returns (by decide)

end Workshop

end LintMend
