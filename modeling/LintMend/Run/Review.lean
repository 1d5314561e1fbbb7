import LintMend.Run.Execute

/-!
# Reviews

Files with findings that need a reader are sent to the assistant, those with the
most promising findings first. Every request takes a call off the budget, and an
empty budget ends the review.
-/

namespace LintMend

inductive ReviewOutcome
  | suggestions (text : Text)
  | rateLimited (provider : String)
  | failed (error : String)
  deriving DecidableEq, Repr

structure FileReview where
  file : Path
  findings : Nat
  outcome : ReviewOutcome
  deriving Repr

namespace Review

/-- Characters of a file that are sent. -/
def maxCharacters : Nat := 2000

/-- Findings that are sent. -/
def maxFindings : Nat := 20

def addToFile (entry : ClassifiedIssue) :
    List (Path × List ClassifiedIssue) → List (Path × List ClassifiedIssue)
  | [] => [(entry.issue.file, [entry])]
  | (path, found) :: rest =>
    if path.same entry.issue.file then (path, found ++ [entry]) :: rest
    else (path, found) :: addToFile entry rest

/-- The queue by files, each where it first appears. -/
def byFile (queue : List ClassifiedIssue) :
    List (Path × List ClassifiedIssue) :=
  queue.foldl (fun files entry => addToFile entry files) []

def findingText (entry : ClassifiedIssue) : String :=
  s!"line {entry.issue.line} {entry.issue.code}: {entry.issue.message}"

def request (path : Path) (findings : List ClassifiedIssue)
    (content : Text) : ReviewRequest :=
  { file := path
    language :=
      (findings.head?.map fun entry => entry.issue.language).getD .python
    code := content.take maxCharacters
    findings := (findings.take maxFindings).map findingText }

variable {σ : Type} [FileStore σ] [UsageStore σ]

/-- Goes through the files until the user cancels or the budget is empty. -/
def reviewFiles (now : Clock) :
    List (Path × List ClassifiedIssue) → Helper → Site σ →
      List FileReview × Helper × Site σ
  | [], helper, site => ([], helper, site)
  | (path, findings) :: rest, helper, site =>
    if site.cancelled then ([], helper, site)
    else
      let review (outcome : ReviewOutcome) : FileReview :=
        { file := path, findings := findings.length, outcome }
      match FileStore.read site.place path with
      | .error fault =>
        let failed := review (.failed ("unreadable: " ++ fault.message))
        let (reviews, helper, site) := reviewFiles now rest helper site
        (failed :: reviews, helper, site)
      | .ok content =>
        match Run.takeCall now helper site.place with
        | (false, helper, place) =>
          ([review (.rateLimited helper.assistant.provider)], helper,
            { site with place })
        | (true, helper, place) =>
          let (reply, cancels, assistant) :=
            helper.assistant.review (request path findings content)
          let outcome :=
            match reply with
            | .ok text => ReviewOutcome.suggestions text
            | .error fault => .failed fault.message
          let site :=
            { site with place, cancelled := site.cancelled || cancels }
          let (reviews, helper, site) :=
            reviewFiles now rest { helper with assistant } site
          (review outcome :: reviews, helper, site)

/-- Reviews the first files of the queue, if there is an assistant. -/
def run (now : Clock) (maxFiles : Nat) (queue : List ClassifiedIssue)
    (site : Site σ) :
    List FileReview × Site σ :=
  match site.helper with
  | none => ([], site)
  | some helper =>
    let (reviews, helper, site) :=
      reviewFiles now ((byFile queue).take maxFiles) helper site
    (reviews, { site with helper := some helper })

end Review

end LintMend
