import LintMend.Issue

/-!
# Requests to an assistant

A request for one line carries the finding, the line and the lines around it. A
request for a review carries the beginning of a file and the findings that need
a reader. Both become the text that the model is asked with.
-/

namespace LintMend

structure LineRequest where
  issue : Issue
  ruleName : String
  /-- Numbered lines around the finding. -/
  snippet : Text
  /-- The line as it is. -/
  target : Text
  deriving Repr

structure ReviewRequest where
  file : Path
  language : Language
  code : Text
  findings : List String
  deriving Repr

def fencedText (code : Text) : String :=
  "```\n" ++ String.ofList code ++ "\n```"

namespace LineRequest

def prompt (request : LineRequest) : String :=
  let issue := request.issue
  "Language: " ++ issue.language.title ++ "\nRule: " ++ issue.code ++ " ("
    ++ request.ruleName ++ ")\nMessage: " ++ issue.message ++ "\nFile: "
    ++ issue.file.text ++ "\nLine " ++ toString issue.line ++ ": "
    ++ String.ofList request.target ++ "\n\nContext:\n"
    ++ fencedText request.snippet
    ++ "\n\nProvide ONLY the fixed line(s) without explanations."

end LineRequest

namespace ReviewRequest

def findingsText : List String → String
  | [] => "none"
  | findings => "\n".intercalate (findings.map fun finding => "- " ++ finding)

def prompt (request : ReviewRequest) : String :=
  "Analyze this " ++ request.language.title
    ++ " code and provide improvement suggestions.\nFile: " ++ request.file.text
    ++ "\n\nLint findings that need a human:\n"
    ++ findingsText request.findings ++ "\n\n"
    ++ fencedText request.code ++ "\n\nProvide clear, numbered suggestions."

end ReviewRequest

end LintMend
