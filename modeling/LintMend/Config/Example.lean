/-!
# An example of a configuration

The file that a new user starts from. Its values are those that hold without it.
-/

namespace LintMend

namespace Config

def exampleLines : List String :=
  ["# Lintpilot Configuration",
   "",
   "[rules]",
   "# Only fix these codes (empty means every SAFE rule)",
   "enabled = []",
   "disabled = []",
   "# Never remove imports from __init__.py files",
   "skip_init_files = true",
   "",
   "# Move a rule between categories:",
   "# [[rules.overrides]]",
   "# code = \"E501\"",
   "# language = \"python\"",
   "# category = \"suggest\"",
   "# confidence = 0.1",
   "",
   "[fix]",
   "max_issues_per_run = 1000",
   "# Reject a fix that removes more than this share of a file",
   "max_shrink_ratio = 0.5",
   "",
   "[ai]",
   "enabled = false",
   "# groq | together | openrouter | anthropic "
     ++ "(default: first with an API key)",
   "# provider = \"groq\"",
   "timeout_secs = 30",
   "context_lines = 5",
   "# Files with findings that need a human sent for an AI review (0 = off)",
   "review_files = 3",
   "",
   "[usage]",
   "# AI calls allowed per provider within the window",
   "limit = 10",
   "window_seconds = 3600",
   "",
   "[paths]",
   "skip = [",
   "    \"__pycache__\",",
   "    \".git\",",
   "    \".venv\",",
   "    \"venv\",",
   "    \".tox\",",
   "    \"node_modules\",",
   "    \"dist\",",
   "    \"build\",",
   "    \"*.min.js\"",
   "]"]

/-- The text of the file. -/
def exampleText : String :=
  String.join (exampleLines.map fun line => line ++ "\n")

end Config

end LintMend
