import LintMend.Fix.Basic

/-!
# Whitespace fixes

Blanks at the end of a line, a missing last newline, and blank lines at the end
of a file.
-/

namespace LintMend.Fix

def stripTrailing (buffer : Buffer) (number : Nat) : Result := do
  let text ← lineOf buffer number
  let kept := Text.trimEnd text
  if kept = text then .error .noTrailingWhitespace
  else .ok (buffer.setLine number kept)

/-- An empty file needs no newline. -/
def endLastLine (buffer : Buffer) : Result :=
  if buffer.lines = [] ∨ buffer.endsLine then .error .endsWithNewline
  else .ok (buffer.setEndsLine true)

def trimTail (buffer : Buffer) : Result :=
  let trimmed := buffer.trimBlankTail
  if trimmed.lineCount = buffer.lineCount then .error .noBlankTail
  else .ok (trimmed.setEndsLine true)

end LintMend.Fix
