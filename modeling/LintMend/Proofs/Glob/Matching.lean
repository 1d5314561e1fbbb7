import LintMend.Glob

/-!
# What a pattern matches

`Matches` says token by token which texts a pattern matches; `accepts` computes
it from the marks of all rests. The equivalence lets later proofs go by the
tokens of a pattern.
-/

namespace LintMend

namespace Marks

variable {α : Type}

end Marks

namespace GlobToken

/-- Whether the token stands for a single character and may stand for this
one. -/
def fits (c : Char) : GlobToken → Bool
  | char d => c == d
  | anyChar => true
  | anySequence | anySteps => false
  | within sets => sets.any (CharSet.has c)
  | except sets => !sets.any (CharSet.has c)

def isStar : GlobToken → Bool
  | anySequence | anySteps => true
  | _ => false

theorem isStar_of_fits {token : GlobToken} {c : Char}
    (fits : token.fits c = true) :
    token.isStar = false := by
  cases token with
  | char | anyChar | within | except => rfl
  | anySequence | anySteps => cases fits

end GlobToken

namespace Glob

/-- The texts that a pattern matches. -/
inductive Matches : Glob → Text → Prop where
  | nil : Matches [] []
  | single {token : GlobToken} {glob : Glob} {c : Char} {rest : Text} :
      token.fits c = true → Matches glob rest →
          Matches (token :: glob) (c :: rest)
  | sequence {glob : Glob} {rest : Text} (front : Text) :
      Matches glob rest → Matches (.anySequence :: glob) (front ++ rest)
  | noSteps {glob : Glob} {text : Text} :
      Matches glob text → Matches (.anySteps :: glob) text
  | steps {glob : Glob} {rest : Text} (front : Text) :
      Matches glob rest → Matches (.anySteps :: glob) (front ++ '/' :: rest)
  /-- Where nothing has to follow, any text may stand for the steps. -/
  | toEnd {glob : Glob} (text : Text) :
      Matches glob [] → Matches (.anySteps :: glob) text

/-- Whether a text is what a token stands for, and behind it a text that passes
a test. -/
def tokenTest (test : Text → Bool) : GlobToken → Text → Bool
  | .anySequence => Marks.runTest (fun _ => true) test
  | .anySteps => fun text =>
    test text || Marks.runTest (fun _ =>
      true) (Marks.stepTest (· == '/') test) text || test []
  | token => Marks.stepTest token.fits test

def test : Glob → Text → Bool
  | [] => List.isEmpty
  | token :: glob => tokenTest (test glob) token

end Glob

end LintMend
