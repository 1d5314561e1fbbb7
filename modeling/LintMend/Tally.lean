import LintMend.Arithmetic

/-!
# Tallies

How often each text occurs, in the order of the texts.
-/

namespace LintMend

open scoped Arithmetic

abbrev Tally := List (String × Nat)

namespace Tally

/-- Counts one more occurrence. -/
def add (key : String) : Tally → Tally
  | [] => [(key, 1)]
  | (other, count) :: rest =>
    if key = other then (other, count + 1) :: rest
    else if key < other then (key, 1) :: (other, count) :: rest
    else (other, count) :: add key rest

def ofList (keys : List String) : Tally :=
  keys.foldl (fun tally key => add key tally) []

def total (tally : Tally) : Nat :=
  (tally.map Prod.snd).sum

end Tally

end LintMend
