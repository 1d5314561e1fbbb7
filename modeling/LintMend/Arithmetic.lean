/-!
# Sums and powers

The zero that sums of counts start at, and the powers of two and ten.
-/

namespace LintMend

-- Sums of counts start at the zero of the numeral, also where other zeros are
-- about.
namespace Arithmetic

scoped instance (priority := 2000) zeroCount : Zero Nat := ⟨0⟩

end Arithmetic

def twoTo (exponent : Nat) : Nat :=
  Nat.pow 2 exponent

def tenTo (exponent : Nat) : Nat :=
  Nat.pow 10 exponent

/-- The first number that does not fit into a word of 64 bits. -/
def wordLimit : Nat :=
  twoTo 64

/-- The first number that does not fit into a signed word of 64 bits. -/
def signedLimit : Nat :=
  twoTo 63

end LintMend
