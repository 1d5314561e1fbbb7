import LintMend.Text.Basic

/-!
# UTF-8

Texts as bytes and back. Reading marks every longest run of bytes that cannot
begin or continue a character, so that a lenient reader puts one replacement
character for each, and a strict one refuses the whole.
-/

namespace LintMend

abbrev Bytes := List UInt8

namespace Utf8

def encode (text : Text) : Bytes :=
  text.flatMap String.utf8EncodeChar

/-- The continuation bytes a leading byte asks for, the value it contributes,
and the range of the byte behind it, which shuts out long forms, surrogates and
values beyond the last character. -/
def leading? (byte : UInt8) : Option (Nat × Nat × UInt8 × UInt8) :=
  if 0xC2 ≤ byte && byte < 0xE0 then some (1, byte.toNat - 0xC0, 0x80, 0xBF)
  else if byte == 0xE0 then some (2, 0, 0xA0, 0xBF)
  else if byte == 0xED then some (2, 0xD, 0x80, 0x9F)
  else if 0xE1 ≤ byte && byte < 0xF0 then
    some (2, byte.toNat - 0xE0, 0x80, 0xBF)
  else if byte == 0xF0 then some (3, 0, 0x90, 0xBF)
  else if byte == 0xF4 then some (3, 4, 0x80, 0x8F)
  else if 0xF1 ≤ byte && byte < 0xF4 then
    some (3, byte.toNat - 0xF0, 0x80, 0xBF)
  else none

/-- A character begun: the bytes still to come, the value so far, and the range
of the next byte. -/
structure Pending where
  missing : Nat
  value : Nat
  low : UInt8
  high : UInt8
  deriving DecidableEq, Repr

/-- Reads on; `none` stands for bytes that make no character. -/
def readFrom : Option Pending → Bytes → List (Option Char)
  | none, [] => []
  | some _, [] => [none]
  | pending, byte :: rest =>
    let continued :=
      match pending with
      | some found => found.low ≤ byte && byte ≤ found.high
      | none => false
    match pending, continued with
    | some found, true =>
      let value := found.value * 64 + (byte.toNat - 0x80)
      if found.missing ≤ 1 then some (Char.ofNat value) :: readFrom none rest
      else readFrom (some ⟨found.missing - 1, value, 0x80, 0xBF⟩) rest
    | _, _ =>
      let broken : List (Option Char) := if pending.isSome then [none] else []
      if byte < 0x80 then
        broken ++ some (Char.ofNat byte.toNat) :: readFrom none rest
      else
        match leading? byte with
        | some (missing, value, low, high) =>
          broken ++ readFrom (some ⟨missing, value, low, high⟩) rest
        | none => broken ++ none :: readFrom none rest

def read (bytes : Bytes) : List (Option Char) :=
  readFrom none bytes

/-- The text, if all bytes make characters. -/
def decode? (bytes : Bytes) : Option Text :=
  (read bytes).mapM id

/-- The text with a replacement character for all that makes none. -/
def decodeLossy (bytes : Bytes) : Text :=
  (read bytes).map fun found => found.getD '\uFFFD'

end Utf8

end LintMend
