import LintMend.Time
import LintMend.Data.Decode
import LintMend.Json.Diagnosis

/-!
# Usage of the providers

The instants of the calls to each provider, and the form in which they are kept
in a file. Providers stand in the order of their names.
-/

namespace LintMend

/-- Calls by provider. -/
abbrev Usage := List (String × List Instant)

namespace Usage

def empty : Usage := []

def calls (usage : Usage) (provider : String) : List Instant :=
  (usage.lookup provider).getD []

/-- Sets the calls of a provider; a new provider finds its place in the order of
names. -/
def set (provider : String) (calls : List Instant) : Usage → Usage
  | [] => [(provider, calls)]
  | (other, found) :: rest =>
    if provider = other then (provider, calls) :: rest
    else if provider < other then (provider, calls) :: (other, found) :: rest
    else (other, found) :: set provider calls rest

def json (usage : Usage) : Json :=
  .object (usage.map fun (provider, calls) =>
    (provider, .array (calls.map fun instant => .string instant.text)))

def decodeInstant : Decoder Instant
  | .string (some value) =>
    match Instant.ofText value.toList with
    | .ok instant => .ok instant
    | .error _ => .error .malformed
  | _ => .error .malformed

/-- Reads the providers one after another; the last entry of a provider
counts. -/
def decodeFields : List (Option String × Data) → Usage →
    Except DecodeFault Usage
  | [], usage => .ok usage
  | (none, _) :: _, _ => .error .malformed
  | (some provider, value) :: fields, usage => do
    let calls ← Decoder.list decodeInstant value
    decodeFields fields (set provider calls usage)

def decode : Decoder Usage
  | .object fields ended => do
    let usage ← decodeFields fields empty
    if ended then .ok usage else .error .malformed
  | _ => .error .malformed

/-- What is wrong with a text as an instant. -/
def instantProblem (text : Text) : Option String :=
  match Instant.ofText text with
  | .ok _ => none
  | .error fault => some fault.message

def shape : JsonShape :=
  .map
    (.list (.text "an RFC 3339 formatted date and time string" instantProblem))

end Usage

end LintMend
