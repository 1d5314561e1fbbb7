import LintMend.Text.Basic

/-!
# Grammars of command lines

A command line is read word by word. A word with dashes in front is a flag, one
behind `--` never is. Some flags take a value, either attached to the flag or as
the next word; the remaining word is the operand. A value is settled, that is
checked and kept, only when the next flag or the end is reached, so a flag that
nobody knows is reported before a value that nobody accepts.
-/

namespace LintMend

/-- Why a command line is not carried out. -/
inductive UsageStop
  /-- The user asks for help. -/
  | help
  /-- The user asks for the version. -/
  | version
  /-- Nothing is given at all. -/
  | nothing
  | missingCommand
  | unknownCommand
  | unknownArgument
  | missingOperand
  /-- A flag has a value but takes none. -/
  | unneededValue
  /-- A value is missing or not accepted. -/
  | invalidValue
  /-- A flag is repeated, or excluded by another one. -/
  | conflict
  deriving DecidableEq, Repr

/-- Something that holds a value. -/
structure Slot where
  name : String
  accepts : String → Bool
  repeats : Bool

inductive FlagKind
  /-- Given at most once. -/
  | switch
  /-- Counts how often it is given. -/
  | counter
  | option (accepts : String → Bool) (repeats : Bool)
  | help
  | version

structure Flag where
  name : String
  short : Option Char
  kind : FlagKind
  /-- The environment variable that holds the value if the flag is not given. -/
  environment : Option String

/-- What has been given, in order. A flag without a value has an empty one. -/
abbrev Given := List (String × String)

/-- What may be given. -/
structure Grammar where
  flags : List Flag
  operand : Option Slot
  /-- The flags of which only one may be given. -/
  exclusive : List String
  /-- The words that hand over to another grammar. -/
  commands : List String

/-- What has been read. -/
structure Reading where
  given : Given
  /-- What is not settled yet; a flag may still wait for its value. -/
  pending : Option (Slot × Option String)

namespace Given

def has (given : Given) (name : String) : Bool :=
  given.any fun entry => entry.1 == name

def count (given : Given) (name : String) : Nat :=
  given.countP fun entry => entry.1 == name

def values (given : Given) (name : String) : List String :=
  given.filterMap fun entry => if entry.1 = name then some entry.2 else none

def value? (given : Given) (name : String) : Option String :=
  given.lookup name

def put (slot : Slot) (value : String) (given : Given) :
    Except UsageStop Given :=
  if !slot.repeats && given.has slot.name then .error .conflict
  else if !slot.accepts value then .error .invalidValue
  else .ok (given ++ [(slot.name, value)])

end Given

namespace Flag

def switch (name : String) : Flag :=
  { name, short := none, kind := .switch, environment := none }

def option (name : String) (accepts : String → Bool) : Flag :=
  { name, short := none, kind := .option accepts false, environment := none }

/-- What holds the flag's value, if it takes one. -/
def slot? (flag : Flag) : Option Slot :=
  match flag.kind with
  | .option accepts repeats => some { name := flag.name, accepts, repeats }
  | _ => none

end Flag

namespace Reading

def empty : Reading :=
  { given := [], pending := none }

def settle (reading : Reading) : Except UsageStop Given :=
  match reading.pending with
  | none => .ok reading.given
  | some (_, none) => .error .invalidValue
  | some (slot, some value) => reading.given.put slot value

/-- Takes a flag that stands alone. -/
def take (flag : Flag) (reading : Reading) : Except UsageStop Reading := do
  let given ← reading.settle
  let taken := given ++ [(flag.name, "")]
  match flag.kind with
  | .switch =>
    if given.has flag.name then throw .conflict
    else return { given := taken, pending := none }
  | .counter => return { given := taken, pending := none }
  | .option accepts repeats =>
    return { given,
             pending := some ({ name := flag.name, accepts, repeats }, none) }
  | .help => throw .help
  | .version => throw .version

/-- Takes a flag with its value attached. -/
def takeWith (flag : Flag) (value : Text) (reading : Reading) :
    Except UsageStop Reading :=
  match flag.slot? with
  | none => .error .unneededValue
  | some slot => do
    let given ← (← reading.settle).put slot (String.ofList value)
    return { given, pending := none }

end Reading

namespace Grammar

/-- Reads a flag by its name, from behind the dashes. -/
def readLong (grammar : Grammar) (text : Text) (reading : Reading) :
    Except UsageStop Reading :=
  let name := String.ofList (text.takeWhile (· ≠ '='))
  match grammar.flags.find? fun flag => flag.name = name with
  | none => .error .unknownArgument
  | some flag =>
    match text.dropWhile (· ≠ '=') with
    | [] => reading.take flag
    | _ :: value => reading.takeWith flag value

/-- Reads flags by their letters. The first one that takes a value has the rest
for it. -/
def readShort (grammar : Grammar) : Text → Reading → Except UsageStop Reading
  | [], reading => .ok reading
  | letter :: rest, reading =>
    match grammar.flags.find? fun flag => flag.short = some letter with
    | none => .error .unknownArgument
    | some flag =>
      match flag.slot?, rest with
      | some _, '=' :: value => reading.takeWith flag value
      | some _, first :: value => reading.takeWith flag (first :: value)
      | _, _ => (reading.take flag).bind (grammar.readShort rest)

/-- Whether the operand is there already. -/
def hasOperand (slot : Slot) (reading : Reading) : Bool :=
  reading.given.has slot.name
    || match reading.pending with
      | some (other, _) => other.name == slot.name
      | none => false

/-- A word that the grammar has no place for. -/
def strayWord (grammar : Grammar) (behindDashes : Bool)
    (word : String) : UsageStop :=
  if grammar.commands.isEmpty ||
    (behindDashes && grammar.commands.contains word) then
      .unknownArgument
  else .unknownCommand

def readOperand (grammar : Grammar) (behindDashes : Bool) (word : String)
    (reading : Reading) :
    Except UsageStop Reading :=
  match grammar.operand with
  | none => .error (grammar.strayWord behindDashes word)
  | some slot =>
    if hasOperand slot reading then .error (grammar.strayWord behindDashes word)
    else do
      return { given := ← reading.settle, pending := some (slot, some word) }

/-- A dash alone is a value like any other. -/
def readWord (grammar : Grammar) (word : String) (reading : Reading) :
    Except UsageStop Reading :=
  match word.toList, reading.pending with
  | '-' :: '-' :: text, _ => grammar.readLong text reading
  | '-' :: letter :: text, _ => grammar.readShort (letter :: text) reading
  | _, some (slot, none) =>
      .ok { reading with pending := some (slot, some word) }
  | _, _ => grammar.readOperand false word reading

/-- Reads up to a command, which is returned with the words behind it, or up to
the end. -/
def readWords (grammar : Grammar) (behindDashes : Bool) :
    List String → Reading →
      Except UsageStop (Given × Option (String × List String))
  | [], reading => reading.settle.map fun given => (given, none)
  | word :: words, reading =>
    if behindDashes then
      (grammar.readOperand true word reading).bind
        (grammar.readWords true words)
    else if grammar.commands.contains word then
      .ok (reading.given, some (word, words))
    else if word = "--" then grammar.readWords true words reading
    else (grammar.readWord word reading).bind (grammar.readWords false words)

/-- Adds what the environment says of a flag that is not given. -/
def fill (lookup : String → Option String) (given : Given) (flag : Flag) :
    Except UsageStop Given :=
  match flag.slot?, flag.environment.bind lookup with
  | some slot, some value =>
      if given.has flag.name then .ok given else given.put slot value
  | _, _ => .ok given

/-- Checks what only the whole command line can show. -/
def check (grammar : Grammar) (given : Given) : Except UsageStop Given :=
  if 1 < grammar.exclusive.countP given.has then .error .conflict
  else
    match grammar.operand with
    | some slot =>
        if given.has slot.name then .ok given else .error .missingOperand
    | none => .ok given

/-- Reads all words of a command. -/
def read (grammar : Grammar) (lookup : String → Option String)
    (words : List String) :
    Except UsageStop Given := do
  let (given, _) ← grammar.readWords false words .empty
  grammar.check (← grammar.flags.foldlM (fill lookup) given)

end Grammar

end LintMend
