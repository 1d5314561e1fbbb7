import LintMend.Data.Basic
import LintMend.Text.Basic

/-!
# Tables under construction

A TOML document is a list of statements: headers, which open tables, and
assignments to keys. Both may walk through tables on their way and make those
that are missing. How a table came to be decides what may still be done to it: a
header may open a table once, and an assignment may only walk through tables
that no header has opened.
-/

namespace LintMend

namespace Toml

/-- How a table came to be. -/
inductive Origin
  /-- A header opened it. -/
  | header
  /-- It stands on the way of a header. -/
  | passage
  /-- It stands on the way of an assignment. -/
  | dotted
  deriving DecidableEq, Repr

inductive Entry
  /-- A value that is complete: numbers, texts, lists and inline tables. -/
  | value (data : Data)
  | table (origin : Origin) (fields : List (String × Entry))
  /-- Tables that share one header, the last of them still open. -/
  | tables (items : List Entry)
  deriving Repr, Inhabited

abbrev Fields := List (String × Entry)

/-- Sets a field. -/
def put (key : String) (entry : Entry) : Fields → Fields
  | [] => [(key, entry)]
  | (other, found) :: rest =>
    if key = other then (key, entry) :: rest
    else (other, found) :: put key entry rest

/-- Who walks through the tables. -/
inductive Walker
  | header
  | assignment
  deriving DecidableEq, Repr

def Walker.origin : Walker → Origin
  | header => .passage
  | assignment => .dotted

/-- What is done to a table in the end, knowing where the table comes from. -/
abbrev Action := Origin → Fields → Option Fields

/-- Acts on the last table of a list. -/
def actOnLast (action : Action) : List Entry → Option (List Entry)
  | [] => none
  | [.table origin fields] =>
      (action origin fields).map fun changed => [.table origin changed]
  | [_] => none
  | first :: rest => (actOnLast action rest).map (first :: ·)

/-- Steps into the table of a key and acts there. -/
def step (walker : Walker) (key : String) (action : Action)
    (fields : Fields) : Option Fields :=
  match fields.lookup key with
  | none =>
    (action walker.origin []).map fun changed =>
      put key (.table walker.origin changed) fields
  | some (.table origin inner) =>
    if walker = .assignment ∧ origin = .header then none
    else (action origin inner).map fun changed =>
      put key (.table origin changed) fields
  | some (.tables items) =>
    (actOnLast action items).map fun changed => put key (.tables changed) fields
  | some (.value _) => none

/-- Walks along keys and acts on the table at their end. -/
def walk (walker : Walker) : List String → Action → Action
  | [], action => action
  | key :: keys, action =>
      fun _ fields => step walker key (walk walker keys action) fields

/-- Opens a table. A table that only stood on the way of other headers may be
opened late. -/
def openTable (key : String) : Action := fun _ fields =>
  match fields.lookup key with
  | none => some (put key (.table .header []) fields)
  | some (.table .passage inner) => some (put key (.table .header inner) fields)
  | _ => none

/-- Opens one more table of a list. -/
def openItem (key : String) : Action := fun _ fields =>
  match fields.lookup key with
  | none => some (put key (.tables [.table .header []]) fields)
  | some (.tables items) =>
      some (put key (.tables (items ++ [.table .header []])) fields)
  | _ => none

/-- Sets a key that is not set. A dotted key has to end in a table of dotted
keys, so that no table is put together in two ways. -/
def assign (dotted : Bool) (key : String) (value : Data) : Action :=
  fun origin fields =>
    if (decide (origin = .dotted)) ≠ dotted then none
    else
      match fields.lookup key with
      | none => some (put key (.value value) fields)
      | some _ => none

/-- An assignment to a key with tables in front of it. -/
def assignAt (path : List String) (value : Data) : Action :=
  match path.getLast? with
  | none => fun _ _ => none
  | some key =>
      walk .assignment path.dropLast (assign (1 < path.length) key value)

mutual

def Entry.data : Entry → Data
  | .value data => data
  | .table _ fields => .byName (fieldsData fields)
  | .tables items => .array (itemsData items) true

def itemsData : List Entry → List Data
  | [] => []
  | item :: items => item.data :: itemsData items

def fieldsData : List (String × Entry) → List (Option String × Data)
  | [] => []
  | (key, entry) :: fields => (some key, entry.data) :: fieldsData fields

end

/-- One statement of a document. -/
inductive Statement
  | table (path : List String)
  /-- A header in double brackets. -/
  | item (path : List String)
  | assignment (path : List String) (value : Data)
  deriving Repr

/-- A document so far: all of its tables, and the path of the table that
is open. -/
structure Document where
  fields : Fields
  opened : List String
  deriving Repr

namespace Document

def empty : Document :=
  { fields := [], opened := [] }

/-- Acts at the end of a header's path. -/
def openAt (document : Document) (path : List String)
    (action : String → Action) :
    Option Document := do
  let key ← path.getLast?
  let fields ← walk .header path.dropLast (action key) .header document.fields
  some { fields, opened := path }

def apply (document : Document) : Statement → Option Document
  | .table path => document.openAt path openTable
  | .item path => document.openAt path openItem
  | .assignment path value => do
    let fields ← walk .header document.opened
        (assignAt path value) .header document.fields
    some { document with fields }

def ofStatements? (statements : List Statement) : Option Document :=
  statements.foldlM apply empty

def data (document : Document) : Data :=
  .byName (fieldsData document.fields)

end Document

/-- The value of an inline table with these assignments. -/
def inlineTable? (assignments : List (List String × Data)) : Option Data := do
  let fields ← assignments.foldlM
    (fun fields (path, value) => assignAt path value .header fields) []
  some (.byName (fieldsData fields))

end Toml

end LintMend
