/-!
# Values and tables

A table grows while a document is read. What may still be added to it depends on how it came to
be (`Origin`): a table may be given a header only once, and keys with dots reach only into tables
that no header has named.
-/

namespace DebugBridge.Toml

/-- How a table came to be. -/
inductive Origin where
  /-- It has a header of its own. -/
  | header
  /-- A header has named a table inside it. -/
  | implied
  /-- A key with dots has named an entry inside it. -/
  | dotted
  /-- It was written between braces, where it also ended. -/
  | closed
  deriving DecidableEq, Repr

/-- A value. Numbers with a fraction and moments are not told apart. -/
inductive Value where
  | text (content : String)
  | integer (number : Int)
  | truth (holds : Bool)
  | other
  | list (items : List Value)
  | table (origin : Origin) (entries : List (String × Value))
  /-- Tables under one header with double brackets, in order. -/
  | tables (rows : List (List (String × Value)))

/-- Keys and their values. No key stands in it twice. -/
abbrev Entries := List (String × Value)

namespace Entries

/-- Gives a key a value, in the place of the one it may have had. -/
def set (key : String) (value : Value) (entries : Entries) : Entries :=
  (key, value) :: entries.filter (·.1 != key)

/-- Gives a key that is not taken a value. -/
def add? (key : String) (value : Value) (entries : Entries) : Option Entries :=
  if (entries.lookup key).isSome then none else some (entries.set key value)

/-- Changes the last of a list of tables. -/
def changeLast? (change : Entries → Option Entries) (rows : List Entries) :
    Option (List Entries) := do
  return rows.dropLast ++ [← change (← rows.getLast?)]

/-- Adds an entry under a key with dots. Tables on the way that are not there come to be. One that
is there must not have a header of its own, and the one that gets the entry must not have been
implied by a header either; the last of several tables under one header may be passed through. -/
def insert? (value : Value) : List String → String → Entries → Option Entries
  | [], key, entries => entries.add? key value
  | step :: path, key, entries =>
    match (entries.lookup step).getD (.table .dotted []) with
    | .table origin inner =>
      if origin = .dotted ∨ origin = .implied ∧ path ≠ [] then do
        return entries.set step (.table origin (← insert? value path key inner))
      else none
    | .tables rows =>
      if path = [] then none
      else do
        return entries.set step (.tables (← changeLast? (insert? value path key) rows))
    | _ => none

/-- Changes the table that a header leads to. Tables on the way that are not there come to be. One
that is there must not have been closed; of several tables under one header the last is meant. -/
def reach? (change : Entries → Option Entries) : List String → Entries → Option Entries
  | [], entries => change entries
  | step :: path, entries =>
    match (entries.lookup step).getD (.table .implied []) with
    | .table .closed _ => none
    | .table origin inner => do
      return entries.set step (.table origin (← reach? change path inner))
    | .tables rows => do
      return entries.set step (.tables (← changeLast? (reach? change path) rows))
    | _ => none

/-- Gives a table its header. It must not be there yet unless a header has implied it. -/
def open? (key : String) (entries : Entries) : Option Entries :=
  match (entries.lookup key).getD (.table .implied []) with
  | .table .implied inner => some (entries.set key (.table .header inner))
  | _ => none

/-- Adds one more table under a header with double brackets. -/
def openRow? (key : String) (entries : Entries) : Option Entries :=
  match (entries.lookup key).getD (.tables []) with
  | .tables rows => some (entries.set key (.tables (rows ++ [[]])))
  | _ => none

end Entries
end DebugBridge.Toml
