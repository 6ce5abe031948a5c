import DebugBridge.Toml.Scalar
import DebugBridge.Toml.Value

/-!
# Documents

A document is a list of lines, each an entry or a header for the entries behind it. Reading the
lines only looks at their form; `Line.apply?` then builds the tables and refuses what would
define something twice. Lists and tables between braces may be nested to a depth of `maxDepth`.
-/

namespace DebugBridge.Toml

open Reader

/-- How deep lists and tables between braces may be nested, and how many parts a key may have. -/
def maxDepth : Nat := 79

/-- Characters of a key without quotes. -/
def isKeyChar (char : Char) : Bool :=
  char.isAlphanum || char == '_' || char == '-'

/-- One part of a key. -/
def keyPart : Reader String := do
  return String.ofList (← stretch isKeyChar <|> basicString <|> literalString)

/-- A key with dots between its parts, split into the last part and the ones before it. -/
def key : Reader (List String × String) := do
  let part : Reader String := do
    blanks
    let part ← keyPart
    blanks
    return part
  let parts ← separated part (char '.')
  match parts.getLast? with
  | none => failure
  | some last => if maxDepth < parts.length then failure else return (parts.dropLast, last)

/-- A value that has no parts. -/
def single : Reader Value :=
  (do return .text (String.ofList (← string))) <|>
  (do word "true"; return .truth true) <|>
  (do word "false"; return .truth false) <|>
  (do moment <|> fractional; return .other) <|>
  (do return .integer (← integer))

/-- What may stand around the items of a list: blanks, line ends and comments. -/
def gap : Reader Unit := do
  let _ ← many ((do let _ ← stretch isBlank) <|> newline <|> (do comment; newline))

/-- A list; a comma may stand behind the last item. -/
def list (item : Reader Value) : Reader Value := do
  char '['
  let items ← separated (do gap; let value ← item; gap; return value) (char ',')
  if !items.isEmpty then
    let _ ← maybe (char ',')
  gap
  char ']'
  return .list items

/-- An entry: its key and its value. -/
def entry (value : Reader Value) : Reader ((List String × String) × Value) := do
  let key ← key
  char '='
  blanks
  return (key, ← value)

/-- A table between braces, all on one line. -/
def closedTable (value : Reader Value) : Reader Value := do
  char '\x7b'
  let found ← separated (do let found ← entry value; blanks; return found) (char ',')
  blanks
  char '\x7d'
  let entries? := found.foldlM (fun entries ((path, key), value) =>
    Entries.insert? value path key entries) []
  match entries? with
  | none => failure
  | some entries => return .table .closed entries

/-- A value with so many levels of lists and tables. -/
def value : Nat → Reader Value
  | 0 => single
  | depth + 1 => list (value depth) <|> closedTable (value depth) <|> single

/-- A line of a document. -/
inductive Line where
  | blank
  | entry (path : List String) (key : String) (value : Value)
  | header (path : List String) (key : String)
  | rowHeader (path : List String) (key : String)

/-- What a line says. -/
def content : Reader Line := do
  match ← ahead with
  | some '[' =>
    (do
      word "[["
      let (path, last) ← key
      word "]]"
      return .rowHeader path last) <|>
    (do
      char '['
      let (path, last) ← key
      char ']'
      return .header path last)
  | none | some '#' | some '\n' | some '\r' => return .blank
  | _ => do
    let ((path, last), found) ← entry (value maxDepth)
    return .entry path last found

/-- A line up to its end. -/
def line : Reader Line := do
  blanks
  let found ← content
  blanks
  let _ ← maybe comment
  newline <|> finished
  return found

/-- All lines of a document. A mark of the byte order may stand in front. -/
def lines : Reader (List Line) := do
  let _ ← maybe (char '\uFEFF')
  let found ← many line
  finished
  return found

/-- The tables built so far, and the path of the one that entries go to. -/
structure Building where
  entries : Entries := []
  current : List String := []

/-- Adds what a line says. -/
def Line.apply? (building : Building) : Line → Option Building
  | blank => some building
  | entry path key value => do
    let entries ←
      Entries.reach? (Entries.insert? value path key) building.current building.entries
    return { building with entries }
  | header path key => do
    return {
      entries := ← Entries.reach? (Entries.open? key) path building.entries
      current := path ++ [key] }
  | rowHeader path key => do
    return {
      entries := ← Entries.reach? (Entries.openRow? key) path building.entries
      current := path ++ [key] }

/-- The entries of a document. -/
def parse? (text : String) : Option Entries := do
  let (lines, _) ← lines.run text.toList
  return (← lines.foldlM Line.apply? {}).entries

end DebugBridge.Toml
