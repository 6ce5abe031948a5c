/-!
# Readers

A reader takes what it understands off the front of a text, or fails. Alternatives start again
from the same place. Repetition ends at the first failure and at the end of the text, and there
are never more items than characters, so every reader comes to an end.
-/

namespace DebugBridge.Toml

/-- Takes a value off the front of a text. -/
abbrev Reader := StateT (List Char) Option

namespace Reader

variable {Item : Type}

/-- One character of a class. -/
def one (belongs : Char → Bool) : Reader Char := fun text =>
  match text with
  | char :: rest => if belongs char then some (char, rest) else none
  | [] => none

/-- One particular character. -/
def char (wanted : Char) : Reader Unit := do
  let _ ← one (· == wanted)

/-- A particular word. -/
def word (wanted : String) : Reader Unit := fun text =>
  if wanted.toList.isPrefixOf text then some ((), text.drop wanted.length) else none

/-- All characters up to the first that is not of a class. -/
def span (belongs : Char → Bool) : Reader (List Char) := fun text =>
  some (text.takeWhile belongs, text.dropWhile belongs)

/-- The same, but at least one character. -/
def stretch (belongs : Char → Bool) : Reader (List Char) := do
  let first ← one belongs
  return first :: (← span belongs)

/-- The next character, which stays in the text. -/
def ahead : Reader (Option Char) := fun text => some (text.head?, text)

/-- Nothing may be left. -/
def finished : Reader Unit := fun text =>
  if text.isEmpty then some ((), text) else none

/-- Adds items to those that were found, the last one first, for as long as they follow one
another. There are no more of them than the limit has characters. -/
def collect (item : Reader Item) : List Char → List Item → List Char → List Item × List Char
  | [], found, text => (found, text)
  | _ :: _, found, [] => (found, [])
  | _ :: limit, found, text =>
    match item text with
    | none => (found, text)
    | some (next, rest) => collect item limit (next :: found) rest

/-- As many items as follow one another. An item has to take something: one that does not would
be found again until there are as many items as characters. -/
def many (item : Reader Item) : Reader (List Item) := fun text =>
  let (found, rest) := collect item text [] text
  some (found.reverse, rest)

/-- An item that may be missing. -/
def maybe (item : Reader Item) : Reader (Option Item) :=
  (do return some (← item)) <|> pure none

/-- Items with separators between them; there may be none. -/
def separated (item : Reader Item) (separator : Reader Unit) : Reader (List Item) := do
  match ← maybe item with
  | none => return []
  | some first => return first :: (← many (do separator; item))

/-- Exactly so many characters of a class. -/
def exactly (belongs : Char → Bool) : Nat → Reader (List Char)
  | 0 => pure []
  | count + 1 => do
    let first ← one belongs
    return first :: (← exactly belongs count)

end Reader
end DebugBridge.Toml
