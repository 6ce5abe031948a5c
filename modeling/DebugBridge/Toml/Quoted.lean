import DebugBridge.Text.Quoted

/-!
# Written strings

Texts stand between double quotes, with escapes. A text that would need escapes there stands
between other marks instead, if it can do so as it is: between apostrophes, or between three
double quotes or three apostrophes, which let it run over several lines.
-/

namespace DebugBridge.Toml

/-- Whether a character is a control. But for tabulators and line ends, these are only written
with an escape. -/
def isControl (char : Char) : Bool :=
  char.toNat < 0x20 || char.toNat == 0x7F

/-- One character as it stands between double quotes. -/
def escapeChar (char : Char) : List Char :=
  match char with
  | '\x08' => ['\\', 'b']
  | '\t' => ['\\', 't']
  | '\n' => ['\\', 'n']
  | '\x0c' => ['\\', 'f']
  | '\r' => ['\\', 'r']
  | '"' => ['\\', '"']
  | '\\' => ['\\', '\\']
  | char =>
    if isControl char then
      let digits := (Text.hexUpper char.toNat).toList
      ['\\', 'u'] ++ List.replicate (4 - digits.length) '0' ++ digits
    else [char]

/-- The marks that a text can stand between. -/
inductive Marks where
  | quotes
  | apostrophes
  | longQuotes
  | longApostrophes
  deriving DecidableEq, Repr

/-- The marks themselves, the same in front and behind. -/
def Marks.chars : Marks → List Char
  | quotes => ['"']
  | apostrophes => ['\'']
  | longQuotes => ['"', '"', '"']
  | longApostrophes => ['\'', '\'', '\'']

/-- Whether a text has three of a character in a row. -/
def hasTriple (mark : Char) : List Char → Bool
  | first :: second :: third :: rest =>
    (first == mark && second == mark && third == mark) || hasTriple mark (second :: third :: rest)
  | _ => false

/-- Whether a text can stand between marks as it is, but for tabulators. -/
def Marks.suit (text : List Char) (marks : Marks) : Bool :=
  let control := text.any fun char => isControl char && char != '\t' && char != '\n'
  let newline := text.contains '\n'
  let backslash := text.contains '\\'
  match marks with
  | quotes => !control && !newline && !backslash && !text.contains '"'
  | apostrophes => !control && !newline && !text.contains '\''
  | longQuotes => !control && !backslash && !hasTriple '"' text
  | longApostrophes => !control && !hasTriple '\'' text

/-- The marks for a text: the first that suit it, or those that allow escapes. -/
def Marks.of (text : List Char) : Marks :=
  let escaping := if text.contains '\n' then longQuotes else quotes
  ([quotes, apostrophes, longQuotes, longApostrophes].find? (suit text)).getD escaping

/-- A text as it stands between three double quotes, behind a number of quotes: line ends are
written as they are, and so are quotes that are not the third in a row. -/
def escapeLong : Nat → List Char → List Char
  | _, [] => []
  | quotes, char :: rest =>
    if char = '"' ∧ quotes < 2 then char :: escapeLong (quotes + 1) rest
    else if char = '\n' then char :: escapeLong 0 rest
    else escapeChar char ++ escapeLong 0 rest

/-- A text as it stands between marks. A line end behind the opening marks is not part of it. -/
def Marks.body (text : List Char) (marks : Marks) : List Char :=
  let lead := if text.contains '\n' then ['\n'] else []
  match marks with
  | quotes => text.flatMap escapeChar
  | apostrophes => text
  | longQuotes => lead ++ escapeLong 0 text
  | longApostrophes => lead ++ text

/-- A text as it is written. -/
def quoteText (text : String) : String :=
  let marks := Marks.of text.toList
  String.ofList (marks.chars ++ marks.body text.toList ++ marks.chars)

/-- The largest integer that can be written. -/
def maxInteger : Nat := Nat.pow 2 63 - 1

end DebugBridge.Toml
