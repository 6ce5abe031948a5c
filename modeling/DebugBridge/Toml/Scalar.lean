import DebugBridge.Text.Digits
import DebugBridge.Toml.Reader

/-!
# Strings, numbers and moments

What a single value can be. Strings come in four forms; integers in four bases, with underscores
between digits, and have to fit into 64 bits. Numbers with a fraction and moments in time are
read for their form only, since no setting has such a value.
-/

namespace DebugBridge.Toml

open Reader
open Text (isHexDigit digitValue natural)

/-- Blanks within a line. -/
def isBlank (char : Char) : Bool :=
  char == ' ' || char == '\t'

/-- Characters that may stand in comments and strings as they are. -/
def isPlain (char : Char) : Bool :=
  char == '\t' || (0x20 ≤ char.toNat && char.toNat != 0x7F)

/-- The end of a line. -/
def newline : Reader Unit :=
  word "\n" <|> word "\r\n"

def blanks : Reader Unit := do
  let _ ← span isBlank

/-- Blanks over several lines. -/
def spread : Reader Unit := do
  let _ ← many ((do let _ ← stretch isBlank) <|> newline)

def comment : Reader Unit := do
  char '#'
  let _ ← span isPlain

/-- A character given by its number. -/
def numbered (digits : Nat) : Reader Char := do
  let code := natural 16 (← exactly isHexDigit digits)
  if code < 0xD800 ∨ 0xDFFF < code ∧ code < 0x110000 then return Char.ofNat code else failure

/-- What follows a backslash. -/
def escaped : Reader Char := do
  match ← one fun _ => true with
  | 'b' => return '\x08'
  | 't' => return '\t'
  | 'n' => return '\n'
  | 'f' => return '\x0c'
  | 'r' => return '\r'
  | '"' => return '"'
  | '\\' => return '\\'
  | 'u' => numbered 4
  | 'U' => numbered 8
  | _ => failure

/-- A string on one line, in which a backslash begins an escape. -/
def basicString : Reader (List Char) := do
  char '"'
  let parts ← many
    ((stretch fun c => isPlain c && c != '"' && c != '\\') <|>
      (do char '\\'; return [← escaped]))
  char '"'
  return parts.flatten

/-- A string on one line, taken as it is. -/
def literalString : Reader (List Char) := do
  char '\''
  let content ← span fun c => isPlain c && c != '\''
  char '\''
  return content

/-- One or two quotes that do not end a string over several lines. -/
def looseQuotes (quote : Char) : Reader (List Char) := do
  let quotes ← span (· == quote)
  if quotes.isEmpty || 2 < quotes.length || (← ahead).isNone then failure else return quotes

/-- The quotes that end a string over several lines; up to two before them belong to it. -/
def closingQuotes (quote : Char) : Reader (List Char) := do
  let quotes ← span (· == quote)
  if quotes.length < 3 || 5 < quotes.length then failure else return quotes.drop 3

/-- A string over several lines. Its content is given by its parts; a line end right behind the
opening quotes does not belong to it. -/
def longString (quote : Char) (part : Reader (List Char)) : Reader (List Char) := do
  let _ ← exactly (· == quote) 3
  let _ ← maybe newline
  let parts ← many (part <|> (do newline; return ['\n']) <|> looseQuotes quote)
  return parts.flatten ++ (← closingQuotes quote)

/-- A string over several lines with escapes. A backslash at the end of a line takes the line end
and all blanks behind it away. -/
def longBasicString : Reader (List Char) :=
  longString '"'
    ((stretch fun c => isPlain c && c != '"' && c != '\\') <|>
      (do char '\\'; blanks; newline; spread; return []) <|>
      (do char '\\'; return [← escaped]))

/-- A string over several lines, taken as it is. -/
def longLiteralString : Reader (List Char) :=
  longString '\'' (stretch fun c => isPlain c && c != '\'')

/-- A string in any form. -/
def string : Reader (List Char) :=
  longBasicString <|> basicString <|> longLiteralString <|> literalString

/-- Digits, with single underscores between them. -/
def digits (belongs : Char → Bool) : Reader (List Char) := do
  let first ← one belongs
  return first :: (← many (one belongs <|> (do char '_'; one belongs)))

/-- A sign; true is minus. -/
def sign : Reader Bool := do
  match ← maybe (one fun c => c == '+' || c == '-') with
  | some '-' => return true
  | _ => return false

/-- A decimal number; only zero begins with a zero. -/
def decimal : Reader (Bool × List Char) := do
  let negative ← sign
  if (← ahead) = some '0' then
    char '0'
    return (negative, ['0'])
  else return (negative, ← digits Char.isDigit)

/-- A whole number of 64 bits with a sign. -/
def integer : Reader Int := do
  let based (mark : String) (base : Nat) : Reader Int := do
    word mark
    return natural base (← digits fun c => isHexDigit c && digitValue c < base)
  let value ← based "0x" 16 <|> based "0o" 8 <|> based "0b" 2 <|> (do
    let (negative, number) ← decimal
    let size : Int := natural 10 number
    return if negative then -size else size)
  if Int64.minValue.toInt ≤ value ∧ value ≤ Int64.maxValue.toInt then return value else failure

/-- Whether a number with these digits and this exponent is too large for 64 bits of floating
point: it is if it would be rounded to infinity. -/
def isTooLarge (number : List Char) (exponent : Int) : Bool :=
  let size := natural 10 number
  let length : Int := (number.dropWhile (· == '0')).length
  let bound := Nat.pow 2 1024 - Nat.pow 2 970
  if size = 0 ∨ length + exponent < 300 then false
  else if 320 < length + exponent then true
  else if 0 ≤ exponent then bound ≤ size * Nat.pow 10 exponent.toNat
  else bound * Nat.pow 10 (-exponent).toNat ≤ size

/-- A number with a fraction or an exponent, or one of the two words for values without digits. -/
def fractional : Reader Unit :=
  (do
    let (negative, whole) ← decimal
    let fraction ← maybe (do char '.'; digits Char.isDigit)
    let exponent ← maybe (do
      let _ ← one fun c => c == 'e' || c == 'E'
      let negative ← sign
      let size : Int := natural 10 (← digits Char.isDigit)
      return if negative then -size else size)
    let places := fraction.getD []
    if fraction.isNone ∧ exponent.isNone then failure
    else if !negative ∧ isTooLarge (whole ++ places) (exponent.getD 0 - places.length) then failure
    else return ()) <|>
  (do
    let _ ← sign
    word "inf" <|> word "nan")

/-- A number of two digits in a range. -/
def twoDigits (low high : Nat) : Reader Nat := do
  let value := natural 10 (← exactly Char.isDigit 2)
  if low ≤ value ∧ value ≤ high then return value else failure

/-- How many days a month has. -/
def daysIn (year month : Nat) : Nat :=
  if month = 2 then
    if year % 4 = 0 ∧ (year % 100 ≠ 0 ∨ year % 400 = 0) then 29 else 28
  else if month = 4 ∨ month = 6 ∨ month = 9 ∨ month = 11 then 30
  else 31

def date : Reader Unit := do
  let year := natural 10 (← exactly Char.isDigit 4)
  char '-'
  let month ← twoDigits 1 12
  char '-'
  let _ ← twoDigits 1 (daysIn year month)

/-- A time of day; a minute may have a leap second. -/
def time : Reader Unit := do
  let _ ← twoDigits 0 23
  char ':'
  let _ ← twoDigits 0 59
  char ':'
  let _ ← twoDigits 0 60
  let _ ← maybe (do char '.'; stretch Char.isDigit)

/-- The distance of a time from the zero meridian. -/
def offset : Reader Unit :=
  (do let _ ← one fun c => c == 'Z' || c == 'z') <|>
  (do
    let _ ← one fun c => c == '+' || c == '-'
    let _ ← twoDigits 0 23
    char ':'
    let _ ← twoDigits 0 59)

/-- A date, a time, or both. -/
def moment : Reader Unit :=
  (do
    date
    let _ ← maybe (do
      let _ ← one fun c => c == 'T' || c == 't' || c == ' '
      time
      maybe offset)) <|> time

end DebugBridge.Toml
