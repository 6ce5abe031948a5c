/-!
# Numbers written in digits

Digits are those of ASCII, in bases up to sixteen.
-/

namespace DebugBridge.Text

/-- Digits of the bases up to sixteen. -/
def isHexDigit (char : Char) : Bool :=
  char.isDigit || ('a' ≤ char && char ≤ 'f') || ('A' ≤ char && char ≤ 'F')

/-- The value of such a digit. -/
def digitValue (char : Char) : Nat :=
  if char.isDigit then char.toNat - '0'.toNat else char.toLower.toNat - 'a'.toNat + 10

/-- The number that digits write in a base. -/
def natural (base : Nat) (digits : List Char) : Nat :=
  digits.foldl (fun value digit => value * base + digitValue digit) 0

/-- The number that a text of decimal digits writes. A plus sign may stand in front, and any
number of zeros. -/
def decimal? (text : List Char) : Option Nat :=
  let digits := if text.head? = some '+' then text.tail else text
  if digits.isEmpty || !digits.all Char.isDigit then none else some (natural 10 digits)

end DebugBridge.Text
