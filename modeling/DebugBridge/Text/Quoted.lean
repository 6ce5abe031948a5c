import DebugBridge.Text.Unprintable

/-!
# Quoted text and hexadecimal numbers

Messages show foreign text between double quotes, with the characters that would mislead a
reader written as escapes.
-/

namespace DebugBridge.Text

/-- A number in base sixteen, without leading zeros, letters in lower case. -/
def hex (value : Nat) : String :=
  String.ofList (Nat.toDigits 16 value)

/-- A number in base sixteen, without leading zeros, letters in upper case. -/
def hexUpper (value : Nat) : String :=
  String.ofList ((Nat.toDigits 16 value).map Char.toUpper)

/-- One character as it stands inside quotes. -/
def quoteChar (char : Char) : List Char :=
  if char = '\x00' then ['\\', '0']
  else if char = '\t' then ['\\', 't']
  else if char = '\r' then ['\\', 'r']
  else if char = '\n' then ['\\', 'n']
  else if char = '"' then ['\\', '"']
  else if char = '\\' then ['\\', '\\']
  else if isUnprintable char then
    ['\\', 'u', '\x7b'] ++ Nat.toDigits 16 char.toNat ++ ['\x7d']
  else [char]

/-- A text between double quotes. -/
def quote (text : String) : String :=
  String.ofList ('"' :: text.toList.flatMap quoteChar ++ ['"'])

end DebugBridge.Text
