/-!
# Blanks

The characters that separate words: exactly those with the Unicode property White_Space.
-/

namespace DebugBridge.Text

/-- Whether a character separates words. -/
def isBlank (char : Char) : Bool :=
  let code := char.toNat
  (0x9 ≤ code && code ≤ 0xD) || code == 0x20 || code == 0x85 || code == 0xA0 || code == 0x1680 ||
    (0x2000 ≤ code && code ≤ 0x200A) || code == 0x2028 || code == 0x2029 || code == 0x202F ||
    code == 0x205F || code == 0x3000

/-- The first word of a text: blanks in front are skipped and the next blank ends it. -/
def firstWord? (chars : List Char) : Option (List Char) :=
  match (chars.dropWhile isBlank).takeWhile (fun char => !isBlank char) with
  | [] => none
  | word => some word

/-- A text without the NUL characters at its end. -/
def dropTrailingNuls (chars : List Char) : List Char :=
  (chars.reverse.dropWhile (· == '\x00')).reverse

end DebugBridge.Text
