import DebugBridge.Bytes

/-!
# Text from bytes

UTF-8 is decoded one byte at a time. `lossy` never fails: a byte that cannot continue the
character begun before it ends that character as one U+FFFD and is then looked at afresh, so
each maximal ill-formed piece becomes exactly one replacement. `decode?` accepts well-formed
input only.
-/

namespace DebugBridge.Utf8

/-- U+FFFD, which stands for input that is not text. -/
def replacement : Char := '\uFFFD'

/-- A character of which at least one byte is still missing. -/
structure Partial where
  /-- The bits seen so far. -/
  bits : Nat
  /-- How many bytes are still owed. -/
  owed : Nat
  /-- The least byte that may come next. -/
  low : UInt8
  /-- The greatest byte that may come next. -/
  high : UInt8

/-- What a byte means where a character may begin. -/
inductive Lead where
  | whole (char : Char)
  | start (part : Partial)
  | stray

/-- The first byte fixes the length, and for four leads also narrows the second byte, so that no
overlong form, surrogate or value beyond U+10FFFF can be completed. -/
def lead (byte : UInt8) : Lead :=
  if byte < 0x80 then .whole (Char.ofNat byte.toNat)
  else if byte < 0xC2 then .stray
  else if byte < 0xE0 then .start ⟨byte.toNat - 0xC0, 1, 0x80, 0xBF⟩
  else if byte < 0xF0 then
    .start ⟨byte.toNat - 0xE0, 2, if byte = 0xE0 then 0xA0 else 0x80,
      if byte = 0xED then 0x9F else 0xBF⟩
  else if byte < 0xF5 then
    .start ⟨byte.toNat - 0xF0, 3, if byte = 0xF0 then 0x90 else 0x80,
      if byte = 0xF4 then 0x8F else 0xBF⟩
  else .stray

/-- The state of a decoder between two bytes. -/
structure Decoding where
  /-- The characters decoded so far, the last one first. -/
  reversed : List Char
  /-- The character begun but not completed. -/
  part : Option Partial

/-- Looks at a byte where a character may begin. -/
def begin (reversed : List Char) (byte : UInt8) : Decoding :=
  match lead byte with
  | .whole char => ⟨char :: reversed, none⟩
  | .start part => ⟨reversed, some part⟩
  | .stray => ⟨replacement :: reversed, none⟩

/-- Takes in one byte. -/
def Decoding.feed (state : Decoding) (byte : UInt8) : Decoding :=
  match state.part with
  | none => begin state.reversed byte
  | some part =>
    if part.low ≤ byte ∧ byte ≤ part.high then
      let bits := part.bits * 64 + (byte.toNat - 0x80)
      if part.owed = 1 then ⟨Char.ofNat bits :: state.reversed, none⟩
      else ⟨state.reversed, some ⟨bits, part.owed - 1, 0x80, 0xBF⟩⟩
    else begin (replacement :: state.reversed) byte

/-- Ends the input: a character left incomplete becomes one replacement. -/
def Decoding.finish (state : Decoding) : List Char :=
  match state.part with
  | none => state.reversed.reverse
  | some _ => (replacement :: state.reversed).reverse

/-- The characters of a byte string, ill-formed pieces replaced. -/
def lossyChars (bytes : Bytes) : List Char :=
  (bytes.foldl Decoding.feed ⟨[], none⟩).finish

/-- The text of a byte string, ill-formed pieces replaced. -/
def lossy (bytes : Bytes) : String :=
  String.ofList (lossyChars bytes)

/-- The bytes of a text. -/
def encodeChars (chars : List Char) : Bytes :=
  chars.flatMap String.utf8EncodeChar

/-- The bytes of a text. -/
def encode (text : String) : Bytes :=
  encodeChars text.toList

/-- The text of a well-formed byte string: replacing changes exactly the ill-formed ones. -/
def decode? (bytes : Bytes) : Option String :=
  let chars := lossyChars bytes
  if encodeChars chars = bytes then some (String.ofList chars) else none

end DebugBridge.Utf8
