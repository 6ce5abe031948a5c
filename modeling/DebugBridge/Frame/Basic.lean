import DebugBridge.Bytes
import DebugBridge.Failure

/-!
# Frames

A frame is the unit of the wire: a header of six little-endian words and a payload.

    command | arg0 | arg1 | payload length | checksum | magic | payload

The checksum is the wrapping sum of the payload's bytes and the magic is the complement of the
command. Both are written, neither is verified when a frame is read: the transport is trusted.
-/

namespace DebugBridge

namespace Command

/-- Each command is four letters, packed with the first one lowest. -/
def connect : UInt32 := 0x4e584e43
def auth : UInt32 := 0x48545541
def openStream : UInt32 := 0x4e45504f
def okay : UInt32 := 0x59414b4f
def close : UInt32 := 0x45534c43
def write : UInt32 := 0x45545257

/-- The letters of a command, or question marks for a command that does not exist. -/
def name (command : UInt32) : String :=
  if command = connect then "CNXN"
  else if command = auth then "AUTH"
  else if command = openStream then "OPEN"
  else if command = okay then "OKAY"
  else if command = close then "CLSE"
  else if command = write then "WRTE"
  else "????"

end Command

namespace AuthType

/-- What an AUTH frame carries, told by its first argument. -/
def token : UInt32 := 1
def signature : UInt32 := 2
def publicKey : UInt32 := 3

end AuthType

/-- The six words in front of a payload. -/
structure Header where
  command : UInt32
  arg0 : UInt32
  arg1 : UInt32
  payloadLength : UInt32
  checksum : UInt32
  magic : UInt32
  deriving DecidableEq, Repr

namespace Header

/-- The size of a header in bytes. -/
def size : Nat := 24

/-- The words of a header, in order. -/
def encode (header : Header) : Bytes :=
  Word.encode header.command ++ Word.encode header.arg0 ++ Word.encode header.arg1 ++
    Word.encode header.payloadLength ++ Word.encode header.checksum ++ Word.encode header.magic

/-- Reads a header off the front of a byte string. -/
def split? (bytes : Bytes) : Option (Header × Bytes) := do
  let (command, bytes) ← Word.split? bytes
  let (arg0, bytes) ← Word.split? bytes
  let (arg1, bytes) ← Word.split? bytes
  let (payloadLength, bytes) ← Word.split? bytes
  let (checksum, bytes) ← Word.split? bytes
  let (magic, bytes) ← Word.split? bytes
  return (⟨command, arg0, arg1, payloadLength, checksum, magic⟩, bytes)

/-- The size of the frame that a header announces. -/
def frameSize (header : Header) : Nat :=
  size + header.payloadLength.toNat

@[simp] theorem length_encode (header : Header) : header.encode.length = size := rfl

/-- A written header is read back, whatever follows it. -/
@[simp] theorem split?_encode_append (header : Header) (rest : Bytes) :
    split? (header.encode ++ rest) = some (header, rest) := by
  simp [split?, encode]

/-- Reading a header takes exactly its bytes off the front. -/
theorem eq_encode_append_of_split? {bytes rest : Bytes} {header : Header}
    (read : split? bytes = some (header, rest)) : bytes = header.encode ++ rest := by
  simp only [split?, bind, Option.bind_eq_some_iff, Prod.exists, pure, Option.some.injEq,
    Prod.mk.injEq] at read
  obtain ⟨command, _, h0, arg0, _, h1, arg1, _, h2, length, _, h3, sum, _, h4, magic, _, h5,
    rfl, rfl⟩ := read
  rw [Word.eq_encode_append_of_split? h0, Word.eq_encode_append_of_split? h1,
    Word.eq_encode_append_of_split? h2, Word.eq_encode_append_of_split? h3,
    Word.eq_encode_append_of_split? h4, Word.eq_encode_append_of_split? h5]
  simp only [encode, List.append_assoc]

/-- A header is read exactly off the byte strings that are long enough. -/
theorem split?_eq_none_iff {bytes : Bytes} : split? bytes = none ↔ bytes.length < size := by
  constructor
  · intro missing
    apply Nat.lt_of_not_le
    intro long
    rw [size] at long
    obtain ⟨_, h0⟩ := Word.exists_split? bytes (by omega)
    obtain ⟨_, h1⟩ := Word.exists_split? (bytes.drop 4) (by simp; omega)
    obtain ⟨_, h2⟩ := Word.exists_split? ((bytes.drop 4).drop 4) (by simp; omega)
    obtain ⟨_, h3⟩ := Word.exists_split? (((bytes.drop 4).drop 4).drop 4) (by simp; omega)
    obtain ⟨_, h4⟩ := Word.exists_split? ((((bytes.drop 4).drop 4).drop 4).drop 4)
      (by simp; omega)
    obtain ⟨_, h5⟩ := Word.exists_split? (((((bytes.drop 4).drop 4).drop 4).drop 4).drop 4)
      (by simp; omega)
    simp only [split?, bind, Option.bind_some, h0, h1, h2, h3, h4, h5, pure, reduceCtorEq]
      at missing
  · intro short
    match found : split? bytes with
    | none => rfl
    | some (header, rest) =>
      have taken := congrArg List.length (eq_encode_append_of_split? found)
      rw [List.length_append, length_encode] at taken
      omega

end Header

/-- A frame as it stands on the wire. Nothing forces the header to fit the payload. -/
structure Frame extends Header where
  payload : Bytes
  deriving DecidableEq, Repr

namespace Frame

/-- The sum of the payload's bytes, wrapping at 32 bits. -/
def checksumOf (payload : Bytes) : UInt32 :=
  payload.foldl (fun sum byte => sum + byte.toUInt32) 0

/-- The frame with these contents: length, checksum and magic follow from them. -/
def make (command arg0 arg1 : UInt32) (payload : Bytes) : Frame :=
  { command, arg0, arg1
    payloadLength := UInt32.ofNat payload.length
    checksum := checksumOf payload
    magic := command ^^^ 0xFFFFFFFF
    payload }

/-- The bytes of a frame. -/
def encode (frame : Frame) : Bytes :=
  frame.toHeader.encode ++ frame.payload

/-- Reads the frame at the front of a byte string; bytes behind it are ignored. -/
def ofBytes (bytes : Bytes) : Except Failure Frame :=
  match Header.split? bytes with
  | none => .error (.truncatedFrame Header.size bytes.length)
  | some (header, body) =>
    if bytes.length < header.frameSize then
      .error (.truncatedFrame header.frameSize bytes.length)
    else .ok { toHeader := header, payload := body.take header.payloadLength.toNat }

end Frame
end DebugBridge
