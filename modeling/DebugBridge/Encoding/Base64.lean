import DebugBridge.Bytes

/-!
# Base64

Three bytes are written as four symbols; a rest of one or two bytes is written as two or three
symbols and filled up with `=`. Reading accepts exactly what writing produces: the padding has to
be there and the bits that belong to no byte have to be zero.
-/

namespace DebugBridge.Base64

/-- The sign that fills up the last group. -/
def pad : UInt8 := 0x3D

/-- The symbol for a value below 64. -/
def symbol (value : Nat) : UInt8 :=
  if value < 26 then UInt8.ofNat (0x41 + value)
  else if value < 52 then UInt8.ofNat (0x61 + (value - 26))
  else if value < 62 then UInt8.ofNat (0x30 + (value - 52))
  else if value = 62 then 0x2B
  else 0x2F

/-- The value of a symbol. -/
def value? (symbol : UInt8) : Option Nat :=
  if 0x41 ≤ symbol ∧ symbol ≤ 0x5A then some (symbol.toNat - 0x41)
  else if 0x61 ≤ symbol ∧ symbol ≤ 0x7A then some (symbol.toNat - 0x61 + 26)
  else if 0x30 ≤ symbol ∧ symbol ≤ 0x39 then some (symbol.toNat - 0x30 + 52)
  else if symbol = 0x2B then some 62
  else if symbol = 0x2F then some 63
  else none

/-- The symbols of a byte string. -/
def encode : Bytes → Bytes
  | [] => []
  | [a] => [symbol (a.toNat / 4), symbol (a.toNat % 4 * 16), pad, pad]
  | [a, b] =>
    [symbol (a.toNat / 4), symbol (a.toNat % 4 * 16 + b.toNat / 16),
      symbol (b.toNat % 16 * 4), pad]
  | a :: b :: c :: rest =>
    symbol (a.toNat / 4) :: symbol (a.toNat % 4 * 16 + b.toNat / 16) ::
      symbol (b.toNat % 16 * 4 + c.toNat / 64) :: symbol (c.toNat % 64) :: encode rest

/-- Why a text is not Base64. -/
inductive Error where
  | invalidSymbol (byte : UInt8) (offset : Nat)
  | invalidLength (length : Nat)
  | invalidLastSymbol (byte : UInt8) (offset : Nat)
  | invalidPadding
  deriving DecidableEq, Repr

/-- The wording of an error. -/
def Error.message : Error → String
  | invalidSymbol byte offset => s!"Invalid symbol {byte.toNat}, offset {offset}."
  | invalidLength length => s!"Invalid input length: {length}"
  | invalidLastSymbol byte offset => s!"Invalid last symbol {byte.toNat}, offset {offset}."
  | invalidPadding => "Invalid padding"

/-- The three bytes that four values stand for. -/
def bytesOf (v0 v1 v2 v3 : Nat) : Bytes :=
  [UInt8.ofNat (v0 * 4 + v1 / 16), UInt8.ofNat (v1 * 16 + v2 / 4), UInt8.ofNat (v2 * 64 + v3)]

/-- Reads the last group, which alone may be padded and begins at an offset. -/
def decodeLast (offset : Nat) (group : Bytes) : Except Error Bytes :=
  let symbols := group.takeWhile fun byte => (value? byte).isSome
  let stop := offset + symbols.length
  match group.dropWhile fun byte => (value? byte).isSome with
  | byte :: _ =>
    if byte ≠ pad then .error (.invalidSymbol byte stop)
    else
      let padding := group.drop symbols.length
      if symbols.length < 2 ∨ padding.any (· != pad) then .error (.invalidSymbol pad stop)
      else finish symbols padding.length
  | [] => finish symbols 0
where
  /-- Checks the shape of the group and the bits that belong to no byte. -/
  finish (symbols : Bytes) (padding : Nat) : Except Error Bytes :=
    let last := offset + symbols.length - 1
    match symbols, symbols.filterMap value? with
    | [], _ => .ok []
    | [_], _ => .error (.invalidLength (offset + 1))
    | [_, second], [v0, v1] =>
      if padding ≠ 2 then .error .invalidPadding
      else if v1 % 16 ≠ 0 then .error (.invalidLastSymbol second last)
      else .ok ((bytesOf v0 v1 0 0).take 1)
    | [_, _, third], [v0, v1, v2] =>
      if padding ≠ 1 then .error .invalidPadding
      else if v2 % 4 ≠ 0 then .error (.invalidLastSymbol third last)
      else .ok ((bytesOf v0 v1 v2 0).take 2)
    | _, [v0, v1, v2, v3] => .ok (bytesOf v0 v1 v2 v3)
    | _, _ => .error .invalidPadding

/-- Reads groups of four; all but the last consist of symbols only. -/
def decodeFrom (offset : Nat) : Bytes → Except Error Bytes
  | a :: b :: c :: d :: next :: rest =>
    match value? a, value? b, value? c, value? d with
    | some v0, some v1, some v2, some v3 =>
      (decodeFrom (offset + 4) (next :: rest)).map (bytesOf v0 v1 v2 v3 ++ ·)
    | none, _, _, _ => .error (.invalidSymbol a offset)
    | _, none, _, _ => .error (.invalidSymbol b (offset + 1))
    | _, _, none, _ => .error (.invalidSymbol c (offset + 2))
    | _, _, _, none => .error (.invalidSymbol d (offset + 3))
  | group => decodeLast offset group

/-- The bytes that a text of symbols stands for. A stray byte that is the only one of its group,
such as a line end, is reported before anything else. -/
def decode (text : Bytes) : Except Error Bytes :=
  match text.getLast? with
  | some last =>
    if text.length % 4 = 1 ∧ last ≠ pad ∧ (value? last).isNone then
      .error (.invalidSymbol last (text.length - 1))
    else decodeFrom 0 text
  | none => .ok []

end DebugBridge.Base64
