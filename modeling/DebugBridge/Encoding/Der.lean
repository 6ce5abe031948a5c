import DebugBridge.Bytes

/-!
# Distinguished encoding

Reads the elements of ASN.1 values in their distinguished encoding: a tag of a known type, a
length written in the only permitted way, and the content.
-/

namespace DebugBridge.Der

/-- The tags that occur in private keys. -/
def integerTag : UInt8 := 0x02
def octetStringTag : UInt8 := 0x04
def nullTag : UInt8 := 0x05
def objectIdTag : UInt8 := 0x06
def sequenceTag : UInt8 := 0x30

/-- The tags of the types that have one of their own, in the order of their numbers: first the
types with a plain content, then sequence and set. -/
def universalTags : List UInt8 :=
  [0x01, 0x02, 0x03, 0x04, 0x05, 0x06, 0x09, 0x0A, 0x0C, 0x12, 0x13, 0x14, 0x15, 0x16, 0x17,
    0x18, 0x1A, 0x1E, 0x30, 0x31]

/-- Whether a byte is a tag. In the three classes above the universal one every number is free but
the highest, which would announce a longer tag. -/
def isTag (byte : UInt8) : Bool :=
  if byte < 0x40 then universalTags.contains byte else byte &&& 0x1F != 0x1F

/-- The length at the front: below 128 it is one byte, otherwise the first byte tells how many
bytes follow, and as few as possible have to be used. -/
def length? : Bytes → Option (Nat × Bytes)
  | [] => none
  | first :: rest =>
    if first < 0x80 then some (first.toNat, rest)
    else
      let count := first.toNat - 0x80
      let length := Bytes.toNat (rest.take count)
      if count = 0 ∨ 4 < count ∨ rest.length < count then none
      else if length < 0x80 ∨ Bytes.byteLength length ≠ count then none
      else some (length, rest.drop count)

/-- The element at the front: its tag, its content, and what follows it. -/
def element? : Bytes → Option (UInt8 × Bytes × Bytes)
  | [] => none
  | tag :: rest => do
    let (length, rest) ← length? rest
    if !isTag tag || rest.length < length then none
    else some (tag, rest.take length, rest.drop length)

/-- A length takes at least one byte off the front. -/
theorem length_lt_of_length? {bytes rest : Bytes} {length : Nat}
    (read : length? bytes = some (length, rest)) : rest.length < bytes.length := by
  unfold length? at read
  split at read
  · contradiction
  · split at read
    · simp only [Option.some.injEq, Prod.mk.injEq] at read
      simp [← read.2]
    · extract_lets count announced at read
      split at read
      · contradiction
      · split at read
        · contradiction
        · simp only [Option.some.injEq, Prod.mk.injEq] at read
          simp only [← read.2, List.length_drop, List.length_cons]
          omega

/-- An element takes at least its tag and its length off the front. -/
theorem length_lt_of_element? {bytes content rest : Bytes} {tag : UInt8}
    (read : element? bytes = some (tag, content, rest)) : rest.length < bytes.length := by
  match bytes, read with
  | first :: more, read =>
    simp only [element?, bind, Option.bind_eq_some_iff, Prod.exists] at read
    obtain ⟨length, body, sized, found⟩ := read
    have shorter := length_lt_of_length? sized
    split at found
    · contradiction
    · simp only [Option.some.injEq, Prod.mk.injEq] at found
      simp only [← found.2.2, List.length_drop, List.length_cons]
      omega

/-- The content of the element at the front, which must have the given tag, and what follows. -/
def expect? (tag : UInt8) (bytes : Bytes) : Option (Bytes × Bytes) := do
  let (found, content, rest) ← element? bytes
  if found = tag then some (content, rest) else none

/-- The content of a byte string that is a single element with the given tag. -/
def only? (tag : UInt8) (bytes : Bytes) : Option Bytes := do
  let (content, rest) ← expect? tag bytes
  if rest.isEmpty then some content else none

/-- A natural number at the front: no sign bit, and no zero in front but where it keeps the sign
bit clear. -/
def natural? (bytes : Bytes) : Option (Nat × Bytes) := do
  let (content, rest) ← expect? integerTag bytes
  match content with
  | [] => none
  | [first] => if first < 0x80 then some (first.toNat, rest) else none
  | first :: second :: _ =>
    if 0x80 ≤ first ∨ (first = 0 ∧ second < 0x80) then none
    else some (Bytes.toNat content, rest)

end DebugBridge.Der
