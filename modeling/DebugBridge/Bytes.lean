/-!
# Bytes, words and natural numbers

A byte string is a list of bytes. Words of 32 bits are written with their least significant byte
first, the way every header of the protocol writes them. Natural numbers of any size are read
from and written to byte strings in either order.
-/

namespace DebugBridge

/-- A byte string. -/
abbrev Bytes := List UInt8

namespace Word

/-- The four bytes of a word, least significant first. -/
def encode (word : UInt32) : Bytes :=
  [UInt8.ofNat word.toNat, UInt8.ofNat (word.toNat / 256), UInt8.ofNat (word.toNat / 65536),
    UInt8.ofNat (word.toNat / 16777216)]

/-- The word whose bytes are given, least significant first. -/
def ofBytes (b0 b1 b2 b3 : UInt8) : UInt32 :=
  UInt32.ofNat (b0.toNat + 256 * b1.toNat + 65536 * b2.toNat + 16777216 * b3.toNat)

/-- Reads one word off the front of a byte string that holds at least four bytes. -/
def split? : Bytes → Option (UInt32 × Bytes)
  | b0 :: b1 :: b2 :: b3 :: rest => some (ofBytes b0 b1 b2 b3, rest)
  | _ => none

@[simp] theorem length_encode (word : UInt32) : (encode word).length = 4 := rfl

/-- Four bytes lose nothing of a word. -/
theorem ofBytes_encode (word : UInt32) :
    ofBytes (UInt8.ofNat word.toNat) (UInt8.ofNat (word.toNat / 256))
      (UInt8.ofNat (word.toNat / 65536)) (UInt8.ofNat (word.toNat / 16777216)) = word := by
  have bound := word.toNat_lt
  apply UInt32.toNat_inj.mp
  simp only [ofBytes, UInt8.toNat_ofNat', UInt32.toNat_ofNat']
  omega

/-- A written word is read back, whatever follows it. -/
@[simp] theorem split?_encode_append (word : UInt32) (rest : Bytes) :
    split? (encode word ++ rest) = some (word, rest) := by
  simp only [encode, List.cons_append, List.nil_append, split?, ofBytes_encode]

/-- Reading a word takes exactly its four bytes off the front. -/
theorem eq_encode_append_of_split? {bytes rest : Bytes} {word : UInt32}
    (read : split? bytes = some (word, rest)) : bytes = encode word ++ rest := by
  match bytes, read with
  | b0 :: b1 :: b2 :: b3 :: tail, read =>
    simp only [split?, Option.some.injEq, Prod.mk.injEq] at read
    obtain ⟨rfl, rfl⟩ := read
    have h0 := b0.toNat_lt
    have h1 := b1.toNat_lt
    have h2 := b2.toNat_lt
    have h3 := b3.toNat_lt
    simp only [encode, List.cons_append, List.nil_append, List.cons.injEq, and_true]
    refine ⟨?_, ?_, ?_, ?_⟩ <;> apply UInt8.toNat_inj.mp <;>
      simp only [ofBytes, UInt8.toNat_ofNat', UInt32.toNat_ofNat'] <;> omega

/-- A word is read off every byte string of at least four bytes. -/
theorem exists_split? (bytes : Bytes) (long : 4 ≤ bytes.length) :
    ∃ word, split? bytes = some (word, bytes.drop 4) := by
  match bytes, long with
  | b0 :: b1 :: b2 :: b3 :: rest, _ => exact ⟨ofBytes b0 b1 b2 b3, rfl⟩

end Word

namespace Bytes

/-- Whether there are at least so many bytes. No more bytes than that are looked at. -/
def holds : Nat → Bytes → Bool
  | 0, _ => true
  | _ + 1, [] => false
  | count + 1, _ :: rest => holds count rest

/-- A number that is being read. Its last digits are kept apart until there are enough of them,
because arithmetic on a long number costs as much for one digit as for many. -/
structure Reading where
  /-- The digits in front. -/
  front : Nat := 0
  /-- The last digits. -/
  back : Nat := 0
  /-- One more than the largest number that as many digits as the last ones can write. -/
  scale : Nat := 1

namespace Reading

/-- The number read so far. -/
def value (reading : Reading) : Nat :=
  reading.front * reading.scale + reading.back

/-- Reads one more byte. -/
def next (reading : Reading) (byte : UInt8) : Reading :=
  if reading.scale < Nat.pow 2 512 then
    { reading with back := reading.back * 256 + byte.toNat, scale := reading.scale * 256 }
  else { front := reading.value, back := byte.toNat, scale := 256 }

/-- Each byte is one more digit. -/
theorem value_next (reading : Reading) (byte : UInt8) :
    (reading.next byte).value = reading.value * 256 + byte.toNat := by
  unfold next
  split
  · simp only [value, Nat.add_mul, Nat.mul_assoc, Nat.add_assoc]
  · rfl

end Reading

/-- The natural number written with its most significant byte first. -/
def toNat (bytes : Bytes) : Nat :=
  (bytes.foldl Reading.next {}).value

/-- The `width` low bytes of a number, least significant first. -/
def littleEndian : Nat → Nat → Bytes
  | 0, _ => []
  | width + 1, value => UInt8.ofNat value :: littleEndian width (value / 256)

/-- The `width` low bytes of a number, most significant first. -/
def bigEndian (width value : Nat) : Bytes :=
  (littleEndian width value).reverse

/-- How many bits a number needs; zero needs none. -/
def bitLength (value : Nat) : Nat :=
  if value = 0 then 0 else value.log2 + 1

/-- How many bytes a number needs; zero needs none. -/
def byteLength (value : Nat) : Nat :=
  (bitLength value + 7) / 8

theorem holds_iff {count : Nat} {bytes : Bytes} :
    bytes.holds count = true ↔ count ≤ bytes.length := by
  fun_induction holds count bytes with
  | case1 => simp only [Nat.zero_le]
  | case2 => simp only [Bool.false_eq_true, List.length_nil, Nat.le_zero, Nat.succ_ne_zero]
  | case3 count byte rest ih => rw [ih, List.length_cons, Nat.succ_le_succ_iff]

@[simp] theorem length_littleEndian (width value : Nat) :
    (littleEndian width value).length = width := by
  induction width generalizing value with
  | zero => rfl
  | succ width ih => simp only [littleEndian, List.length_cons, ih]

@[simp] theorem length_bigEndian (width value : Nat) : (bigEndian width value).length = width := by
  simp only [bigEndian, List.length_reverse, length_littleEndian]

theorem toNat_append_singleton (bytes : Bytes) (byte : UInt8) :
    toNat (bytes ++ [byte]) = toNat bytes * 256 + byte.toNat := by
  simp only [toNat, List.foldl_append, List.foldl_cons, List.foldl_nil, Reading.value_next]

/-- A number is below the bound that its number of bytes sets. -/
theorem toNat_lt_of_length_le {width : Nat} {bytes : Bytes} (short : bytes.length ≤ width) :
    toNat bytes < Nat.pow 256 width := by
  have below : ∀ reversed : Bytes, toNat reversed.reverse < 256 ^ reversed.length := by
    intro reversed
    induction reversed with
    | nil => exact Nat.one_pos
    | cons byte rest ih =>
      have := byte.toNat_lt
      rw [List.reverse_cons, toNat_append_singleton, List.length_cons, Nat.pow_succ]
      omega
  have := below bytes.reverse
  rw [List.reverse_reverse, List.length_reverse] at this
  exact Nat.lt_of_lt_of_le this (Nat.pow_le_pow_right (by decide) short)

end Bytes
end DebugBridge
