import DebugBridge.Bytes
import Mathlib.Algebra.Group.Nat.Defs
import Mathlib.Data.List.Induction

/-!
# Numbers written in bytes

Keys and signatures are numbers, written in as many bytes as the format says. Bytes put behind a
number shift it; a number is read back from enough bytes, and two byte strings of one length that
stand for the same number are the same.
-/

namespace DebugBridge.Bytes

/-- Bytes behind a number shift it. -/
theorem toNat_append (front back : Bytes) :
    toNat (front ++ back) = toNat front * 256 ^ back.length + toNat back := by
  induction back using List.reverseRecOn with
  | nil =>
    rw [List.append_nil, List.length_nil, Nat.pow_zero, Nat.mul_one]
    rfl
  | append_singleton back last ih =>
    rw [← List.append_assoc, toNat_append_singleton, toNat_append_singleton, ih,
      List.length_append, List.length_singleton, Nat.pow_succ]
    simp only [Nat.add_mul, Nat.mul_assoc, Nat.add_assoc]

/-- So many bytes hold numbers below that power of 256 only. -/
theorem toNat_lt (bytes : Bytes) : toNat bytes < 256 ^ bytes.length :=
  toNat_lt_of_length_le (Nat.le_refl bytes.length)

/-- A leading one tells how many digits there are behind it. -/
theorem toNat_bounds_of_leading_one (digits : Bytes) :
    256 ^ digits.length ≤ toNat ([0x00, 0x01] ++ digits) ∧
      toNat ([0x00, 0x01] ++ digits) < 256 ^ (digits.length + 1) := by
  have one : toNat [0x00, 0x01] = 1 := by decide +kernel
  have low := toNat_lt digits
  rw [toNat_append, one, Nat.one_mul, Nat.pow_succ]
  omega

/-- Of a number its low bytes are read back. -/
theorem toNat_bigEndian (width value : Nat) :
    toNat (bigEndian width value) = value % 256 ^ width := by
  induction width generalizing value with
  | zero => exact (Nat.mod_one value).symm
  | succ width ih =>
    have digits : bigEndian (width + 1) value =
        bigEndian width (value / 256) ++ [UInt8.ofNat value] := by
      rw [bigEndian, littleEndian, List.reverse_cons]
      rfl
    have scale : 256 ^ (width + 1) = 256 * 256 ^ width := Nat.pow_succ'
    rw [digits, toNat_append_singleton, ih, UInt8.toNat_ofNat', scale, Nat.mod_mul]
    omega

/-- Bytes of one length that stand for the same number are the same. -/
theorem eq_of_toNat_eq {left right : Bytes} (sized : left.length = right.length)
    (same : toNat left = toNat right) : left = right := by
  induction left using List.reverseRecOn generalizing right with
  | nil => exact (List.length_eq_zero_iff.mp sized.symm).symm
  | append_singleton left last ih =>
    obtain rfl | ⟨others, other_last, rfl⟩ := List.eq_nil_or_concat right
    · rw [List.length_append] at sized
      contradiction
    · rw [List.concat_eq_append] at sized same ⊢
      rw [toNat_append_singleton, toNat_append_singleton] at same
      have last_digit := last.toNat_lt
      have other_digit := other_last.toNat_lt
      have fronts : left = others := by
        apply ih
        · simpa using sized
        · omega
      have lasts : last = other_last := UInt8.toNat_inj.mp (by omega)
      rw [fronts, lasts]

/-- Bytes are the low bytes of the number that they stand for. -/
theorem littleEndian_toNat_reverse (bytes : Bytes) :
    littleEndian bytes.length (toNat bytes.reverse) = bytes := by
  have small := toNat_lt bytes.reverse
  rw [List.length_reverse] at small
  apply List.reverse_inj.mp
  apply eq_of_toNat_eq
  · rw [List.length_reverse, List.length_reverse, length_littleEndian]
  · have read := toNat_bigEndian bytes.length (toNat bytes.reverse)
    rwa [Nat.mod_eq_of_lt small] at read

/-- A number below the bound of so many bytes needs no more of them. -/
theorem byteLength_le {width value : Nat} (small : value < 256 ^ width) :
    byteLength value ≤ width := by
  unfold byteLength bitLength
  split
  · omega
  · next nonzero =>
    have bits : value.log2 < 8 * width := by
      rw [Nat.log2_lt nonzero, Nat.pow_mul]
      exact small
    omega

end DebugBridge.Bytes
