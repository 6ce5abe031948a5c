import DebugBridge.Key.DeviceKey
import DebugBridge.Proofs.Key.Signing
import Mathlib.Data.Nat.Digits.Lemmas

/-!
# Montgomery parameters

A device multiplies without dividing. For that its key has, beside the modulus, the negated inverse
of the lowest word and the square of `R = 2^2048`. The inverse comes from Newton's iteration in
arithmetic of words: what an approximation is off by is squared by each step
(`Modular.IsInverseUpTo.refine`), and an odd word is its own inverse up to multiples of eight, so
four steps leave nothing (`Modular.mul_inverse`). The numbers of a key are laid out in words, the
least significant one first; `DeviceKey.prepare?` makes these the way the key is prepared, word by
word and with a division that may fail, and comes to the same key.
-/

namespace DebugBridge

namespace Modular

/-- Whether a word times an approximation of its inverse is one, up to multiples of a scale. -/
def IsInverseUpTo (scale word approximation : UInt32) : Prop :=
  ∃ error, word * approximation = 1 + scale * error

/-- A refinement squares the scale. -/
theorem IsInverseUpTo.refine {scale word approximation : UInt32}
    (close : IsInverseUpTo scale word approximation) :
    IsInverseUpTo (scale * scale) word (Modular.refine word approximation) := by
  obtain ⟨error, product⟩ := close
  -- The product becomes `(1 + scale * error) * (1 - scale * error)`.
  refine ⟨-(error * error), ?_⟩
  unfold Modular.refine
  grind

/-- An odd word is its own inverse in the three lowest bits. -/
theorem isInverseUpTo_self {word : UInt32} (odd : word % 2 = 1) : IsInverseUpTo 8 word word := by
  have odd_value : word.toNat % 2 = 1 := congrArg UInt32.toNat odd
  have halves : word.toNat = 2 * (word.toNat / 2) + 1 := by omega
  obtain ⟨eighth, even⟩ := Nat.even_mul_succ_self (word.toNat / 2)
  have square : word.toNat * word.toNat = 1 + 8 * eighth := by
    calc word.toNat * word.toNat
        = 1 + 4 * (word.toNat / 2 * (word.toNat / 2 + 1)) := by
          conv_lhs => rw [halves]
          ring
      _ = 1 + 8 * eighth := by
          rw [even]
          ring
  refine ⟨UInt32.ofNat eighth, ?_⟩
  calc word * word = UInt32.ofNat (word.toNat * word.toNat) := by
        rw [UInt32.ofNat_mul, UInt32.ofNat_toNat]
    _ = 1 + 8 * UInt32.ofNat eighth := by
        rw [square, UInt32.ofNat_add, UInt32.ofNat_mul]
        rfl

/-- Four refinements make the inverse of an odd word: three bits become 6, 12, 24 and all 32. -/
theorem mul_inverse {word : UInt32} (odd : word % 2 = 1) : word * inverse word = 1 := by
  obtain ⟨error, product⟩ := (isInverseUpTo_self odd).refine.refine.refine.refine
  have vanishes : 8 * 8 * (8 * 8) * (8 * 8 * (8 * 8)) * (8 * 8 * (8 * 8) * (8 * 8 * (8 * 8))) =
      (0 : UInt32) := by decide
  rw [vanishes, UInt32.zero_mul, UInt32.add_zero] at product
  exact product

end Modular

namespace Word

/-- The words that a byte string consists of. Bytes that make no whole word are left out. -/
def sequence : Bytes → List UInt32
  | b0 :: b1 :: b2 :: b3 :: rest => ofBytes b0 b1 b2 b3 :: sequence rest
  | _ => []

/-- The `width` low words of a number, least significant first. -/
def limbs : Nat → Nat → List UInt32
  | 0, _ => []
  | width + 1, value => UInt32.ofNat value :: limbs width (value / 2 ^ 32)

/-- Written words are read back. -/
theorem sequence_flatMap_encode (words : List UInt32) :
    sequence (words.flatMap encode) = words := by
  induction words with
  | nil => rfl
  | cons word words ih =>
    simp only [List.flatMap_cons, encode, List.cons_append, List.nil_append, sequence,
      ofBytes_encode, ih]

@[simp] theorem length_limbs (width value : Nat) : (limbs width value).length = width := by
  induction width generalizing value with
  | zero => rfl
  | succ width ih => simp only [limbs, List.length_cons, ih]

/-- The words of a number are its bytes, four at a time. -/
theorem flatMap_encode_limbs (width value : Nat) :
    (limbs width value).flatMap encode = Bytes.littleEndian (4 * width) value := by
  induction width generalizing value with
  | zero => rfl
  | succ width ih =>
    have first : encode (UInt32.ofNat value) = Bytes.littleEndian 4 value := by
      simp only [encode, Bytes.littleEndian, List.cons.injEq, and_true]
      refine ⟨?_, ?_, ?_, ?_⟩ <;> apply UInt8.toNat_inj.mp <;>
        simp only [UInt8.toNat_ofNat', UInt32.toNat_ofNat'] <;> omega
    have shifted : value / 256 / 256 / 256 / 256 = value / 2 ^ 32 := by
      simp only [Nat.div_div_eq_div_mul, Nat.reduceMul, Nat.reducePow]
    rw [limbs, List.flatMap_cons, ih, first, ← shifted]
    rfl

/-- The words of a number written in bytes are its low words. -/
theorem sequence_littleEndian (width value : Nat) :
    sequence (Bytes.littleEndian (4 * width) value) = limbs width value := by
  rw [← flatMap_encode_limbs, sequence_flatMap_encode]

/-- Its words stand for the number, as far as they go. -/
theorem ofDigits_limbs (width value : Nat) :
    Nat.ofDigits (2 ^ 32) ((limbs width value).map UInt32.toNat) = value % (2 ^ 32) ^ width := by
  induction width generalizing value with
  | zero => exact (Nat.mod_one value).symm
  | succ width ih =>
    have scale : (2 ^ 32) ^ (width + 1) = 2 ^ 32 * (2 ^ 32) ^ width := Nat.pow_succ'
    rw [limbs, List.map_cons, Nat.ofDigits_cons, ih, scale, Nat.mod_mul, UInt32.toNat_ofNat']

end Word

namespace Bytes

theorem littleEndian_zero (width : Nat) : littleEndian width 0 = List.replicate width 0 := by
  induction width with
  | zero => rfl
  | succ width ih =>
    rw [littleEndian, Nat.zero_div, ih]
    rfl

/-- A number that fits into so many bytes has zeros behind them. -/
theorem littleEndian_add {width : Nat} (more value : Nat) (small : value < 256 ^ width) :
    littleEndian (width + more) value = littleEndian width value ++ List.replicate more 0 := by
  induction width generalizing value with
  | zero =>
    have zero : value = 0 := by simpa using small
    rw [zero, Nat.zero_add, littleEndian_zero]
    rfl
  | succ width ih =>
    rw [Nat.pow_succ] at small
    rw [Nat.succ_add, littleEndian, littleEndian, ih (value / 256) (by omega), List.cons_append]

/-- How many bytes a number needs tells how large it is. -/
theorem byteLength_le_iff {width value : Nat} : byteLength value ≤ width ↔ value < 256 ^ width := by
  refine ⟨fun short => ?_, byteLength_le⟩
  unfold byteLength bitLength at short
  split at short
  · next zero =>
    rw [zero]
    exact Nat.pow_pos (by decide)
  · next nonzero =>
    have bits : value.log2 < 8 * width := by omega
    rw [Nat.log2_lt nonzero, Nat.pow_mul] at bits
    exact bits

end Bytes

namespace DeviceKey

/-- The numbers of a key as a device lays them out. -/
structure Layout where
  n0inv : UInt32
  /-- The words of the modulus, least significant first. -/
  modulus : List UInt32
  /-- The words of the square of `R` modulo `n`. -/
  rr : List UInt32
  exponent : UInt32

/-- The words of a key. -/
def layout (key : DeviceKey) : Layout where
  n0inv := key.n0inv
  modulus := Word.limbs modulusWords key.modulus
  rr := Word.limbs modulusWords key.rr
  exponent := key.exponent

/-- What a device is given are the words of the key, with the number of words of its modulus in
front. -/
theorem encode_eq (key : DeviceKey) :
    key.encode = Word.encode 64 ++ Word.encode key.layout.n0inv ++
      key.layout.modulus.flatMap Word.encode ++ key.layout.rr.flatMap Word.encode ++
      Word.encode key.layout.exponent := by
  rw [layout, Word.flatMap_encode_limbs, Word.flatMap_encode_limbs]
  rfl

/-- A number in as many words as a modulus has, made of its own bytes and of zeros behind them. -/
def words (value : Nat) : Except Failure (List UInt32) :=
  let bytes := Bytes.littleEndian (Bytes.byteLength value) value
  if modulusSize < bytes.length then
    .error (.key s!"Value needs {bytes.length} bytes, key format holds {modulusSize}")
  else .ok (Word.sequence (bytes ++ List.replicate (modulusSize - bytes.length) 0))

/-- A number below the bound is laid out in as many words as a modulus has. -/
theorem words_of_lt {value : Nat} (fits : value < bound) :
    words value = .ok (Word.limbs modulusWords value) := by
  have short : Bytes.byteLength value ≤ modulusSize := Bytes.byteLength_le fits
  have padded := Bytes.littleEndian_add (modulusSize - Bytes.byteLength value) value
    (Bytes.byteLength_le_iff.mp (Nat.le_refl _))
  rw [Nat.add_sub_of_le short] at padded
  have sized : modulusSize = 4 * modulusWords := rfl
  simp only [words, Bytes.length_littleEndian, Nat.not_lt.mpr short, if_false, ← padded]
  rw [sized, Word.sequence_littleEndian]

/-- A number that reaches the bound is refused, with the number of bytes that it needs. -/
theorem words_of_le {value : Nat} (large : bound ≤ value) :
    words value = .error
      (.key s!"Value needs {Bytes.byteLength value} bytes, key format holds {modulusSize}") := by
  have long : modulusSize < Bytes.byteLength value := by
    rw [← Nat.not_le, Bytes.byteLength_le_iff]
    exact Nat.not_lt.mpr large
  simp only [words, Bytes.length_littleEndian, long, if_true]

/-- The words of the key for a modulus and a public exponent, made one after the other. The
reduction of the square of `R` is a division, which fails when the modulus is zero. -/
def prepare? (modulus exponent : Nat) : Option (Except Failure Layout) :=
  match words modulus with
  | .error failure => some (.error failure)
  | .ok limbs =>
    let lowest := limbs.headD 0
    if lowest &&& 1 = 0 then some (.error (.key "RSA modulus must be odd"))
    else (Modular.rem? (Nat.pow 2 (2 * (8 * modulusSize))) modulus).map fun square => do
      let rr ← words square
      if 4 < Bytes.byteLength exponent then throw (.key "Public exponent exceeds 32 bits")
      return {
        n0inv := 0 - Modular.inverse lowest
        modulus := limbs
        rr
        exponent := UInt32.ofNat exponent }

/-- The lowest bit of the word tells whether the number is even. -/
theorem and_one_eq_zero_iff (value : Nat) : UInt32.ofNat value &&& 1 = 0 ↔ value % 2 = 0 := by
  have low : (UInt32.ofNat value &&& 1).toNat = value % 2 := by
    rw [UInt32.toNat_and, UInt32.toNat_ofNat', UInt32.toNat_one, Nat.and_one_is_mod]
    omega
  rw [← UInt32.toNat_inj, low]
  rfl

/-- Preparing a key never divides by zero, and comes to the key that is made at once. -/
theorem prepare?_eq (modulus exponent : Nat) :
    prepare? modulus exponent = some ((ofRsa modulus exponent).map layout) := by
  unfold prepare? ofRsa
  by_cases fits : modulus < bound
  · have lowest : (Word.limbs modulusWords modulus).headD 0 = UInt32.ofNat modulus := rfl
    simp only [words_of_lt fits, lowest, and_one_eq_zero_iff, fits, dite_true]
    by_cases even : modulus % 2 = 0
    · simp only [even, if_true, dite_true]
      rfl
    · have nonzero : modulus ≠ 0 := by
        rintro rfl
        exact even rfl
      have square_fits : Nat.pow 2 (2 * (8 * modulusSize)) % modulus < bound :=
        Nat.lt_trans (Nat.mod_lt _ (Nat.pos_of_ne_zero nonzero)) fits
      have long_iff : 4 < Bytes.byteLength exponent ↔ UInt32.size ≤ exponent := by
        rw [← Nat.not_le, Bytes.byteLength_le_iff, Nat.not_lt]
        rfl
      simp only [even, if_false, dite_false, Modular.rem?, nonzero, Option.map_some,
        words_of_lt square_fits, long_iff]
      by_cases long : UInt32.size ≤ exponent
      · simp only [long, if_true]
        rfl
      · simp only [long, if_false]
        rfl
  · simp only [words_of_le (Nat.not_lt.mp fits), fits, dite_false]
    rfl

/-- What a key is made of, and from what none is made. -/
theorem eq_of_ofRsa {modulus exponent : Nat} {key : DeviceKey}
    (made : ofRsa modulus exponent = .ok key) :
    (modulus < bound ∧ modulus % 2 = 1 ∧ exponent < UInt32.size) ∧
      key.n0inv = -Modular.inverse (UInt32.ofNat modulus) ∧ key.modulus = modulus ∧
      key.rr = Nat.pow 2 (2 * (8 * modulusSize)) % modulus ∧
      key.exponent = UInt32.ofNat exponent := by
  unfold ofRsa at made
  split at made
  case isFalse => contradiction
  case isTrue fits =>
    split at made
    case isTrue => contradiction
    case isFalse odd =>
      split at made
      case isTrue => contradiction
      case isFalse short =>
        obtain rfl := Except.ok.inj made
        exact ⟨⟨fits, by omega, Nat.not_le.mp short⟩, UInt32.zero_sub _, rfl, rfl, rfl⟩

/-- Which keys can be made. -/
theorem exists_ofRsa_iff {modulus exponent : Nat} :
    (∃ key, ofRsa modulus exponent = .ok key) ↔
      modulus < 2 ^ 2048 ∧ modulus % 2 = 1 ∧ exponent < 2 ^ 32 := by
  have same : 2 ^ 2048 = bound := by decide +kernel
  rw [same]
  constructor
  · rintro ⟨key, made⟩
    exact (eq_of_ofRsa made).1
  · rintro ⟨fits, odd, short⟩
    obtain ⟨key, made, -, -⟩ := ofRsa_of_fits fits odd short
    exact ⟨key, made⟩

/-- The words of the modulus begin with its lowest one. -/
theorem modulus_layout (key : DeviceKey) : key.layout.modulus =
    UInt32.ofNat key.modulus :: Word.limbs 63 (key.modulus / 2 ^ 32) :=
  rfl

/-- The lowest word of an odd number is odd. -/
theorem odd_word {value : Nat} (odd : value % 2 = 1) : UInt32.ofNat value % 2 = 1 := by
  apply UInt32.toNat_inj.mp
  rw [UInt32.toNat_mod, UInt32.toNat_ofNat']
  change value % 2 ^ 32 % 2 = 1
  omega

/-- A number below the bound is what its words stand for. -/
theorem ofDigits_limbs_of_lt {value : Nat} (fits : value < bound) :
    Nat.ofDigits (2 ^ 32) ((Word.limbs modulusWords value).map UInt32.toNat) = value := by
  have same : (2 ^ 32) ^ modulusWords = bound := by decide +kernel
  rw [Word.ofDigits_limbs, same, Nat.mod_eq_of_lt fits]

/-- **The Montgomery parameters of a key.** A key is made exactly of an odd modulus below `2^2048`
and an exponent below `2^32`, and making it never divides by zero. It has that modulus in its 64
words, the lowest of which times the number beside it is `-1`, and that exponent; the words of its
third number stand for the square of `2^2048` modulo the modulus. These are what a device gets. The
inverse of any odd word is one. -/
theorem montgomery_parameters (modulus exponent : Nat) :
    prepare? modulus exponent = some ((ofRsa modulus exponent).map layout) ∧
    ((∃ key, ofRsa modulus exponent = .ok key) ↔
      modulus < 2 ^ 2048 ∧ modulus % 2 = 1 ∧ exponent < 2 ^ 32) ∧
    (∀ key, ofRsa modulus exponent = .ok key →
      key.modulus = modulus ∧ key.layout.modulus.length = 64 ∧ key.layout.rr.length = 64 ∧
      Nat.ofDigits (2 ^ 32) (key.layout.modulus.map UInt32.toNat) = modulus ∧
      (∃ lowest higher, key.layout.modulus = lowest :: higher ∧ lowest * key.n0inv = -1) ∧
      Nat.ofDigits (2 ^ 32) (key.layout.rr.map UInt32.toNat) = 2 ^ 4096 % modulus ∧
      key.exponent.toNat = exponent ∧
      key.encode = Word.encode 64 ++ Word.encode key.n0inv ++
        key.layout.modulus.flatMap Word.encode ++ key.layout.rr.flatMap Word.encode ++
        Word.encode key.exponent) ∧
    ∀ word : UInt32, word % 2 = 1 → word * Modular.inverse word = 1 := by
  refine ⟨prepare?_eq modulus exponent, exists_ofRsa_iff, ?_, fun word => Modular.mul_inverse⟩
  intro key made
  obtain ⟨⟨fits, odd, short⟩, n0inv, same_modulus, square, same_exponent⟩ := eq_of_ofRsa made
  refine ⟨same_modulus, Word.length_limbs _ _, Word.length_limbs _ _, ?_, ?_, ?_, ?_,
    encode_eq key⟩
  · rw [layout, ofDigits_limbs_of_lt key.modulus_lt, same_modulus]
  · refine ⟨_, _, modulus_layout key, ?_⟩
    rw [same_modulus, n0inv, UInt32.mul_neg, Modular.mul_inverse (odd_word odd)]
  · have power : Nat.pow 2 (2 * (8 * modulusSize)) = 2 ^ 4096 := by decide +kernel
    rw [layout, ofDigits_limbs_of_lt key.rr_lt, square, power]
  · rw [same_exponent, UInt32.toNat_ofNat']
    exact Nat.mod_eq_of_lt short

/-- The parameters of a modulus of 2048 bits. -/
theorem montgomery_parameters_wide :
    let modulus := 3 * 2 ^ 2046 + 12345
    ∃ key, ofRsa modulus 65537 = .ok key ∧ key.modulus = modulus ∧ 12345 * key.n0inv = -1 ∧
      Nat.ofDigits (2 ^ 32) (key.layout.rr.map UInt32.toNat) = 2 ^ 4096 % modulus ∧
      key.exponent.toNat = 65537 := by
  intro modulus
  obtain ⟨-, made_iff, parameters, -⟩ := montgomery_parameters modulus 65537
  obtain ⟨key, made⟩ := made_iff.mpr (by decide +kernel)
  obtain ⟨same, -, -, -, ⟨lowest, higher, words, product⟩, square, short, -⟩ :=
    parameters key made
  refine ⟨key, made, same, ?_, square, short⟩
  have first : lowest = UInt32.ofNat modulus := by
    rw [modulus_layout, same] at words
    exact (List.cons.inj words).1.symm
  have low : UInt32.ofNat modulus = 12345 := by decide +kernel
  rw [first, low] at product
  exact product

end DeviceKey

end DebugBridge
