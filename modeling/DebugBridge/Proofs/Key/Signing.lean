import DebugBridge.Key.Pair
import DebugBridge.Proofs.Key.Numerals
import Mathlib.Data.Nat.ChineseRemainder
import Mathlib.FieldTheory.Finite.Basic
import Mathlib.NumberTheory.LucasLehmer

/-!
# Signatures

A signature is the padded token raised to the private exponent, and a device checks it by raising it
to the public one. Modulo a product of distinct primes the two powers cancel if the exponents do so
modulo each prime less one (`Modular.pow_modEq_of_primes`), also for a block that shares a factor
with the modulus. The padding begins with a zero and a one, so the number of a block tells how long
its token is, and no two tokens have the same block (`Token.block_injective`).
-/

namespace DebugBridge

namespace Token

/-- The digits of a block behind its leading one. -/
def digits (token : Bytes) : Bytes :=
  padding.drop 2 ++ token

/-- The number of a block is that of a zero, a one and the digits behind them. -/
theorem block_eq (token : Bytes) : block token = Bytes.toNat ([0x00, 0x01] ++ digits token) :=
  rfl

/-- A token is no longer than another one with the same block, since the padding fills what a token
leaves. -/
theorem length_le_of_block_eq {token other : Bytes} (same : block token = block other) :
    token.length ≤ other.length := by
  have least := (Bytes.toNat_bounds_of_leading_one (digits token)).1
  have most := (Bytes.toNat_bounds_of_leading_one (digits other)).2
  rw [← block_eq] at least most
  rw [same] at least
  have fewer : (digits token).length < (digits other).length + 1 :=
    (Nat.pow_lt_pow_iff_right (by decide : 1 < 256)).mp (Nat.lt_of_le_of_lt least most)
  rw [digits, digits, List.length_append, List.length_append] at fewer
  omega

/-- No two tokens have the same block. -/
theorem block_injective {token other : Bytes} (same : block token = block other) :
    token = other := by
  have sized : token.length = other.length :=
    Nat.le_antisymm (length_le_of_block_eq same) (length_le_of_block_eq same.symm)
  have blocks : padding ++ token = padding ++ other := by
    apply Bytes.eq_of_toNat_eq
    · rw [List.length_append, List.length_append, sized]
    · exact same
  exact List.append_cancel_left blocks

end Token

namespace Modular

/-- Exponents that cancel modulo an odd prime less one cancel modulo the prime. -/
theorem pow_modEq_of_prime {prime exponent : Nat} (is_prime : prime.Prime) (odd : Odd prime)
    (cancel : exponent ≡ 1 [MOD prime - 1]) (message : Nat) :
    message ^ exponent ≡ message [MOD prime] := by
  have large : 2 < prime := by
    have two_le := is_prime.two_le
    obtain ⟨half, rfl⟩ := odd
    omega
  have positive : 1 ≤ exponent := by
    rw [Nat.one_le_iff_ne_zero]
    rintro rfl
    have vanishes : 0 % (prime - 1) = 1 % (prime - 1) := cancel
    rw [Nat.zero_mod, Nat.mod_eq_of_lt (by omega)] at vanishes
    contradiction
  have multiple : prime - 1 ∣ exponent - 1 := (Nat.modEq_iff_dvd' positive).mp cancel.symm
  have powers := Int.ModEq.pow_eq_pow is_prime multiple positive Nat.one_pos message
  rw [pow_one] at powers
  exact_mod_cast powers

/-- They cancel modulo a product of distinct odd primes, whatever the message has in common with
it. -/
theorem pow_modEq_of_primes {primes : List Nat} {exponent : Nat}
    (odd_primes : ∀ prime ∈ primes, prime.Prime ∧ Odd prime) (distinct : primes.Nodup)
    (cancel : ∀ prime ∈ primes, exponent ≡ 1 [MOD prime - 1]) (message : Nat) :
    message ^ exponent ≡ message [MOD primes.prod] := by
  have coprime : primes.Pairwise Nat.Coprime := by
    refine distinct.imp_of_mem ?_
    intro first second first_member second_member different
    exact (Nat.coprime_primes (odd_primes first first_member).1
      (odd_primes second second_member).1).mpr different
  rw [Nat.modEq_list_prod_iff coprime]
  intro index
  have member : primes.get index ∈ primes := List.get_mem primes index
  obtain ⟨is_prime, odd⟩ := odd_primes _ member
  exact pow_modEq_of_prime is_prime odd (cancel _ member) message

/-- The remainder of a division. By zero there is none. -/
def rem? (value modulus : Nat) : Option Nat :=
  if modulus = 0 then none else some (value % modulus)

/-- The power of a base modulo a number, by squaring, which fails when it divides by zero. -/
def pow? (base exponent modulus : Nat) : Option Nat :=
  if exponent = 0 then rem? 1 modulus
  else do
    let square ← rem? (base * base) modulus
    let rest ← pow? square (exponent / 2) modulus
    if exponent % 2 = 1 then rem? (base * rest) modulus else some rest
  termination_by exponent
  decreasing_by omega

/-- Modulo anything but zero a power never fails. -/
theorem pow?_eq {modulus : Nat} (nonzero : modulus ≠ 0) (base exponent : Nat) :
    pow? base exponent modulus = some (pow base exponent modulus) := by
  have total : ∀ value, rem? value modulus = some (value % modulus) := fun value =>
    if_neg nonzero
  fun_induction pow base exponent modulus with
  | case1 base => rw [pow?, if_pos rfl, total]
  | case2 base exponent positive rest odd ih =>
    rw [pow?, if_neg positive, total, Option.bind_eq_bind, Option.bind_some, ih]
    simp only [Option.bind_some, if_pos odd, total]
    rfl
  | case3 base exponent positive rest even ih =>
    rw [pow?, if_neg positive, total, Option.bind_eq_bind, Option.bind_some, ih]
    simp only [Option.bind_some, if_neg even]
    rfl

end Modular

/-- The modulus of a key is the product of distinct odd primes, and its exponents cancel modulo each
of them less one. -/
structure PrivateKey.IsOver (primes : List Nat) (key : PrivateKey) : Prop where
  odd_primes : ∀ prime ∈ primes, prime.Prime ∧ Odd prime
  distinct : primes.Nodup
  modulus : key.modulus = primes.prod
  cancel : ∀ prime ∈ primes, key.publicExponent * key.privateExponent ≡ 1 [MOD prime - 1]

/-- What is raised to both exponents is what it was. -/
theorem PrivateKey.IsOver.pow_pow {primes : List Nat} {key : PrivateKey}
    (composed : key.IsOver primes) {message : Nat} (small : message < key.modulus) :
    (message ^ key.privateExponent % key.modulus) ^ key.publicExponent % key.modulus = message := by
  have cancels : message ^ (key.publicExponent * key.privateExponent) ≡ message
      [MOD key.modulus] := by
    rw [composed.modulus]
    exact Modular.pow_modEq_of_primes composed.odd_primes composed.distinct composed.cancel message
  rw [← Nat.pow_mod, ← Nat.pow_mul, Nat.mul_comm key.privateExponent, cancels,
    Nat.mod_eq_of_lt small]

/-- A product of odd primes is odd. -/
theorem PrivateKey.IsOver.odd_modulus {primes : List Nat} {key : PrivateKey}
    (composed : key.IsOver primes) : key.modulus % 2 = 1 := by
  rw [composed.modulus, ← Nat.odd_iff, ← Nat.coprime_two_left, Nat.coprime_list_prod_right_iff]
  exact fun prime member => Nat.coprime_two_left.mpr (composed.odd_primes prime member).2

namespace DeviceKey

/-- Checks a signature like `verify`, but fails when it divides by zero. -/
def verify? (token signature : Bytes) (key : DeviceKey) : Option Bool :=
  let signed := Bytes.toNat signature
  if signed < key.modulus then
    (Modular.pow? signed key.exponent.toNat key.modulus).map (· == Token.block token)
  else some false

/-- Checking a signature never divides by zero. -/
theorem verify?_eq (token signature : Bytes) (key : DeviceKey) :
    key.verify? token signature = some (key.verify token signature) := by
  unfold verify? verify
  by_cases small : Bytes.toNat signature < key.modulus
  · have nonzero : key.modulus ≠ 0 := Nat.ne_zero_of_lt small
    simp only [small, if_true, decide_true, Bool.true_and, Modular.pow?_eq nonzero, Option.map_some]
  · simp only [small, if_false, decide_false, Bool.false_and]

/-- What a signature has to be to prove a token. -/
theorem verify_iff {token signature : Bytes} {key : DeviceKey} :
    key.verify token signature = true ↔ Bytes.toNat signature < key.modulus ∧
      Bytes.toNat signature ^ key.exponent.toNat % key.modulus = Token.block token := by
  rw [verify, Bool.and_eq_true, decide_eq_true_iff, beq_iff_eq, Modular.pow_eq]
  rfl

/-- A signature proves at most one token. -/
theorem eq_of_verify {token other signature : Bytes} {key : DeviceKey}
    (first : key.verify token signature = true) (second : key.verify other signature = true) :
    token = other := by
  have block := (verify_iff.mp first).2
  rw [(verify_iff.mp second).2] at block
  exact (Token.block_injective block).symm

/-- An odd modulus and an exponent that fit make a key with just these. -/
theorem ofRsa_of_fits {modulus exponent : Nat} (fits : modulus < bound) (odd : modulus % 2 = 1)
    (short : exponent < UInt32.size) :
    ∃ key, ofRsa modulus exponent = .ok key ∧ key.modulus = modulus ∧
      key.exponent.toNat = exponent := by
  have not_even : ¬modulus % 2 = 0 := by omega
  have not_long : ¬UInt32.size ≤ exponent := Nat.not_le.mpr short
  simp only [ofRsa, fits, not_even, not_long, dite_true, dite_false, if_false]
  exact ⟨_, rfl, rfl, Nat.mod_eq_of_lt short⟩

end DeviceKey

namespace KeyPair

variable {pair : KeyPair} {token : Bytes}

/-- A token is refused exactly if its block is too large for the key. -/
theorem sign_eq_error_iff :
    pair.sign token = .error (.crypto "Padded token is not smaller than the key modulus") ↔
      pair.privateKey.modulus ≤ Token.block token := by
  simp only [sign]
  split
  · next large => exact iff_of_true rfl large
  · next small => exact iff_of_false (by simp) small

/-- A signature fills the largest modulus that fits. -/
theorem sign_of_lt (fits : pair.privateKey.modulus < DeviceKey.bound)
    (small : Token.block token < pair.privateKey.modulus) :
    ∃ signature, pair.sign token = .ok signature ∧
      signature.length = DeviceKey.modulusSize ∧
      Bytes.toNat signature =
        Token.block token ^ pair.privateKey.privateExponent % pair.privateKey.modulus := by
  have not_large : ¬pair.privateKey.modulus ≤ Token.block token := Nat.not_le.mpr small
  have width : max (Bytes.byteLength pair.privateKey.modulus) DeviceKey.modulusSize =
      DeviceKey.modulusSize := Nat.max_eq_right (Bytes.byteLength_le fits)
  have signed : pair.sign token = .ok (Bytes.bigEndian DeviceKey.modulusSize
      (Modular.pow (Token.block token) pair.privateKey.privateExponent
        pair.privateKey.modulus)) := by
    simp only [sign, not_large, if_false, width]
  refine ⟨_, signed, ?_, ?_⟩
  · exact Bytes.length_bigEndian _ _
  · have below := Nat.mod_lt (Token.block token ^ pair.privateKey.privateExponent)
      (Nat.zero_lt_of_lt small)
    rw [Bytes.toNat_bigEndian, Modular.pow_eq, Nat.pow_eq, Nat.mod_eq_of_lt]
    exact Nat.lt_trans below fits

/-- Whoever has the public half accepts a signature for its token, and for no other one. -/
theorem verify_sign_iff {primes : List Nat} {key : DeviceKey} {other signature : Bytes}
    (composed : pair.privateKey.IsOver primes) (modulus : key.modulus = pair.privateKey.modulus)
    (exponent : key.exponent.toNat = pair.privateKey.publicExponent)
    (small : Token.block token < pair.privateKey.modulus)
    (number : Bytes.toNat signature =
      Token.block token ^ pair.privateKey.privateExponent % pair.privateKey.modulus) :
    key.verify other signature = true ↔ other = token := by
  have below := Nat.mod_lt (Token.block token ^ pair.privateKey.privateExponent)
    (Nat.zero_lt_of_lt small)
  have back := composed.pow_pow small
  rw [DeviceKey.verify_iff, modulus, exponent, number, back]
  constructor
  · rintro ⟨-, same⟩
    exact (Token.block_injective same).symm
  · rintro rfl
    exact ⟨below, rfl⟩

/-- **A signature proves one token.** A pair over distinct odd primes, of a modulus and a public
exponent that devices take, refuses a token exactly if its block is not below the modulus. Any other
token it signs with 256 bytes, and the device's key of its public half accepts these for the token
and for no other one. Checking never divides by zero, and accepts one token at most, for whatever
key and signature. -/
theorem signature_proves_one_token {pair : KeyPair} {primes : List Nat}
    (composed : pair.privateKey.IsOver primes) (fits : pair.privateKey.modulus < 2 ^ 2048)
    (short : pair.privateKey.publicExponent < 2 ^ 32) :
    (∃ key, DeviceKey.ofRsa pair.privateKey.modulus pair.privateKey.publicExponent = .ok key ∧
      ∀ token,
        (pair.sign token = .error (.crypto "Padded token is not smaller than the key modulus") ↔
          pair.privateKey.modulus ≤ Bytes.toNat (Token.padding ++ token)) ∧
        (Bytes.toNat (Token.padding ++ token) < pair.privateKey.modulus →
          ∃ signature, pair.sign token = .ok signature ∧ signature.length = 256 ∧
            ∀ other, key.verify other signature = true ↔ other = token)) ∧
    ∀ (key : DeviceKey) (signature : Bytes),
      (∀ token, key.verify? token signature = some (key.verify token signature)) ∧
      ∀ token other, key.verify token signature = true → key.verify other signature = true →
        token = other := by
  have bounded : pair.privateKey.modulus < DeviceKey.bound := by
    have same : 2 ^ 2048 = DeviceKey.bound := by decide +kernel
    rw [← same]
    exact fits
  obtain ⟨key, made, modulus, exponent⟩ :=
    DeviceKey.ofRsa_of_fits bounded composed.odd_modulus short
  refine ⟨⟨key, made, fun token => ⟨sign_eq_error_iff, fun small => ?_⟩⟩, ?_⟩
  · obtain ⟨signature, signed, size, number⟩ := sign_of_lt bounded small
    exact ⟨signature, signed, size,
      fun other => verify_sign_iff composed modulus exponent small number⟩
  · intro key signature
    exact ⟨fun token => DeviceKey.verify?_eq token signature key,
      fun token other first second => DeviceKey.eq_of_verify first second⟩

/-- A key over four Mersenne primes signs a token of twenty bytes, and refuses one of forty. -/
theorem signature_proves_one_token_mersenne :
    let primes := [2 ^ 31 - 1, 2 ^ 127 - 1, 2 ^ 607 - 1, 2 ^ 1279 - 1]
    let privateKey : PrivateKey := {
      modulus := primes.prod
      publicExponent := 65537
      privateExponent := (1618 * (primes.map (· - 1)).prod + 1) / 65537 }
    let pair : KeyPair := { privateKey, publicBytes := [] }
    let token := (List.range 20).map UInt8.ofNat
    privateKey.IsOver primes ∧
    pair.sign (List.replicate 40 0xFF) =
      .error (.crypto "Padded token is not smaller than the key modulus") ∧
    ∃ key signature, DeviceKey.ofRsa privateKey.modulus privateKey.publicExponent = .ok key ∧
      pair.sign token = .ok signature ∧ signature.length = 256 ∧
      key.verify token signature = true ∧ key.verify (token ++ [0]) signature = false := by
  intro primes privateKey pair token
  have composed : privateKey.IsOver primes := by
    refine ⟨?_, by decide +kernel, rfl, by decide +kernel⟩
    simp only [primes, List.forall_mem_cons]
    refine ⟨⟨?_, by decide +kernel⟩, ⟨?_, by decide +kernel⟩, ⟨?_, by decide +kernel⟩,
      ⟨?_, by decide +kernel⟩, fun _ member => absurd member List.not_mem_nil⟩
    · exact lucas_lehmer_sufficiency 31 (by decide) (by norm_num)
    · exact lucas_lehmer_sufficiency 127 (by decide) (by norm_num)
    · exact lucas_lehmer_sufficiency 607 (by decide) (by norm_num)
    · exact lucas_lehmer_sufficiency 1279 (by decide) (by norm_num)
  obtain ⟨⟨key, made, answers⟩, -⟩ :=
    @signature_proves_one_token pair primes composed (by decide +kernel) (by decide)
  obtain ⟨signature, signed, size, proves⟩ := (answers token).2 (by decide +kernel)
  have other : token ++ [0] ≠ token := by decide
  refine ⟨composed, (answers _).1.mpr (by decide +kernel), key, signature, made, signed, size,
    (proves token).mpr rfl, ?_⟩
  rw [← Bool.not_eq_true, proves]
  exact other

end KeyPair

end DebugBridge
