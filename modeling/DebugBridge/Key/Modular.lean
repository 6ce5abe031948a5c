import DebugBridge.Bytes

/-!
# Modular arithmetic

Powers modulo a number, the inverse of an odd word, and whole square roots.
-/

namespace DebugBridge.Modular

/-- The power of a base modulo a number, by squaring. -/
def pow (base exponent modulus : Nat) : Nat :=
  if exponent = 0 then 1 % modulus
  else
    let rest := pow (base * base % modulus) (exponent / 2) modulus
    if exponent % 2 = 1 then base * rest % modulus else rest
  termination_by exponent
  decreasing_by omega

/-- One step towards the inverse of a word: it doubles the number of correct low bits. -/
def refine (word approximation : UInt32) : UInt32 :=
  approximation * (2 - word * approximation)

/-- The inverse of an odd word. The word itself is right in the three lowest bits, so four steps
make all 32 right. -/
def inverse (word : UInt32) : UInt32 :=
  refine word (refine word (refine word (refine word word)))

/-- The largest number whose square is not above the given one. -/
def sqrt (value : Nat) : Nat :=
  if value < 2 then value
  else
    let half := 2 * sqrt (value / 4)
    if (half + 1) * (half + 1) ≤ value then half + 1 else half
  termination_by value
  decreasing_by omega

/-- `pow` is exponentiation. -/
theorem pow_eq (base exponent modulus : Nat) :
    pow base exponent modulus = Nat.pow base exponent % modulus := by
  rw [Nat.pow_eq]
  fun_induction pow base exponent modulus with
  | case1 base => rw [Nat.pow_zero]
  | case2 base exponent nonzero rest odd ih =>
    have split : exponent = 2 * (exponent / 2) + 1 := by omega
    rw [show rest = _ from ih, Nat.mul_mod, Nat.mod_mod, ← Nat.pow_mod, ← Nat.mul_mod,
      ← Nat.pow_two, ← Nat.pow_mul, Nat.mul_comm base, ← Nat.pow_succ]
    exact congrArg (base ^ · % modulus) split.symm
  | case3 base exponent nonzero rest even ih =>
    have split : exponent = 2 * (exponent / 2) := by omega
    rw [show rest = _ from ih, ← Nat.pow_mod, ← Nat.pow_two, ← Nat.pow_mul]
    exact congrArg (base ^ · % modulus) split.symm

end DebugBridge.Modular
