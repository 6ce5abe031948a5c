import DebugBridge.Encoding.Der
import DebugBridge.Encoding.Pem
import DebugBridge.Failure
import DebugBridge.Key.Modular

/-!
# Private keys

A private key is an RSA modulus with both exponents. It is only built from components that fit
together: the primes multiply to the modulus and the exponents cancel modulo each prime less one.
In files it is armoured text, either bare or wrapped in a structure that names the algorithm.
-/

namespace DebugBridge

/-- The parts of an RSA key that signing needs. -/
structure PrivateKey where
  modulus : Nat
  publicExponent : Nat
  privateExponent : Nat
  deriving DecidableEq, Repr

namespace PrivateKey

/-- The largest public exponent that is accepted. -/
def maxPublicExponent : Nat := Nat.pow 2 33 - 1

/-- The largest public exponent that is too small to find the primes from. -/
def maxOpaqueExponent : Nat := Nat.pow 2 16

/-- Whether the public half is acceptable. -/
def isPublicHalf (modulus publicExponent : Nat) : Bool :=
  modulus % 2 = 1 && publicExponent < modulus && publicExponent % 2 = 1 &&
    2 ≤ publicExponent && publicExponent ≤ maxPublicExponent

/-- Whether the exponents cancel modulo each prime less one, and the primes make the modulus. -/
def isConsistent (modulus publicExponent privateExponent : Nat) (primes : List Nat) : Bool :=
  primes.all (1 < ·) && primes.foldl (· * ·) 1 = modulus &&
    primes.all fun prime => privateExponent * publicExponent % (prime - 1) = 1

/-- The two primes of a modulus, found from a pair of exponents of which the public one is large
enough. Their sum is read off the exponents, and the sum and the product give the difference. -/
def primesOf? (modulus publicExponent privateExponent : Nat) : Option (Nat × Nat) :=
  let excess := privateExponent * publicExponent - 1
  let multiple := excess * Nat.gcd (modulus - 1) excess
  let quotient := multiple / modulus
  let rest := modulus - multiple % modulus
  if publicExponent ≤ maxOpaqueExponent ∨ rest % (quotient + 1) ≠ 0 then none
  else
    let sum := rest / (quotient + 1) + 1
    if sum * sum ≤ 4 * modulus then none
    else
      let square := sum * sum - 4 * modulus
      let difference := Modular.sqrt square
      if difference * difference ≠ square then none
      else some ((sum + difference) / 2, (sum - difference) / 2)

/-- The key with these components. When no prime is given, both are found from the rest. -/
def ofComponents? (modulus publicExponent privateExponent : Nat) (primes : List Nat) :
    Option PrivateKey := do
  let primes ←
    match primes with
    | [] => (primesOf? modulus publicExponent privateExponent).map fun (p, q) => [p, q]
    | [_] => none
    | primes => some primes
  if isPublicHalf modulus publicExponent &&
      isConsistent modulus publicExponent privateExponent primes then
    some { modulus, publicExponent, privateExponent }
  else none

/-- Reads the bare structure: a version for two primes, modulus, exponents, primes, and three
numbers that speed up signing and follow from the others. -/
def ofDer? (bytes : Bytes) : Option PrivateKey := do
  let fields ← Der.only? Der.sequenceTag bytes
  let (version, fields) ← Der.natural? fields
  let (modulus, fields) ← Der.natural? fields
  let (publicExponent, fields) ← Der.natural? fields
  let (privateExponent, fields) ← Der.natural? fields
  let (prime1, fields) ← Der.natural? fields
  let (prime2, fields) ← Der.natural? fields
  let (_, fields) ← Der.natural? fields
  let (_, fields) ← Der.natural? fields
  let (_, fields) ← Der.natural? fields
  if version = 0 ∧ fields.isEmpty then
    ofComponents? modulus publicExponent privateExponent [prime1, prime2]
  else none

/-- The identifier of the algorithm, `1.2.840.113549.1.1.1`. -/
def rsaObjectId : Bytes := [0x2a, 0x86, 0x48, 0x86, 0xf7, 0x0d, 0x01, 0x01, 0x01]

/-- Whether a byte is the tag of an optional field, and which one. -/
def optionalField? (tag : UInt8) : Option Nat :=
  if tag &&& 0xC0 = 0x80 then some (tag &&& 0x1F).toNat else none

/-- Skips optional fields with numbers below the given one. -/
def skipFields? (number : Nat) (fields : Bytes) : Option Bytes :=
  match (fields.head?).bind optionalField? with
  | none => some fields
  | some found =>
    if found < number then
      match read : Der.element? fields with
      | none => none
      | some (_, _, rest) =>
        have := Der.length_lt_of_element? read
        skipFields? number rest
    else some fields
  termination_by fields.length

/-- Whether everything left is a sequence of optional fields, each wrapping one element. -/
def areFields (fields : Bytes) : Bool :=
  if fields.isEmpty then true
  else
    match read : Der.element? fields with
    | none => false
    | some (tag, content, rest) =>
      have := Der.length_lt_of_element? read
      (optionalField? tag).isSome && tag &&& 0x20 != 0 &&
        ((Der.element? content).any fun (_, _, after) => after.isEmpty) && areFields rest
  termination_by fields.length

/-- Reads the structure that names the algorithm. Version 1 ends with optional attributes,
version 2 has the public key behind them. -/
def ofWrappedDer? (bytes : Bytes) : Option PrivateKey := do
  let fields ← Der.only? Der.sequenceTag bytes
  let (version, fields) ← Der.natural? fields
  let (algorithm, fields) ← Der.expect? Der.sequenceTag fields
  let (objectId, parameters) ← Der.expect? Der.objectIdTag algorithm
  let parameters ← Der.only? Der.nullTag parameters
  let (key, fields) ← Der.expect? Der.octetStringTag fields
  let fields ← skipFields? 1 fields
  let (hasPublicKey, fields) ←
    match fields with
    | [] => some (false, fields)
    | tag :: _ =>
      if optionalField? tag = some 1 then do
        let (content, rest) ← Der.expect? 0x81 fields
        if content.head? = some 0 then some (true, rest) else none
      else some (false, fields)
  if version ≤ 1 ∧ hasPublicKey = (version == 1) ∧ areFields fields ∧
      objectId = rsaObjectId ∧ parameters.isEmpty then
    ofDer? key
  else none

/-- Reads armoured text: the wrapped structure under one label, the bare one under another. -/
def ofPem (text : String) : Except Failure PrivateKey :=
  let wrapped := (Pem.decode? "PRIVATE KEY" text).bind ofWrappedDer?
  let bare := (Pem.decode? "RSA PRIVATE KEY" text).bind ofDer?
  match wrapped.or bare with
  | some key => .ok key
  | none => .error (.key "Unrecognised private key")

end PrivateKey
end DebugBridge
