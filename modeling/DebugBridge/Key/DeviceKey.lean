import DebugBridge.Encoding.Base64
import DebugBridge.Failure
import DebugBridge.Key.Modular
import DebugBridge.Key.Token
import DebugBridge.Text.Blank
import DebugBridge.Text.Utf8

/-!
# Public keys for devices

A device keeps public keys in a form that is ready for Montgomery arithmetic: a structure of
little-endian words with the modulus `n`, the number `-1/n` modulo one word, the square of
`R = 2^2048` modulo `n`, and the exponent. In a file the structure is written in Base64, with a
comment behind it.
-/

namespace DebugBridge

namespace DeviceKey

/-- The size of a modulus in bytes. -/
def modulusSize : Nat := 256

/-- The size of a modulus in words. -/
def modulusWords : Nat := 64

/-- The size of the whole structure in bytes. -/
def encodedSize : Nat := 4 + 4 + 2 * modulusSize + 4

/-- One more than the largest number that fits. -/
def bound : Nat := Nat.pow 256 modulusSize

end DeviceKey

/-- A public key in the form that devices keep. -/
structure DeviceKey where
  /-- `-1/n` modulo `2^32`. -/
  n0inv : UInt32
  modulus : Nat
  /-- The square of `R` modulo `n`. -/
  rr : Nat
  exponent : UInt32
  modulus_lt : modulus < DeviceKey.bound
  rr_lt : rr < DeviceKey.bound

namespace DeviceKey

/-- The key for a modulus and a public exponent. The modulus has to fit and be odd, and the
exponent has to fit into a word. -/
def ofRsa (modulus exponent : Nat) : Except Failure DeviceKey :=
  if fits : modulus < bound then
    if odd : modulus % 2 = 0 then .error (.key "RSA modulus must be odd")
    else if UInt32.size ≤ exponent then .error (.key "Public exponent exceeds 32 bits")
    else .ok {
      n0inv := 0 - Modular.inverse (UInt32.ofNat modulus)
      modulus
      rr := Nat.pow 2 (2 * (8 * modulusSize)) % modulus
      exponent := UInt32.ofNat exponent
      modulus_lt := fits
      rr_lt := Nat.lt_trans (Nat.mod_lt _ (by omega)) fits }
  else
    .error (.key
      s!"Value needs {Bytes.byteLength modulus} bytes, key format holds {modulusSize}")

/-- The structure as bytes. -/
def encode (key : DeviceKey) : Bytes :=
  Word.encode (UInt32.ofNat modulusWords) ++ Word.encode key.n0inv ++
    Bytes.littleEndian modulusSize key.modulus ++ Bytes.littleEndian modulusSize key.rr ++
    Word.encode key.exponent

/-- Reads the structure, which has a fixed size and begins with the size of the modulus. -/
def ofBytes (bytes : Bytes) : Except Failure DeviceKey :=
  if sized : bytes.length = encodedSize then
    match Word.split? bytes with
    | none => .error (.key s!"Public key struct must be {encodedSize} bytes, got {bytes.length}")
    | some (words, rest) =>
      if words.toNat ≠ modulusWords then
        .error (.key s!"Unsupported key length: {words.toInt32.toInt} words")
      else
        match Word.split? rest, Word.split? (bytes.drop (encodedSize - 4)) with
        | some (n0inv, body), some (exponent, _) => .ok {
            n0inv
            modulus := Bytes.toNat (body.take modulusSize).reverse
            rr := Bytes.toNat ((body.drop modulusSize).take modulusSize).reverse
            exponent
            modulus_lt := Bytes.toNat_lt_of_length_le (by
              simp only [List.length_reverse, List.length_take]
              omega)
            rr_lt := Bytes.toNat_lt_of_length_le (by
              simp only [List.length_reverse, List.length_take]
              omega) }
        | _, _ =>
          .error (.key s!"Public key struct must be {encodedSize} bytes, got {bytes.length}")
  else .error (.key s!"Public key struct must be {encodedSize} bytes, got {bytes.length}")

/-- What stands behind the key in a file. -/
def comment : String := " unknown@unknown"

/-- The content of a key file. -/
def fileText (key : DeviceKey) : String :=
  String.ofList ((Base64.encode key.encode).map fun symbol => Char.ofNat symbol.toNat) ++ comment

/-- Reads a key file. Blanks in front, a comment behind the first word and NULs at the end are
permitted. -/
def ofFileText (text : String) : Except Failure DeviceKey :=
  match Text.firstWord? (Text.dropTrailingNuls text.toList) with
  | none => .error (.key "Empty public key file")
  | some word =>
    match Base64.decode (Utf8.encodeChars word) with
    | .error error => .error (.key ("Invalid base64 public key: " ++ error.message))
    | .ok bytes => ofBytes bytes

/-- Checks a signature of a token the way a device does: raised to the public exponent it has to
give the padded token. -/
def verify (token signature : Bytes) (key : DeviceKey) : Bool :=
  let signed := Bytes.toNat signature
  signed < key.modulus &&
    Modular.pow signed key.exponent.toNat key.modulus == Token.block token

end DeviceKey
end DebugBridge
