import DebugBridge.Key.DeviceKey
import DebugBridge.Key.PrivateKey

/-!
# Key pairs

A host proves who it is with a private key and the bytes it offers as its public key: the text of
a key file with a NUL behind it.
-/

namespace DebugBridge

/-- What a host needs to answer a request for authentication. -/
structure KeyPair where
  privateKey : PrivateKey
  /-- What is offered as the public key. It may be empty. -/
  publicBytes : Bytes

namespace KeyPair

/-- Bytes with a NUL behind them. -/
def nulTerminated (bytes : Bytes) : Bytes :=
  bytes ++ [0]

/-- The pair whose public key is derived from the private one. -/
def ofPrivateKey (privateKey : PrivateKey) : Except Failure KeyPair :=
  (DeviceKey.ofRsa privateKey.modulus privateKey.publicExponent).map fun key =>
    { privateKey, publicBytes := nulTerminated (Utf8.encode key.fileText) }

/-- The pair for a private key in armoured text. -/
def ofPem (text : String) : Except Failure KeyPair := do
  ofPrivateKey (← PrivateKey.ofPem text)

/-- Signs a token: the padded token is raised to the private exponent. The signature is as wide
as the modulus, and never narrower than 256 bytes. -/
def sign (token : Bytes) (pair : KeyPair) : Except Failure Bytes :=
  let modulus := pair.privateKey.modulus
  if modulus ≤ Token.block token then
    .error (.crypto "Padded token is not smaller than the key modulus")
  else
    let width := max (Bytes.byteLength modulus) DeviceKey.modulusSize
    .ok (Bytes.bigEndian width
      (Modular.pow (Token.block token) pair.privateKey.privateExponent modulus))

/-- A key pair for people: sizes only. -/
def describe (pair : KeyPair) : String :=
  let bits := Bytes.bitLength pair.privateKey.modulus
  s!"AdbKeyPair \x7b modulus_bits: {bits}, public_key_len: {pair.publicBytes.length}, .. \x7d"

end KeyPair
end DebugBridge
