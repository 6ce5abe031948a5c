import DebugBridge.Bytes

/-!
# Token padding

A device proves its host by a token. The block to be signed is the token behind a fixed padding,
which has the form of a signed SHA-1 digest with the token in place of the digest.
-/

namespace DebugBridge.Token

/-- The size of the tokens that devices send. -/
def size : Nat := 20

/-- The prefix that names the digest. -/
def digestInfo : Bytes :=
  [0x30, 0x21, 0x30, 0x09, 0x06, 0x05, 0x2b, 0x0e, 0x03, 0x02, 0x1a, 0x05, 0x00, 0x04, 0x14]

/-- What stands in front of the token. With a token of the usual size it fills 256 bytes. -/
def padding : Bytes :=
  [0x00, 0x01] ++ List.replicate 218 0xFF ++ [0x00] ++ digestInfo

/-- The number to be signed for a token. -/
def block (token : Bytes) : Nat :=
  Bytes.toNat (padding ++ token)

end DebugBridge.Token
