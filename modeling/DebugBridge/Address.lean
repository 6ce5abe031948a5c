import DebugBridge.Failure
import DebugBridge.Text.Digits

/-!
# Addresses

A device is found at a host and a port, with a colon between them. A host may have colons of its
own, so the last one counts.
-/

namespace DebugBridge

/-- A host and a port. -/
structure Address where
  host : String
  port : UInt16
  deriving DecidableEq, Repr

/-- Reads an address. -/
def Address.parse (text : String) : Except Failure Address :=
  let invalid (reason : String) : Except Failure Address :=
    .error (.io .invalidInput (some reason))
  let parts := text.toList.splitOn ':'
  match parts.dropLast, parts.getLast?.bind Text.decimal? with
  | [], _ => invalid "invalid socket address"
  | _, none => invalid "invalid port value"
  | host, some port =>
    if port < UInt16.size then
      .ok { host := String.ofList ([':'].intercalate host), port := UInt16.ofNat port }
    else invalid "invalid port value"

end DebugBridge
