import DebugBridge.Banner
import DebugBridge.Frame.Description
import DebugBridge.Key.Pair
import DebugBridge.Outcome

/-!
# The handshake

After the host has announced itself the device either connects or asks for authentication. The
first request is answered with a signature of the token it carries, a second one with the public
key, for which the user of the device is asked. There is no third answer.

    start --AUTH--> signatureSent --AUTH--> publicKeySent
      |                  |                       |
      +-------CNXN-------+---------CNXN----------+--> connected

Everything else ends in the stage `failed`. Nothing is sent or received here: `Handshake.onFrame`
turns each frame of the device into the answer to it.
-/

namespace DebugBridge

/-- How far a handshake has come. -/
inductive Stage where
  | start
  | signatureSent
  | publicKeySent
  | connected
  | failed
  deriving DecidableEq, Repr

/-- What a device announces when it connects. -/
structure Greeting where
  version : UInt32
  maxPayload : UInt32
  banner : Banner
  deriving DecidableEq, Repr

/-- What a frame of the device leads to. -/
inductive Answer where
  /-- An AUTH frame is to be sent, and the handshake goes on. -/
  | reply (type : UInt32) (payload : Bytes)
  | connected (greeting : Greeting)
  deriving DecidableEq, Repr

/-- A handshake in progress. -/
structure Handshake where
  stage : Stage := .start
  keyPair : Option KeyPair

namespace Handshake

/-- The answer to a token: its signature. -/
def answerToken (frame : Frame) : Option KeyPair → Except Failure Answer
  | none =>
    .error (.authenticationRequired
      ("Authentication required but no key pair provided: " ++ frame.describe))
  | some pair =>
    if frame.arg0 ≠ AuthType.token then .error (.unsupportedAuthType frame.describe)
    else (pair.sign frame.payload).map (.reply AuthType.signature)

/-- The answer once a signature was turned down: the public key, if there is one. -/
def offerKey (keyPair : Option KeyPair) : Except Failure Answer :=
  match keyPair.filter fun pair => !pair.publicBytes.isEmpty with
  | none =>
    .error (.authenticationRequired "Device requested a public key but none is loaded")
  | some pair => .ok (.reply AuthType.publicKey pair.publicBytes)

/-- Accepts the device's own announcement. -/
def accept (frame : Frame) : Except Failure Answer :=
  if frame.arg1 = 0 then
    .error (.connectionRejected ("Device announced a zero max payload: " ++ frame.describe))
  else
    (Banner.parse frame.payload).map fun banner =>
      .connected { version := frame.arg0, maxPayload := frame.arg1, banner }

/-- The answer to a frame, and the stage that follows a good one. -/
def advance (frame : Frame) (handshake : Handshake) : Except Failure (Answer × Stage) :=
  let unexpected := Failure.connectionRejected ("Connection failed: " ++ frame.describe)
  match handshake.stage with
  | .connected | .failed =>
    .error (.connectionRejected ("Handshake already finished, got " ++ frame.describe))
  | .start =>
    if frame.command = Command.auth then
      (answerToken frame handshake.keyPair).map (·, .signatureSent)
    else if frame.command = Command.connect then (accept frame).map (·, .connected)
    else .error unexpected
  | .signatureSent =>
    if frame.command = Command.auth then (offerKey handshake.keyPair).map (·, .publicKeySent)
    else if frame.command = Command.connect then (accept frame).map (·, .connected)
    else .error unexpected
  | .publicKeySent =>
    if frame.command = Command.connect then (accept frame).map (·, .connected)
    else .error unexpected

/-- Takes in one frame of the device. A failure is final. -/
def onFrame (frame : Frame) (handshake : Handshake) : Outcome Handshake Answer :=
  match handshake.advance frame with
  | .ok (answer, stage) => .ok answer { handshake with stage }
  | .error failure => .error failure { handshake with stage := .failed }

end Handshake
end DebugBridge
