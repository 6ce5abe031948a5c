import DebugBridge.Text.Quoted

/-!
# Failures

Everything that can go wrong on a connection is one `Failure`. Each has one wording, given by
`Failure.message`. Code that offers a plain byte stream reports failures in their input/output
form (`Failure.asIo`): a failure of the transport is passed on as it is, any other is carried
inside a failure of a fitting kind.
-/

namespace DebugBridge

/-- The kinds of failure a transport can report. -/
inductive IoKind where
  | timedOut
  | wouldBlock
  | interrupted
  | connectionReset
  | connectionAborted
  | brokenPipe
  | unexpectedEof
  | permissionDenied
  | notConnected
  | other
  | writeZero
  | invalidData
  | invalidInput
  deriving DecidableEq, Repr

/-- What a failure of a kind says when it has no text of its own. -/
def IoKind.text : IoKind → String
  | timedOut => "timed out"
  | wouldBlock => "operation would block"
  | interrupted => "operation interrupted"
  | connectionReset => "connection reset"
  | connectionAborted => "connection aborted"
  | brokenPipe => "broken pipe"
  | unexpectedEof => "unexpected end of file"
  | permissionDenied => "permission denied"
  | notConnected => "not connected"
  | other => "other error"
  | writeZero => "write zero"
  | invalidData => "invalid data"
  | invalidInput => "invalid input parameter"

/-- What can go wrong. -/
inductive Failure where
  /-- The transport failed, with a text of its own or the standard one. -/
  | io (kind : IoKind) (text : Option String)
  /-- Another failure in its input/output form. -/
  | carried (kind : IoKind) (cause : Failure)
  /-- The input ended inside a frame. -/
  | truncatedFrame (expected actual : Nat)
  | authenticationRequired (detail : String)
  | unsupportedAuthType (detail : String)
  | connectionRejected (detail : String)
  | invalidBanner (detail : String)
  /-- The stream with this local id has ended. -/
  | streamClosed (id : UInt32)
  /-- No stream is registered under this local id. -/
  | notListening (id : UInt32)
  | connectionClosed
  | unsupportedFeature (feature : String)
  | crypto (detail : String)
  | key (detail : String)
  | shell (detail : String)
  | config (detail : String)
  /-- A lock was left behind by a thread that died holding it. -/
  | poisoned
  deriving DecidableEq, Repr

namespace Failure

/-- A failure of the transport without a text of its own. -/
abbrev ofKind (kind : IoKind) : Failure := .io kind none

/-- The wording of a failure. -/
def message : Failure → String
  | io kind text => "I/O error: " ++ text.getD kind.text
  | carried _ cause => "I/O error: " ++ cause.message
  | truncatedFrame expected actual =>
    s!"Truncated frame: expected {expected} bytes, got {actual}"
  | authenticationRequired detail => "Authentication required: " ++ detail
  | unsupportedAuthType detail => "Unsupported auth type: " ++ detail
  | connectionRejected detail => "Connection rejected: " ++ detail
  | invalidBanner detail => "Invalid connect banner: " ++ detail
  | streamClosed id => "ADB stream is closed for localId: " ++ Text.hex id.toNat
  | notListening id => "Not listening for localId: " ++ Text.hex id.toNat
  | connectionClosed => "Connection closed"
  | unsupportedFeature feature => "Feature not supported by device: " ++ feature
  | crypto detail => "Crypto error: " ++ detail
  | key detail => "Key error: " ++ detail
  | shell detail => "Shell protocol error: " ++ detail
  | config detail => "Configuration error: " ++ detail
  | poisoned => "Synchronization primitive poisoned"

/-- The failures that a reader of a stream takes for the end of its input. -/
def isEndOfStream : Failure → Bool
  | streamClosed _ | connectionClosed => true
  | _ => false

/-- The kind of a failure in input/output form. -/
def ioKind? : Failure → Option IoKind
  | io kind _ | carried kind _ => some kind
  | _ => none

/-- What a failure in input/output form says by itself. -/
def ioText? : Failure → Option String
  | io kind text => some (text.getD kind.text)
  | carried _ cause => some cause.message
  | _ => none

/-- The input/output form of a failure. -/
def asIo : Failure → Failure
  | io kind text => io kind text
  | carried kind cause => carried kind cause
  | truncatedFrame expected actual => carried .unexpectedEof (truncatedFrame expected actual)
  | streamClosed id => carried .brokenPipe (streamClosed id)
  | connectionClosed => carried .brokenPipe connectionClosed
  | failure => carried .other failure

/-- Whether the caller may simply try again: the transport is still usable. -/
def isTransient (failure : Failure) : Bool :=
  match failure.ioKind? with
  | some .wouldBlock | some .timedOut => true
  | _ => false

/-- Whether the operation was merely interrupted, so that loops over reads and writes repeat it
by themselves. -/
def isInterrupted (failure : Failure) : Bool :=
  failure.ioKind? = some .interrupted

/-- The input/output form of a failure is an interruption only if the failure was one. -/
@[simp] theorem isInterrupted_asIo (failure : Failure) :
    failure.asIo.isInterrupted = failure.isInterrupted := by
  cases failure <;> rfl

end Failure
end DebugBridge
