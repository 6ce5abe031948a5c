import DebugBridge.Frame.Basic
import DebugBridge.Text.Utf8

/-!
# Frames described for people

A description names the command, shows both arguments in upper-case hexadecimal and sums up the
payload: as text where the payload is text, as one shell packet where it is exactly one, and by
its announced length otherwise.
-/

namespace DebugBridge.Frame

/-- The letters of the frame's command. -/
def commandName (frame : Frame) : String :=
  Command.name frame.command

/-- The payload as text, without the NUL bytes at its end. -/
def payloadText (frame : Frame) : String :=
  Utf8.lossy (frame.payload.reverse.dropWhile (· == 0)).reverse

/-- The content of a payload that is exactly one shell packet. -/
def shellSummary? (payload : Bytes) : Option String :=
  match payload with
  | [] => none
  | id :: rest =>
    match Word.split? rest with
    | none => none
    | some (length, content) =>
      if id > 3 || length.toNat != content.length then none
      else if id = 3 then content.head?.map fun code => s!"EXIT[{code.toNat}]"
      else some (Utf8.lossy content)

/-- The payload in short. The announced length decides whether there is one. -/
def payloadSummary (frame : Frame) : String :=
  if frame.payloadLength = 0 then ""
  else if frame.command = Command.auth then
    if frame.arg0 = AuthType.publicKey then frame.payloadText
    else s!"auth[{frame.payloadLength.toNat}]"
  else if frame.command = Command.write then
    match shellSummary? frame.payload with
    | some summary => "[shell] " ++ summary
    | none => s!"payload[{frame.payloadLength.toNat}]"
  else if frame.command = Command.openStream then frame.payloadText
  else s!"payload[{frame.payloadLength.toNat}]"

/-- The frame in one line. -/
def describe (frame : Frame) : String :=
  let arg0 := Text.hexUpper frame.arg0.toNat
  let arg1 := Text.hexUpper frame.arg1.toNat
  s!"{frame.commandName}[{arg0}, {arg1}] {frame.payloadSummary}"

end DebugBridge.Frame
