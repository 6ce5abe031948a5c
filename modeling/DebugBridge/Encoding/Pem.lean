import DebugBridge.Encoding.Base64
import DebugBridge.Text.Utf8

/-!
# Armoured text

Binary data in text: a line that names what begins, Base64 in lines of 64 symbols of which only
the last may be shorter, and a line that names what ends. Lines may end in a line feed, a
carriage return, or both in this order. Other lines may stand in front but nothing may follow.
-/

namespace DebugBridge.Pem

/-- How many symbols a line has. -/
def lineWidth : Nat := 64

def lineFeed : UInt8 := 0x0A
def carriageReturn : UInt8 := 0x0D

/-- Removes a line end from the front, which must be there. -/
def dropLineEnd? : Bytes → Option Bytes
  | [] => none
  | first :: rest =>
    if first = lineFeed then some rest
    else if first = carriageReturn then
      match rest with
      | [] => some []
      | second :: more => if second = lineFeed then some more else some rest
    else none

/-- Removes a line end from the back, which must be there. -/
def dropFinalLineEnd? (bytes : Bytes) : Option Bytes :=
  match bytes.reverse with
  | [] => none
  | last :: before =>
    if last = carriageReturn then some before.reverse
    else if last = lineFeed then
      match before with
      | [] => some []
      | second :: more =>
        if second = carriageReturn then some more.reverse else some before.reverse
    else none

/-- Removes a known front, which must be there. -/
def dropFront? (front bytes : Bytes) : Option Bytes :=
  if front.isPrefixOf bytes then some (bytes.drop front.length) else none

/-- Removes a known back, which must be there. -/
def dropBack? (back bytes : Bytes) : Option Bytes :=
  if back.isSuffixOf bytes then some (bytes.take (bytes.length - back.length)) else none

/-- Skips the lines in front of the first line that begins as asked. -/
def skipPreamble? (opening : Bytes) : Bytes → Option Bytes
  | [] => none
  | byte :: rest =>
    if byte = 0 then none
    else if byte = lineFeed ∧ opening.isPrefixOf rest then some rest
    else skipPreamble? opening rest

/-- A line end that is removed has at least one byte. -/
theorem length_lt_of_dropLineEnd? {bytes rest : Bytes} (dropped : dropLineEnd? bytes = some rest) :
    rest.length < bytes.length := by
  unfold dropLineEnd? at dropped
  split at dropped
  · contradiction
  · split at dropped
    · simp only [Option.some.injEq] at dropped
      simp [dropped]
    · split at dropped
      · split at dropped
        · simp only [Option.some.injEq] at dropped
          simp [← dropped]
        · split at dropped <;> simp only [Option.some.injEq] at dropped <;>
            simp only [← dropped, List.length_cons] <;> omega
      · contradiction

/-- The symbols of lines of the proper width, without the line ends. Only the last line may be
padded, and an empty one may be the last. -/
def joinLines? (text : Bytes) : Option Bytes :=
  if text.holds (lineWidth + 1) then
    match dropped : dropLineEnd? (text.drop lineWidth) with
    | none => none
    | some rest =>
      have := length_lt_of_dropLineEnd? dropped
      let line := text.take lineWidth
      if !rest.isEmpty && line.contains Base64.pad then none
      else (joinLines? rest).map (line ++ ·)
  else some ((dropFinalLineEnd? text).getD text)
  termination_by text.length
  decreasing_by
    simp only [List.length_drop] at this
    omega

/-- The data that a text holds under a label. -/
def decode? (label text : String) : Option Bytes := do
  let label := Utf8.encode label
  let opening := Utf8.encode "-----BEGIN "
  let dashes := Utf8.encode "-----"
  let text := Utf8.encode text
  let text ← if opening.isPrefixOf text then some text else skipPreamble? opening text
  let text ← dropFront? (opening ++ label ++ dashes) text
  let text ← dropLineEnd? text
  let text ← dropBack? (Utf8.encode "-----END " ++ label ++ dashes)
    ((dropFinalLineEnd? text).getD text)
  let text ← dropFinalLineEnd? text
  let symbols ← joinLines? text
  (Base64.decode symbols).toOption

end DebugBridge.Pem
