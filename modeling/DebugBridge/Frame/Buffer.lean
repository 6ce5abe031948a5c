import DebugBridge.Frame.Basic

/-!
# Frames out of a buffer

Bytes arrive in pieces of any size. A buffer gives up its first frame as soon as it holds all of
it, and is left alone until then.
-/

namespace DebugBridge.Frame

/-- The size of the frame at the front, once its header is there. -/
def pendingSize? (buffer : Bytes) : Option Nat :=
  match buffer.drop 12 with
  | b0 :: b1 :: b2 :: b3 :: _ =>
    if buffer.holds Header.size then some (Header.size + (Word.ofBytes b0 b1 b2 b3).toNat)
    else none
  | _ => none

/-- How many bytes a buffer has to hold before a frame, or the size of one, can be read off it. -/
def expectedSize (buffer : Bytes) : Nat :=
  (pendingSize? buffer).getD Header.size

/-- Splits the first frame off a buffer that holds all of it. -/
def split? (buffer : Bytes) : Option (Frame × Bytes) :=
  match pendingSize? buffer with
  | none => none
  | some size =>
    if buffer.holds size then
      match Header.split? (buffer.take size) with
      | none => none
      | some (header, payload) => some ({ toHeader := header, payload }, buffer.drop size)
    else none

/-- Splits the first frame off a buffer to which nothing will be added. Only an empty buffer may
hold no frame then. -/
def splitAtEnd? (buffer : Bytes) : Except Failure (Option (Frame × Bytes)) :=
  match split? buffer with
  | some found => .ok (some found)
  | none =>
    if buffer.isEmpty then .ok none
    else .error (.truncatedFrame (expectedSize buffer) buffer.length)

/-- Appends a frame to a buffer. -/
def appendTo (frame : Frame) (buffer : Bytes) : Bytes :=
  buffer ++ frame.encode

/-- The size a header announces is the one that is waited for. -/
theorem pendingSize?_encode_append (header : Header) (rest : Bytes) :
    pendingSize? (header.encode ++ rest) = some header.frameSize := by
  have whole : (header.encode ++ rest).holds Header.size = true := by
    rw [Bytes.holds_iff, List.length_append, Header.length_encode]
    omega
  have field : (header.encode ++ rest).drop 12 =
      Word.encode header.payloadLength ++
        (Word.encode header.checksum ++ (Word.encode header.magic ++ rest)) := rfl
  rw [pendingSize?, field]
  simp only [Word.encode, List.cons_append, List.nil_append, whole, if_true,
    Word.ofBytes_encode, Header.frameSize]

/-- A frame split off a buffer is the front of it: nothing is lost or added. -/
theorem eq_encode_append_of_split? {buffer rest : Bytes} {frame : Frame}
    (found : split? buffer = some (frame, rest)) : buffer = frame.encode ++ rest := by
  unfold split? at found
  split at found
  · contradiction
  · split at found
    · split at found
      · contradiction
      · next header payload read =>
        simp only [Option.some.injEq, Prod.mk.injEq] at found
        obtain ⟨rfl, rfl⟩ := found
        have front := Header.eq_encode_append_of_split? read
        rw [encode, ← front, List.take_append_drop]
    · contradiction

/-- A frame takes at least its header off the buffer. -/
theorem length_add_size_le_of_split? {buffer rest : Bytes} {frame : Frame}
    (found : split? buffer = some (frame, rest)) :
    rest.length + Header.size + frame.payload.length ≤ buffer.length := by
  rw [eq_encode_append_of_split? found, encode]
  simp only [List.length_append, Header.length_encode]
  omega

/-- An announced size counts the header. -/
theorem size_le_of_pendingSize? {buffer : Bytes} {size : Nat}
    (announced : pendingSize? buffer = some size) : Header.size ≤ size := by
  unfold pendingSize? at announced
  split at announced
  · split at announced
    · simp only [Option.some.injEq] at announced
      omega
    · contradiction
  · contradiction

/-- No size is announced only while the header is not there. -/
theorem length_lt_of_pendingSize?_eq_none {buffer : Bytes} (unknown : pendingSize? buffer = none) :
    buffer.length < Header.size := by
  apply Nat.lt_of_not_le
  intro long
  have body : 12 ≤ (buffer.drop 12).length := by
    simp only [Header.size] at long
    rw [List.length_drop]
    omega
  unfold pendingSize? at unknown
  split at unknown
  · rw [if_pos (Bytes.holds_iff.mpr long)] at unknown
    contradiction
  · next short =>
    rcases found : buffer.drop 12 with _ | ⟨b0, _ | ⟨b1, _ | ⟨b2, _ | ⟨b3, rest⟩⟩⟩⟩
    case cons.cons.cons.cons => exact short b0 b1 b2 b3 rest found
    all_goals
      rw [found] at body
      contradiction

/-- A buffer that gives up no frame holds less than is expected. -/
theorem length_lt_of_split?_eq_none {buffer : Bytes} (missing : split? buffer = none) :
    buffer.length < expectedSize buffer := by
  unfold split? at missing
  unfold expectedSize
  split at missing
  · next unknown =>
    rw [unknown]
    exact length_lt_of_pendingSize?_eq_none unknown
  · next size announced =>
    rw [announced]
    split at missing
    · next held =>
      split at missing
      · next short =>
        have whole := Bytes.holds_iff.mp held
        have least := size_le_of_pendingSize? announced
        rw [Header.split?_eq_none_iff, List.length_take] at short
        omega
      · contradiction
    · next short =>
      exact Nat.lt_of_not_le fun whole => short (Bytes.holds_iff.mpr whole)

/-- Splits all frames off a buffer that it holds as a whole, in order. -/
def splitAll (buffer : Bytes) : List Frame × Bytes :=
  match found : split? buffer with
  | none => ([], buffer)
  | some (frame, rest) =>
    have : rest.length < buffer.length := by
      have := length_add_size_le_of_split? found
      simp only [Header.size] at this
      omega
    let (others, last) := splitAll rest
    (frame :: others, last)
  termination_by buffer.length

end DebugBridge.Frame
