import DebugBridge.Frame.Buffer

/-!
# Frames on the wire

A frame whose header announces its payload can be told from whatever follows it. So bytes determine
the frames they begin with, more bytes do not change what was there, and a list of such frames is
read back from its bytes, or from as many of its bytes as have come.
-/

namespace DebugBridge.Frame

/-- The header announces the payload as it is. -/
def IsExact (frame : Frame) : Prop :=
  frame.payloadLength.toNat = frame.payload.length

/-- A made frame is exact if the length of its payload fits into a word. -/
theorem isExact_make (command arg0 arg1 : UInt32) {payload : Bytes}
    (short : payload.length < UInt32.size) : (make command arg0 arg1 payload).IsExact := by
  unfold IsExact make
  rw [UInt32.toNat_ofNat']
  exact Nat.mod_eq_of_lt short

@[simp] theorem length_encode (frame : Frame) :
    frame.encode.length = Header.size + frame.payload.length := by
  rw [encode, List.length_append, Header.length_encode]

/-- An exact frame is read back, whatever follows it. -/
theorem split?_encode_append {frame : Frame} (exact : frame.IsExact) (rest : Bytes) :
    split? (frame.encode ++ rest) = some (frame, rest) := by
  have size : frame.toHeader.frameSize = frame.encode.length := by
    rw [length_encode, Header.frameSize, exact]
  have announced : pendingSize? (frame.encode ++ rest) = some frame.encode.length := by
    rw [← size, encode, List.append_assoc]
    exact pendingSize?_encode_append frame.toHeader (frame.payload ++ rest)
  have held : (frame.encode ++ rest).holds frame.encode.length = true := by
    rw [Bytes.holds_iff, List.length_append]
    exact Nat.le_add_right _ _
  simp only [split?, announced, held, if_true, List.take_left, List.drop_left]
  rw [encode, Header.split?_encode_append]

/-- Whatever is read off a buffer is exact. -/
theorem isExact_of_split? {buffer rest : Bytes} {frame : Frame}
    (found : split? buffer = some (frame, rest)) : frame.IsExact := by
  have whole := eq_encode_append_of_split? found
  unfold split? at found
  split at found
  · contradiction
  · next size announced =>
    split at found
    · next held =>
      split at found
      · contradiction
      · next header payload read =>
        simp only [Option.some.injEq, Prod.mk.injEq] at found
        obtain ⟨rfl, rfl⟩ := found
        rw [whole, encode, List.append_assoc, pendingSize?_encode_append,
          Option.some.injEq] at announced
        have length := congrArg List.length (Header.eq_encode_append_of_split? read)
        rw [List.length_take, List.length_append, Header.length_encode,
          Nat.min_eq_left (Bytes.holds_iff.mp held), ← announced, Header.frameSize] at length
        exact Nat.add_left_cancel length
    · contradiction

/-- Bytes that come later do not change the frame at the front. -/
theorem split?_append {buffer rest : Bytes} {frame : Frame}
    (found : split? buffer = some (frame, rest)) (more : Bytes) :
    split? (buffer ++ more) = some (frame, rest ++ more) := by
  rw [eq_encode_append_of_split? found, List.append_assoc]
  exact split?_encode_append (isExact_of_split? found) (rest ++ more)

/-- A size is announced only by a whole header. -/
theorem length_of_pendingSize? {buffer : Bytes} {size : Nat}
    (announced : pendingSize? buffer = some size) : Header.size ≤ buffer.length := by
  unfold pendingSize? at announced
  split at announced
  · split at announced
    · next held => exact Bytes.holds_iff.mp held
    · contradiction
  · contradiction

/-- A size is announced by a header that is there. -/
theorem exists_header_of_pendingSize? {buffer : Bytes} {size : Nat}
    (announced : pendingSize? buffer = some size) :
    ∃ header body, Header.split? buffer = some (header, body) := by
  have long := Nat.not_lt.mpr (length_of_pendingSize? announced)
  obtain ⟨⟨header, body⟩, read⟩ :=
    Option.ne_none_iff_exists'.mp (mt Header.split?_eq_none_iff.mp long)
  exact ⟨header, body, read⟩

/-- A buffer that a frame begins with never waits for more than that frame. -/
theorem expectedSize_le {buffer more rest : Bytes} {frame : Frame} (exact : frame.IsExact)
    (whole : buffer ++ more = frame.encode ++ rest) :
    expectedSize buffer ≤ frame.encode.length := by
  unfold expectedSize
  cases announced : pendingSize? buffer with
  | none =>
    rw [length_encode]
    exact Nat.le_add_right _ _
  | some size =>
    obtain ⟨header, body, read⟩ := exists_header_of_pendingSize? announced
    have front := Header.eq_encode_append_of_split? read
    rw [front, encode, List.append_assoc, List.append_assoc] at whole
    have same := (List.append_inj whole (by simp only [Header.length_encode])).1
    rw [front, same, pendingSize?_encode_append, Option.some.injEq] at announced
    apply Nat.le_of_eq
    rw [Option.getD_some, ← announced, length_encode, Header.frameSize, exact]

/-- Without a frame at the front nothing is split off. -/
theorem splitAll_of_split?_eq_none {buffer : Bytes} (missing : split? buffer = none) :
    splitAll buffer = ([], buffer) := by
  unfold splitAll
  split
  · rfl
  · next found =>
    rw [missing] at found
    contradiction

/-- A frame at the front is split off first, and the rest goes on from behind it. -/
theorem splitAll_of_split? {buffer rest : Bytes} {frame : Frame}
    (found : split? buffer = some (frame, rest)) :
    splitAll buffer = (frame :: (splitAll rest).1, (splitAll rest).2) := by
  rw [splitAll]
  split
  · next missing =>
    rw [missing] at found
    contradiction
  · next same =>
    rw [found, Option.some.injEq, Prod.mk.injEq] at same
    obtain ⟨rfl, rfl⟩ := same
    rfl

/-- The bytes of frames give the frames back. -/
theorem splitAll_flatMap_encode {frames : List Frame} (exact : ∀ frame ∈ frames, frame.IsExact) :
    splitAll (frames.flatMap encode) = (frames, []) := by
  induction frames with
  | nil => exact splitAll_of_split?_eq_none rfl
  | cons frame frames ih =>
    have found := split?_encode_append (exact frame List.mem_cons_self) (frames.flatMap encode)
    rw [List.flatMap_cons, splitAll_of_split? found,
      ih fun other member => exact other (List.mem_cons_of_mem frame member)]

/-- As many bytes of frames as have come give as many frames as are complete. -/
theorem splitAll_prefix {frames : List Frame} (exact : ∀ frame ∈ frames, frame.IsExact)
    {buffer : Bytes} (come : buffer <+: frames.flatMap encode) :
    (splitAll buffer).1 <+: frames := by
  obtain ⟨more, whole⟩ := come
  induction frames generalizing buffer with
  | nil =>
    have empty : buffer = [] := (List.append_eq_nil_iff.mp whole).1
    have nothing : splitAll buffer = ([], []) := by rw [empty, splitAll_of_split?_eq_none rfl]
    exact nothing ▸ List.nil_prefix
  | cons frame frames ih =>
    cases found : split? buffer with
    | none =>
      rw [splitAll_of_split?_eq_none found]
      exact List.nil_prefix
    | some pair =>
      obtain ⟨first, rest⟩ := pair
      have front := split?_append found more
      rw [whole, List.flatMap_cons,
        split?_encode_append (exact frame List.mem_cons_self) (frames.flatMap encode),
        Option.some.injEq, Prod.mk.injEq] at front
      obtain ⟨rfl, others⟩ := front
      rw [splitAll_of_split? found, List.prefix_cons_inj]
      exact ih (fun other member => exact other (List.mem_cons_of_mem frame member)) others.symm

/-- A header that is there stays the same when more bytes come, and so does its announcement. -/
theorem pendingSize?_append {buffer : Bytes} {size : Nat}
    (announced : pendingSize? buffer = some size) (more : Bytes) :
    pendingSize? (buffer ++ more) = some size := by
  obtain ⟨header, body, read⟩ := exists_header_of_pendingSize? announced
  have front := Header.eq_encode_append_of_split? read
  rw [front, pendingSize?_encode_append] at announced
  rw [front, List.append_assoc, pendingSize?_encode_append, announced]

/-- A frame that can be split off the front of some bytes is the frame they are decoded to. -/
theorem ofBytes_of_split? {bytes rest : Bytes} {frame : Frame}
    (found : split? bytes = some (frame, rest)) : ofBytes bytes = .ok frame := by
  have exact : frame.payloadLength.toNat = frame.payload.length := isExact_of_split? found
  have enough : ¬(frame.toHeader.encode ++ (frame.payload ++ rest)).length <
      frame.toHeader.frameSize := by
    simp only [List.length_append, Header.length_encode, Header.frameSize, exact]
    omega
  rw [eq_encode_append_of_split? found, encode, List.append_assoc, ofBytes,
    Header.split?_encode_append]
  simp only [enough, if_false, exact, List.take_left]

/-- Bytes that hold no whole frame are refused, with the number of bytes that are waited for. -/
theorem ofBytes_of_split?_eq_none {bytes : Bytes} (missing : split? bytes = none) :
    ofBytes bytes = .error (.truncatedFrame (expectedSize bytes) bytes.length) := by
  have short := length_lt_of_split?_eq_none missing
  unfold ofBytes
  cases read : Header.split? bytes with
  | none =>
    have unknown : pendingSize? bytes = none := by
      cases announced : pendingSize? bytes with
      | none => rfl
      | some size =>
        obtain ⟨header, body, there⟩ := exists_header_of_pendingSize? announced
        rw [read] at there
        contradiction
    simp only [expectedSize, unknown, Option.getD_none]
  | some pair =>
    obtain ⟨header, body⟩ := pair
    have announced : pendingSize? bytes = some header.frameSize := by
      rw [Header.eq_encode_append_of_split? read]
      exact pendingSize?_encode_append header body
    simp only [expectedSize, announced, Option.getD_some] at short ⊢
    rw [if_pos short]

/-- Bytes that are decoded to a frame are at least as many as its size. -/
theorem frameSize_le_of_ofBytes {bytes : Bytes} {frame : Frame} (read : ofBytes bytes = .ok frame) :
    frame.frameSize ≤ bytes.length := by
  unfold ofBytes at read
  split at read
  · contradiction
  · split at read
    · contradiction
    · next enough =>
      cases read
      exact Nat.not_lt.mp enough

/-- The frames that are read off a byte string one behind the other, as long as whole ones are
there. -/
def sequence (bytes : Bytes) : List Frame :=
  match read : ofBytes bytes with
  | .error _ => []
  | .ok frame =>
    have := frameSize_le_of_ofBytes read
    frame :: sequence (bytes.drop frame.frameSize)
  termination_by bytes.length
  decreasing_by
    rw [Header.frameSize, Header.size] at *
    rw [List.length_drop]
    omega

/-- The frames read off some bytes are those that are split off them. -/
theorem sequence_eq_splitAll (bytes : Bytes) : sequence bytes = (splitAll bytes).1 := by
  fun_induction sequence bytes with
  | case1 bytes failure read =>
    cases found : split? bytes with
    | none => rw [splitAll_of_split?_eq_none found]
    | some pair =>
      rw [ofBytes_of_split? found] at read
      contradiction
  | case2 bytes frame read _ ih =>
    cases found : split? bytes with
    | none =>
      rw [ofBytes_of_split?_eq_none found] at read
      contradiction
    | some pair =>
      obtain ⟨first, rest⟩ := pair
      rw [ofBytes_of_split? found, Except.ok.injEq] at read
      subst read
      have size : first.frameSize = first.encode.length := by
        rw [length_encode, Header.frameSize, isExact_of_split? found]
      rw [splitAll_of_split? found, ih, size, eq_encode_append_of_split? found, List.drop_left]

/-- An exact frame is read back, whatever follows it. -/
theorem ofBytes_encode_append {frame : Frame} (exact : frame.IsExact) (rest : Bytes) :
    ofBytes (frame.encode ++ rest) = .ok frame :=
  ofBytes_of_split? (split?_encode_append exact rest)

/-- As long as bytes of an exact frame are missing no frame can be split off. -/
theorem split?_eq_none_of_part {frame : Frame} {part : Bytes} (exact : frame.IsExact)
    (front : part <+: frame.encode) (proper : part ≠ frame.encode) : split? part = none := by
  obtain ⟨more, whole⟩ := front
  cases found : split? part with
  | none => rfl
  | some pair =>
    obtain ⟨first, rest⟩ := pair
    have extended := split?_append found more
    have alone := split?_encode_append exact []
    rw [List.append_nil] at alone
    rw [whole, alone, Option.some.injEq, Prod.mk.injEq] at extended
    have nothing : more = [] := (List.append_eq_nil_iff.mp extended.2.symm).2
    rw [nothing, List.append_nil] at whole
    exact absurd whole proper

/-- What is read off a byte string is exact, and is its front. -/
theorem encode_prefix_of_ofBytes {bytes : Bytes} {frame : Frame}
    (read : ofBytes bytes = .ok frame) : frame.IsExact ∧ frame.encode <+: bytes := by
  cases found : split? bytes with
  | none =>
    rw [ofBytes_of_split?_eq_none found] at read
    contradiction
  | some pair =>
    obtain ⟨first, rest⟩ := pair
    rw [ofBytes_of_split? found, Except.ok.injEq] at read
    subst read
    exact ⟨isExact_of_split? found, rest, (eq_encode_append_of_split? found).symm⟩

/-- The sum of bytes. -/
def byteSum : Bytes → Nat
  | [] => 0
  | byte :: rest => byte.toNat + byteSum rest

/-- The checksum is the sum of the payload's bytes, as far as a word can hold it. -/
theorem toNat_checksumOf (payload : Bytes) :
    (checksumOf payload).toNat = byteSum payload % UInt32.size := by
  suffices added : ∀ sum : UInt32,
      (payload.foldl (fun sum byte => sum + byte.toUInt32) sum).toNat =
        (sum.toNat + byteSum payload) % UInt32.size by
    rw [checksumOf, added, UInt32.toNat_zero, Nat.zero_add]
  induction payload with
  | nil =>
    intro sum
    exact (Nat.mod_eq_of_lt sum.toNat_lt).symm
  | cons byte payload ih =>
    intro sum
    rw [List.foldl_cons, ih, UInt32.toNat_add, UInt8.toNat_toUInt32, byteSum, Nat.mod_add_mod,
      Nat.add_assoc]

/-- The magic of a frame is the complement of its command. -/
theorem magic_make (command arg0 arg1 : UInt32) (payload : Bytes) :
    (make command arg0 arg1 payload).magic = ~~~command :=
  UInt32.xor_neg_one

/-- **Encoding and decoding are inverse.** An exact frame is read back from its bytes, whatever
follows them, and as long as bytes of it are missing the input is told to end inside it. What is
read off a byte string is exact and encodes to the front of it. The frames that are made are exact,
their checksum is the sum of the payload's bytes and their magic the complement of the command. -/
theorem encoding_decoding_inverse :
    (∀ frame : Frame, frame.IsExact →
      (∀ rest, ofBytes (frame.encode ++ rest) = .ok frame) ∧
      ∀ part, part <+: frame.encode → part ≠ frame.encode →
        ∃ expected, ofBytes part = .error (.truncatedFrame expected part.length) ∧
          part.length < expected ∧ expected ≤ frame.encode.length) ∧
    (∀ bytes frame, ofBytes bytes = .ok frame → frame.IsExact ∧ frame.encode <+: bytes) ∧
    ∀ command arg0 arg1 payload, payload.length < UInt32.size →
      let frame := make command arg0 arg1 payload
      frame.IsExact ∧ frame.checksum.toNat = byteSum payload % UInt32.size ∧
        frame.magic = ~~~command := by
  refine ⟨?_, fun bytes frame read => encode_prefix_of_ofBytes read, ?_⟩
  · intro frame exact
    refine ⟨ofBytes_encode_append exact, ?_⟩
    intro part front proper
    have missing := split?_eq_none_of_part exact front proper
    obtain ⟨more, whole⟩ := front
    have followed : part ++ more = frame.encode ++ [] := by rw [whole, List.append_nil]
    exact ⟨expectedSize part, ofBytes_of_split?_eq_none missing,
      length_lt_of_split?_eq_none missing, expectedSize_le exact followed⟩
  · intro command arg0 arg1 payload short
    exact ⟨isExact_make command arg0 arg1 short, toNat_checksumOf payload,
      magic_make command arg0 arg1 payload⟩

end DebugBridge.Frame
