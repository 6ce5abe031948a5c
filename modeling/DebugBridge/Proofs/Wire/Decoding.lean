import DebugBridge.Proofs.Wire.Buffering

/-!
# One frame, three decoders

A frame is read off a byte string (`Frame.ofBytes`), taken out of a buffer that may still be filled
(`Decoder.decode`) or out of one to which nothing will be added (`Decoder.finish`). All three look
for the length in the fourth word of a header and wait for that many bytes behind it
(`Frame.pendingSize?_eq_some_iff`), so they find the same frame or miss the same bytes; they differ
only in what they do about bytes that are missing.
-/

namespace DebugBridge

namespace Frame

variable {buffer bytes rest : Bytes} {frame : Frame}

/-- A frame has the size that its header announces. -/
theorem IsExact.length_encode (exact : frame.IsExact) :
    frame.encode.length = frame.frameSize := by
  rw [Frame.length_encode, Header.frameSize, exact]

/-- A size is announced by the word behind the first twelve bytes of a header. -/
theorem pendingSize?_eq_some_iff {size : Nat} :
    pendingSize? buffer = some size ↔ Header.size ≤ buffer.length ∧
      ∃ length rest, Word.split? (buffer.drop 12) = some (length, rest) ∧
        size = Header.size + length.toNat := by
  constructor
  · intro announced
    obtain ⟨header, body, read⟩ := exists_header_of_pendingSize? announced
    have front := Header.eq_encode_append_of_split? read
    have field : buffer.drop 12 = Word.encode header.payloadLength ++
        (Word.encode header.checksum ++ (Word.encode header.magic ++ body)) := by
      rw [front]
      rfl
    rw [front, pendingSize?_encode_append, Option.some.injEq] at announced
    have long := length_of_pendingSize? (front ▸ pendingSize?_encode_append header body)
    have split := Word.split?_encode_append header.payloadLength
      (Word.encode header.checksum ++ (Word.encode header.magic ++ body))
    rw [← field] at split
    exact ⟨long, header.payloadLength, _, split, announced.symm⟩
  · rintro ⟨long, length, rest, split, rfl⟩
    have field := Word.eq_encode_append_of_split? split
    have whole : buffer.holds Header.size = true := Bytes.holds_iff.mpr long
    rw [pendingSize?, field]
    simp only [Word.encode, List.cons_append, List.nil_append, whole, if_true, Word.ofBytes_encode]

/-- A frame can be split off exactly if it is what is read off the buffer, and then its bytes are
taken off the front. -/
theorem split?_eq_some_iff :
    split? buffer = some (frame, rest) ↔
      ofBytes buffer = .ok frame ∧ rest = buffer.drop frame.frameSize := by
  constructor
  · intro found
    refine ⟨ofBytes_of_split? found, ?_⟩
    rw [eq_encode_append_of_split? found, ← (isExact_of_split? found).length_encode,
      List.drop_left]
  · rintro ⟨read, rfl⟩
    obtain ⟨exact, behind, whole⟩ := encode_prefix_of_ofBytes read
    rw [← whole, split?_encode_append exact, ← exact.length_encode, List.drop_left]

/-- A frame that can be read is announced with its size. -/
theorem pendingSize?_of_ofBytes (read : ofBytes bytes = .ok frame) :
    pendingSize? bytes = some frame.frameSize := by
  obtain ⟨-, behind, whole⟩ := encode_prefix_of_ofBytes read
  rw [← whole, encode, List.append_assoc, pendingSize?_encode_append]

/-- What is missing is told by how many bytes are expected and how many are there. -/
theorem split?_eq_none_iff :
    split? buffer = none ↔
      ofBytes buffer = .error (.truncatedFrame (expectedSize buffer) buffer.length) := by
  refine ⟨ofBytes_of_split?_eq_none, fun refused => ?_⟩
  cases found : split? buffer with
  | none => rfl
  | some pair =>
    rw [ofBytes_of_split? found] at refused
    contradiction

end Frame

namespace Decoder

/-- **The decoders agree.** A buffer is asked for the frame at its front. It gives up a frame
exactly if that frame can be read off its bytes, and then it loses as many bytes as its header
announces, which are those of the frame; else it is left alone. At the end a frame is given up in
the same way. Without one only an empty buffer is told to be done; any other is told to end inside a
frame, in the words of one who reads its bytes, and is left alone as well. Whoever is told so has
fewer bytes than are expected, and is told how many. -/
theorem decoders_agree (decoder : Decoder) :
    let buffer := decoder.buffer
    (∀ frame, decoder.decode.1 = some frame ↔ Frame.ofBytes buffer = .ok frame) ∧
    (∀ frame, decoder.decode.1 = some frame →
      frame.frameSize = 24 + frame.payloadLength.toNat ∧
      Frame.pendingSize? buffer = some frame.frameSize ∧ frame.frameSize ≤ buffer.length ∧
      decoder.decode.2.buffer = buffer.drop frame.frameSize ∧
      frame.encode = buffer.take frame.frameSize ∧
      decoder.finish = (.ok (some frame), decoder.decode.2)) ∧
    (decoder.decode.1 = none → decoder.decode.2 = decoder ∧
      ∃ expected, Frame.ofBytes buffer = .error (.truncatedFrame expected buffer.length) ∧
        expected = (Frame.pendingSize? buffer).getD 24 ∧ buffer.length < expected ∧
        decoder.finish = (if buffer = [] then .ok none
          else .error (.truncatedFrame expected buffer.length), decoder)) ∧
    ∀ size, Frame.pendingSize? buffer = some size ↔ 24 ≤ buffer.length ∧
      ∃ length rest, Word.split? (buffer.drop 12) = some (length, rest) ∧
        size = 24 + length.toNat := by
  intro buffer
  have given_iff : ∀ frame, decoder.decode.1 = some frame ↔ Frame.ofBytes buffer = .ok frame := by
    intro frame
    cases found : Frame.split? buffer with
    | none => simp only [decode_of_split?_eq_none found, Frame.split?_eq_none_iff.mp found,
        reduceCtorEq]
    | some pair => simp only [decode_of_split? found, Frame.ofBytes_of_split? found,
        Option.some.injEq, Except.ok.injEq]
  refine ⟨given_iff, ?_, ?_, fun size => Frame.pendingSize?_eq_some_iff⟩
  · intro frame given
    have read := (given_iff frame).mp given
    have found := Frame.split?_eq_some_iff.mpr ⟨read, rfl⟩
    obtain ⟨exact, behind, whole⟩ := Frame.encode_prefix_of_ofBytes read
    refine ⟨rfl, Frame.pendingSize?_of_ofBytes read, Frame.frameSize_le_of_ofBytes read, ?_, ?_, ?_⟩
    · rw [decode_of_split? found]
    · rw [← whole, ← exact.length_encode, List.take_left]
    · rw [finish_of_split? found, given]
  · intro nothing
    have missing := (decode_eq_none_iff decoder).mp nothing
    exact ⟨congrArg Prod.snd (decode_of_split?_eq_none missing), Frame.expectedSize buffer,
      Frame.split?_eq_none_iff.mp missing, rfl, Frame.length_lt_of_split?_eq_none missing,
      finish_of_split?_eq_none missing⟩

end Decoder
end DebugBridge
