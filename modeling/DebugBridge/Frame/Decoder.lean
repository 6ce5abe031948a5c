import DebugBridge.Frame.Buffer

/-!
# Decoding out of a buffer

A decoder owns no bytes but those of its buffer. As long as more may come it is asked for a frame
and waits for the missing bytes (`Decoder.decode`). When nothing will come any more it is asked for
the last time, and bytes that make no frame are an error (`Decoder.finish`). Either way what it does
follows from whether a frame can be split off the buffer, and without one the buffer is left alone.
-/

namespace DebugBridge

/-- A buffer, with the frames that it has given up so far. -/
@[ext]
structure Decoder where
  frames : List Frame := []
  buffer : Bytes := []

namespace Decoder

/-- Asks for the frame at the front. The buffer gives it up once it holds all of it. -/
def decode (decoder : Decoder) : Option Frame × Decoder :=
  match Frame.split? decoder.buffer with
  | none => (none, decoder)
  | some (frame, rest) => (some frame, { frames := decoder.frames ++ [frame], buffer := rest })

/-- Asks for the frame at the front of a buffer to which nothing will be added. Bytes that make no
frame are left where they are. -/
def finish (decoder : Decoder) : Except Failure (Option Frame) × Decoder :=
  match Frame.splitAtEnd? decoder.buffer with
  | .error failure => (.error failure, decoder)
  | .ok none => (.ok none, decoder)
  | .ok (some (frame, rest)) =>
    (.ok (some frame), { frames := decoder.frames ++ [frame], buffer := rest })

/-- A buffer that gives up nothing is one off which no frame can be split. -/
theorem decode_eq_none_iff (decoder : Decoder) :
    decoder.decode.1 = none ↔ Frame.split? decoder.buffer = none := by
  unfold decode
  split
  · next missing => simp only [missing]
  · next found => simp only [found, reduceCtorEq]

variable {decoder : Decoder} {frame : Frame} {rest : Bytes}

/-- The frame that can be split off is given up, and what is behind it stays. -/
theorem decode_of_split? (found : Frame.split? decoder.buffer = some (frame, rest)) :
    decoder.decode = (some frame, { frames := decoder.frames ++ [frame], buffer := rest }) := by
  simp only [decode, found]

/-- Without a frame the buffer is left alone. -/
theorem decode_of_split?_eq_none (missing : Frame.split? decoder.buffer = none) :
    decoder.decode = (none, decoder) := by
  simp only [decode, missing]

/-- A frame that is there is given up at the end as at any other time. -/
theorem finish_of_split? (found : Frame.split? decoder.buffer = some (frame, rest)) :
    decoder.finish = (.ok decoder.decode.1, decoder.decode.2) := by
  rw [decode_of_split? found]
  simp only [finish, Frame.splitAtEnd?, found]

/-- Without a frame only an empty buffer is done at the end, any other ends inside a frame. -/
theorem finish_of_split?_eq_none (missing : Frame.split? decoder.buffer = none) :
    decoder.finish = (if decoder.buffer = [] then .ok none
      else .error (.truncatedFrame (Frame.expectedSize decoder.buffer) decoder.buffer.length),
      decoder) := by
  rw [finish, Frame.splitAtEnd?, missing]
  cases decoder.buffer <;> rfl

end Decoder
end DebugBridge
