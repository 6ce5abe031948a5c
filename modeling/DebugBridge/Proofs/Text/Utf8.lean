import DebugBridge.Text.Utf8

/-!
# Text and its bytes

A decoder that is between two characters takes the bytes of a character in and is between two
characters again (`Utf8.foldl_feed_encodeChar`): the first byte tells how many are owed and every
other one brings six bits. So text is read back from its bytes, and has no other bytes. No byte of
ASCII is one of those, so it ends whatever stands in front of it, well formed or not.
-/

namespace DebugBridge.Utf8

variable {reversed : List Char}

/-- A byte that may come next brings six bits. -/
theorem feed_trailing {part : Partial} {value : Nat} (low : part.low.toNat ≤ value % 64 + 0x80)
    (high : value % 64 + 0x80 ≤ part.high.toNat) :
    Decoding.feed ⟨reversed, some part⟩ (UInt8.ofNat (value % 64 + 0x80)) =
      if part.owed = 1 then ⟨Char.ofNat (part.bits * 64 + value % 64) :: reversed, none⟩
      else ⟨reversed, some ⟨part.bits * 64 + value % 64, part.owed - 1, 0x80, 0xBF⟩⟩ := by
  have small := Nat.mod_lt value (show 0 < 64 by decide)
  have number : (UInt8.ofNat (value % 64 + 0x80)).toNat = value % 64 + 0x80 := by
    rw [UInt8.toNat_ofNat']
    omega
  have fits : part.low ≤ UInt8.ofNat (value % 64 + 0x80) ∧
      UInt8.ofNat (value % 64 + 0x80) ≤ part.high := by
    simp only [UInt8.le_iff_toNat_le, number]
    exact ⟨low, high⟩
  rw [Decoding.feed]
  simp only [fits, and_self, if_true, number, Nat.add_sub_cancel]

/-- The last byte of a character completes it. -/
theorem feed_last {bits value : Nat} {low high : UInt8} (least : low.toNat ≤ value % 64 + 0x80)
    (greatest : value % 64 + 0x80 ≤ high.toNat) :
    Decoding.feed ⟨reversed, some ⟨bits, 1, low, high⟩⟩ (UInt8.ofNat (value % 64 + 0x80)) =
      ⟨Char.ofNat (bits * 64 + value % 64) :: reversed, none⟩ := by
  rw [feed_trailing least greatest, if_pos rfl]

/-- A byte within the range that is expected brings six bits, and one byte less is owed. -/
theorem feed_inner {bits owed value : Nat} {low high : UInt8}
    (least : low.toNat ≤ value % 64 + 0x80) (greatest : value % 64 + 0x80 ≤ high.toNat) :
    Decoding.feed ⟨reversed, some ⟨bits, owed + 2, low, high⟩⟩ (UInt8.ofNat (value % 64 + 0x80)) =
      ⟨reversed, some ⟨bits * 64 + value % 64, owed + 1, 0x80, 0xBF⟩⟩ := by
  have more : owed + 2 ≠ 1 := by omega
  rw [feed_trailing least greatest, if_neg more]
  rfl

/-- The bytes of a character behind its first two are in this range. -/
theorem trailing_range (value : Nat) :
    (0x80 : UInt8).toNat ≤ value % 64 + 0x80 ∧ value % 64 + 0x80 ≤ (0xBF : UInt8).toNat := by
  simp only [UInt8.reduceToNat]
  omega

section First

variable {top : Nat}

/-- A byte of ASCII between two characters is a character of its own. -/
theorem feed_whole (small : top < 0x80) :
    Decoding.feed ⟨reversed, none⟩ (UInt8.ofNat top) = ⟨Char.ofNat top :: reversed, none⟩ := by
  have number : (UInt8.ofNat top).toNat = top := by
    rw [UInt8.toNat_ofNat']
    omega
  have plain : UInt8.ofNat top < 0x80 := by
    rw [UInt8.lt_iff_toNat_lt, number]
    exact small
  simp only [Decoding.feed, begin, lead, plain, if_true, number]

/-- The first byte of two. -/
theorem feed_first_of_two (least : 2 ≤ top) (small : top < 32) :
    Decoding.feed ⟨reversed, none⟩ (UInt8.ofNat (top + 0xC0)) =
      ⟨reversed, some ⟨top, 1, 0x80, 0xBF⟩⟩ := by
  have number : (UInt8.ofNat (top + 0xC0)).toNat = top + 0xC0 := by
    rw [UInt8.toNat_ofNat']
    omega
  have range : ¬UInt8.ofNat (top + 0xC0) < 0x80 ∧ ¬UInt8.ofNat (top + 0xC0) < 0xC2 ∧
      UInt8.ofNat (top + 0xC0) < 0xE0 := by
    simp only [UInt8.lt_iff_toNat_lt, number, UInt8.reduceToNat]
    omega
  simp only [Decoding.feed, begin, lead, range, if_false, if_true, number, Nat.add_sub_cancel]

/-- The first byte of three. -/
theorem feed_first_of_three (small : top < 16) :
    Decoding.feed ⟨reversed, none⟩ (UInt8.ofNat (top + 0xE0)) =
      ⟨reversed, some ⟨top, 2, if top = 0 then 0xA0 else 0x80,
        if top = 13 then 0x9F else 0xBF⟩⟩ := by
  have number : (UInt8.ofNat (top + 0xE0)).toNat = top + 0xE0 := by
    rw [UInt8.toNat_ofNat']
    omega
  have range : ¬UInt8.ofNat (top + 0xE0) < 0x80 ∧ ¬UInt8.ofNat (top + 0xE0) < 0xC2 ∧
      ¬UInt8.ofNat (top + 0xE0) < 0xE0 ∧ UInt8.ofNat (top + 0xE0) < 0xF0 := by
    simp only [UInt8.lt_iff_toNat_lt, number, UInt8.reduceToNat]
    omega
  have least : UInt8.ofNat (top + 0xE0) = 0xE0 ↔ top = 0 := by
    rw [← UInt8.toNat_inj, number]
    simp
  have surrogates : UInt8.ofNat (top + 0xE0) = 0xED ↔ top = 13 := by
    simp only [← UInt8.toNat_inj, number, UInt8.reduceToNat]
    omega
  simp only [Decoding.feed, begin, lead, range, if_false, if_true, number, Nat.add_sub_cancel,
    least, surrogates]

/-- The first byte of four. -/
theorem feed_first_of_four (small : top < 5) :
    Decoding.feed ⟨reversed, none⟩ (UInt8.ofNat (top + 0xF0)) =
      ⟨reversed, some ⟨top, 3, if top = 0 then 0x90 else 0x80,
        if top = 4 then 0x8F else 0xBF⟩⟩ := by
  have number : (UInt8.ofNat (top + 0xF0)).toNat = top + 0xF0 := by
    rw [UInt8.toNat_ofNat']
    omega
  have range : ¬UInt8.ofNat (top + 0xF0) < 0x80 ∧ ¬UInt8.ofNat (top + 0xF0) < 0xC2 ∧
      ¬UInt8.ofNat (top + 0xF0) < 0xE0 ∧ ¬UInt8.ofNat (top + 0xF0) < 0xF0 ∧
      UInt8.ofNat (top + 0xF0) < 0xF5 := by
    simp only [UInt8.lt_iff_toNat_lt, number, UInt8.reduceToNat]
    omega
  have least : UInt8.ofNat (top + 0xF0) = 0xF0 ↔ top = 0 := by
    rw [← UInt8.toNat_inj, number]
    simp
  have greatest : UInt8.ofNat (top + 0xF0) = 0xF4 ↔ top = 4 := by
    simp only [← UInt8.toNat_inj, number, UInt8.reduceToNat]
    omega
  simp only [Decoding.feed, begin, lead, range, if_false, if_true, number, Nat.add_sub_cancel,
    least, greatest]

end First

/-- The bytes of a character bring that character. -/
theorem foldl_feed_encodeChar (char : Char) (reversed : List Char) :
    (String.utf8EncodeChar char).foldl Decoding.feed ⟨reversed, none⟩ =
      ⟨char :: reversed, none⟩ := by
  have valid : char.val.toNat < 0xD800 ∨ 0xDFFF < char.val.toNat ∧ char.val.toNat < 0x110000 :=
    char.valid
  have same : Char.ofNat char.val.toNat = char := Char.ofNat_toNat char
  unfold String.utf8EncodeChar
  generalize char.val.toNat = value at valid same ⊢
  dsimp only
  split
  case isTrue one => rw [List.foldl_cons, List.foldl_nil, feed_whole (by omega), same]
  case isFalse more_than_one =>
    obtain ⟨last_low, last_high⟩ := trailing_range value
    split
    case isTrue two =>
      have top : value / 64 % 0x20 = value / 64 := by omega
      have whole : value / 64 * 64 + value % 64 = value := by omega
      simp only [List.foldl_cons, List.foldl_nil, top]
      rw [feed_first_of_two (by omega) (by omega), feed_last last_low last_high, whole, same]
    case isFalse more_than_two =>
      split
      case isTrue three =>
        have top : value / 4096 % 0x10 = value / 4096 := by omega
        have whole : (value / 4096 * 64 + value / 64 % 64) * 64 + value % 64 = value := by omega
        -- A small first byte narrows the second one: nothing overlong, no surrogates.
        have low : (if value / 4096 = 0 then 0xA0 else 0x80 : UInt8).toNat ≤
            value / 64 % 64 + 0x80 := by
          split <;> simp only [UInt8.reduceToNat] <;> omega
        have high : value / 64 % 64 + 0x80 ≤
            (if value / 4096 = 13 then 0x9F else 0xBF : UInt8).toNat := by
          split <;> simp only [UInt8.reduceToNat] <;> omega
        simp only [List.foldl_cons, List.foldl_nil, top]
        rw [feed_first_of_three (by omega), feed_inner low high, feed_last last_low last_high,
          whole, same]
      case isFalse more_than_three =>
        have top : value / 262144 % 0x08 = value / 262144 := by omega
        have whole : ((value / 262144 * 64 + value / 4096 % 64) * 64 + value / 64 % 64) * 64 +
            value % 64 = value := by
          omega
        -- The same for four bytes: nothing overlong, nothing beyond the last character.
        have low : (if value / 262144 = 0 then 0x90 else 0x80 : UInt8).toNat ≤
            value / 4096 % 64 + 0x80 := by
          split <;> simp only [UInt8.reduceToNat] <;> omega
        have high : value / 4096 % 64 + 0x80 ≤
            (if value / 262144 = 4 then 0x8F else 0xBF : UInt8).toNat := by
          split <;> simp only [UInt8.reduceToNat] <;> omega
        obtain ⟨third_low, third_high⟩ := trailing_range (value / 64)
        simp only [List.foldl_cons, List.foldl_nil, top]
        rw [feed_first_of_four (by omega), feed_inner low high, feed_inner third_low third_high,
          feed_last last_low last_high, whole, same]

/-- The bytes of some characters are taken in as these characters. -/
theorem foldl_feed_encodeChars (chars reversed : List Char) :
    (encodeChars chars).foldl Decoding.feed ⟨reversed, none⟩ =
      ⟨chars.reverse ++ reversed, none⟩ := by
  induction chars generalizing reversed with
  | nil => rfl
  | cons char chars ih =>
    have front : encodeChars (char :: chars) = String.utf8EncodeChar char ++ encodeChars chars :=
      List.flatMap_cons
    rw [front, List.foldl_append, foldl_feed_encodeChar, ih, List.reverse_cons, List.append_assoc]
    rfl

/-- Text is read back from its bytes. -/
theorem lossyChars_encodeChars (chars : List Char) : lossyChars (encodeChars chars) = chars := by
  rw [lossyChars, foldl_feed_encodeChars, List.append_nil, Decoding.finish]
  exact List.reverse_reverse chars

/-- Different texts have different bytes. -/
theorem encodeChars_inj {chars others : List Char} :
    encodeChars chars = encodeChars others ↔ chars = others := by
  refine ⟨fun same => ?_, congrArg encodeChars⟩
  rw [← lossyChars_encodeChars chars, same, lossyChars_encodeChars]

theorem encodeChars_append (chars others : List Char) :
    encodeChars (chars ++ others) = encodeChars chars ++ encodeChars others :=
  List.flatMap_append

/-- The bytes of ASCII text are the codes of its characters. -/
theorem encodeChars_ascii {bytes : Bytes} (small : ∀ byte ∈ bytes, byte.toNat < 0x80) :
    encodeChars (bytes.map fun byte => Char.ofNat byte.toNat) = bytes := by
  have each : ∀ code < 0x80, String.utf8EncodeChar (Char.ofNat code) = [UInt8.ofNat code] := by
    decide +kernel
  induction bytes with
  | nil => rfl
  | cons byte bytes ih =>
    obtain ⟨first, others⟩ := List.forall_mem_cons.mp small
    have one := each byte.toNat first
    rw [UInt8.ofNat_toNat] at one
    have front : encodeChars [Char.ofNat byte.toNat] = [byte] := by
      rw [encodeChars, List.flatMap_singleton, one]
    rw [List.map_cons, ← List.singleton_append, encodeChars_append, ih others, front,
      List.singleton_append]

/-- A byte of ASCII cannot continue the character that was begun. -/
def Decoding.IsProper (state : Decoding) : Prop :=
  ∀ part, state.part = some part → 0x80 ≤ part.low

section Ascii

variable {state : Decoding} {byte : UInt8}

/-- What a first byte asks for next is never a byte of ASCII. -/
theorem low_of_lead {part : Partial} (started : lead byte = .start part) : 0x80 ≤ part.low := by
  unfold lead at started
  split at started
  · contradiction
  · split at started
    · contradiction
    · split at started
      · rw [← Lead.start.inj started]
        exact UInt8.le_refl 0x80
      · split at started
        · rw [← Lead.start.inj started]
          dsimp only
          split <;> decide
        · split at started
          · rw [← Lead.start.inj started]
            dsimp only
            split <;> decide
          · contradiction

/-- A decoder that begins with a byte expects no byte of ASCII inside a character. -/
theorem isProper_begin (reversed : List Char) (byte : UInt8) : (begin reversed byte).IsProper := by
  intro part begun
  unfold begin at begun
  split at begun
  · contradiction
  · next started =>
    rw [← Option.some.inj begun]
    exact low_of_lead started
  · contradiction

/-- Whatever byte is fed to it, a decoder expects no byte of ASCII inside a character afterwards. -/
theorem isProper_feed (state : Decoding) (byte : UInt8) : (state.feed byte).IsProper := by
  unfold Decoding.feed
  split
  · exact isProper_begin _ _
  · split
    · dsimp only
      split
      · intro part begun
        contradiction
      · intro part begun
        rw [← Option.some.inj begun]
        exact UInt8.le_refl 0x80
    · exact isProper_begin _ _

/-- Nor does it after any number of bytes. -/
theorem Decoding.IsProper.foldl (proper : state.IsProper) (bytes : Bytes) :
    (bytes.foldl Decoding.feed state).IsProper := by
  induction bytes generalizing state with
  | nil => exact proper
  | cons byte bytes ih => exact ih (isProper_feed state byte)

/-- A byte of ASCII begins and ends a character. -/
theorem begin_ascii (small : byte < 0x80) (reversed : List Char) :
    begin reversed byte = ⟨Char.ofNat byte.toNat :: reversed, none⟩ := by
  rw [begin, lead, if_pos small]

/-- A byte of ASCII ends what stands in front of it. -/
theorem Decoding.IsProper.feed_ascii (proper : state.IsProper) (small : byte < 0x80) :
    state.feed byte = ⟨Char.ofNat byte.toNat :: state.finish.reverse, none⟩ := by
  obtain ⟨reversed, part⟩ := state
  cases part with
  | none => simp only [Decoding.feed, begin_ascii small, Decoding.finish, List.reverse_reverse]
  | some part =>
    have too_small : ¬(part.low ≤ byte ∧ byte ≤ part.high) := by
      intro ⟨low, _⟩
      have least : 0x80 ≤ part.low := proper part rfl
      exact absurd small (UInt8.not_lt.mpr (UInt8.le_trans least low))
    simp only [Decoding.feed, if_neg too_small, begin_ascii small, Decoding.finish,
      List.reverse_reverse]

/-- What has been decoded before stays in front. -/
theorem finish_foldl_feed (bytes : Bytes) (before reversed : List Char) (part : Option Partial) :
    (bytes.foldl Decoding.feed ⟨reversed ++ before, part⟩).finish =
      before.reverse ++ (bytes.foldl Decoding.feed ⟨reversed, part⟩).finish := by
  have step (byte : UInt8) (reversed : List Char) (part : Option Partial) :
      Decoding.feed ⟨reversed ++ before, part⟩ byte =
        ⟨(Decoding.feed ⟨reversed, part⟩ byte).reversed ++ before,
          (Decoding.feed ⟨reversed, part⟩ byte).part⟩ := by
    have begins (reversed : List Char) : begin (reversed ++ before) byte =
        ⟨(begin reversed byte).reversed ++ before, (begin reversed byte).part⟩ := by
      unfold begin
      split <;> rfl
    cases part with
    | none => exact begins reversed
    | some part =>
      simp only [Decoding.feed]
      split
      · split <;> rfl
      · exact begins (replacement :: reversed)
  induction bytes generalizing reversed part with
  | nil => cases part <;> simp [Decoding.finish]
  | cons byte bytes ih => rw [List.foldl_cons, List.foldl_cons, step, ih]

/-- A byte of ASCII divides a byte string into parts that are decoded each by itself. -/
theorem lossyChars_append_ascii (small : byte < 0x80) (bytes rest : Bytes) :
    lossyChars (bytes ++ byte :: rest) =
      lossyChars bytes ++ Char.ofNat byte.toNat :: lossyChars rest := by
  have fresh : (⟨[], none⟩ : Decoding).IsProper := fun part begun => by contradiction
  unfold lossyChars
  rw [List.foldl_append, List.foldl_cons, (fresh.foldl bytes).feed_ascii small,
    ← List.nil_append (Char.ofNat _ :: _), finish_foldl_feed, List.reverse_cons,
    List.reverse_reverse, List.append_assoc, List.singleton_append]

/-- Zero bytes are NULs. -/
theorem lossyChars_nuls (count : Nat) :
    lossyChars (List.replicate count 0) = List.replicate count '\x00' := by
  induction count with
  | zero => rfl
  | succ count ih =>
    rw [List.replicate_succ, List.replicate_succ, ← ih]
    exact lossyChars_append_ascii (by decide) [] _

/-- NULs behind a byte string are NULs behind its text, whatever stands before them. -/
theorem lossyChars_append_nuls (bytes : Bytes) (count : Nat) :
    lossyChars (bytes ++ List.replicate count 0) =
      lossyChars bytes ++ List.replicate count '\x00' := by
  cases count with
  | zero => rw [List.replicate_zero, List.replicate_zero, List.append_nil, List.append_nil]
  | succ count =>
    rw [List.replicate_succ, lossyChars_append_ascii (by decide), lossyChars_nuls]
    rfl

end Ascii

/-- Text is well formed. -/
theorem decode?_encode (text : String) : decode? (encode text) = some text := by
  have back : lossyChars (encode text) = text.toList := lossyChars_encodeChars text.toList
  rw [decode?, back, String.ofList_toList]
  exact if_pos rfl

end DebugBridge.Utf8
