import DebugBridge.Proofs.Session.Reading
import DebugBridge.Session.Transfer

/-!
# What whole transfers bring

On a connection that does not fail, what there is to read of a stream is a plain byte string: the
payloads, one behind the other. A single read takes some bytes off the front, as many as the payload
at hand and the buffer allow. A whole transfer repeats it, so what it brings depends on the byte
string alone and not on the payloads it was cut into. It is answered if there are bytes enough or
the device ends the stream behind them; else it would have to wait.
-/

namespace DebugBridge.Endpoint

/-- What there is to read is a byte string, and then the end of the stream or nothing yet. -/
structure Offers (endpoint : Endpoint) (ending : Bool) (bytes : Bytes) : Prop where
  sound : endpoint.IsSound
  ends : endpoint.isEnding = ending
  whole : (endpoint.unfinished []).flatten = bytes

/-- What there is to read is a byte string, and then the end of the stream. -/
structure Carries (endpoint : Endpoint) (bytes : Bytes) : Prop where
  sound : endpoint.IsSound
  ending : endpoint.isEnding = true
  whole : (endpoint.unfinished []).flatten = bytes

variable {endpoint after : Endpoint} {bytes piece : Bytes} {wanted : Nat} {ending : Bool}

/-- To carry bytes is to offer them with the end of the stream behind them. -/
theorem carries_iff : endpoint.Carries bytes ↔ endpoint.Offers true bytes :=
  ⟨fun ⟨sound, ending, whole⟩ => ⟨sound, ending, whole⟩,
    fun ⟨sound, ending, whole⟩ => ⟨sound, ending, whole⟩⟩

/-- A read takes bytes off the front, and none only if there are none left. -/
theorem Offers.read (offers : endpoint.Offers ending bytes) (some_wanted : wanted ≠ 0)
    (possible : bytes ≠ [] ∨ ending = true) :
    ∃ piece rest after, endpoint.read wanted = .ok piece after ∧ after.Offers ending rest ∧
      bytes = piece ++ rest ∧ piece.length ≤ wanted ∧ (piece = [] → rest = []) := by
  obtain ⟨sound, ends, rfl⟩ := offers
  cases closed : endpoint.stream.closed with
  | true =>
    have nothing : (endpoint.unfinished []).flatten = [] := by
      rw [(sound.spent closed).1, List.flatten_nil]
    exact ⟨[], _, endpoint, read_of_closed sound closed wanted, ⟨sound, ends, rfl⟩, rfl,
      Nat.zero_le wanted, fun _ => nothing⟩
  | false =>
    have called : Moment endpoint [] (some wanted) endpoint := .calls some_wanted .start
    have answers := (called.answers_readSome sound rfl some_wanted).mapFailure Failure.asIo
    change Answers endpoint [] _ wanted (endpoint.read wanted) at answers
    generalize endpoint.read wanted = outcome at answers
    cases answers with
    | @bytes piece after some_left nonempty fits moment =>
      obtain ⟨after_sound, _, _, accounts⟩ := moment.accounts sound closed
      exact ⟨piece, _, after, rfl, ⟨after_sound, accounts.ending.trans ends, rfl⟩,
        accounts.flatten.symm, fits, fun none_brought => absurd none_brought nonempty⟩
    | @ended after none_left _ _ moment =>
      obtain ⟨after_sound, _, _, accounts⟩ := moment.accounts sound closed
      exact ⟨[], _, after, rfl, ⟨after_sound, accounts.ending.trans ends, rfl⟩,
        accounts.flatten.symm, Nat.zero_le wanted, fun _ => accounts.flatten.trans none_left⟩
    | cut none_left not_ending =>
      rcases possible with some_there | still_ending
      · contradiction
      · rw [not_ending, still_ending] at ends
        contradiction

/-- What a read that succeeded has taken. -/
theorem Offers.of_read (offers : endpoint.Offers ending bytes) (some_wanted : wanted ≠ 0)
    (possible : bytes ≠ [] ∨ ending = true) (read : endpoint.read wanted = .ok piece after) :
    ∃ rest room, after.Offers ending rest ∧ bytes = piece ++ rest ∧ wanted = piece.length + room ∧
      (piece = [] → rest = []) := by
  obtain ⟨found, rest, last, same, last_offers, split, fits, spent⟩ :=
    offers.read some_wanted possible
  rw [read, Outcome.ok.injEq] at same
  obtain ⟨rfl, rfl⟩ := same
  obtain ⟨room, room_eq⟩ := Nat.exists_eq_add_of_le fits
  exact ⟨rest, room, last_offers, split, room_eq, spent⟩

/-- A read is not refused if there are bytes to read or the stream ends. -/
theorem Offers.not_refused {failure : Failure} (offers : endpoint.Offers ending bytes)
    (some_wanted : wanted ≠ 0) (possible : bytes ≠ [] ∨ ending = true)
    (refused : endpoint.read wanted = .error failure after) : False := by
  obtain ⟨_, _, _, read, -⟩ := offers.read some_wanted possible
  rw [refused] at read
  contradiction

/-- Who wants no more bytes than there are finds some. -/
theorem possible_of_wanted (possible : wanted ≤ bytes.length ∨ ending = true)
    (some_wanted : wanted ≠ 0) : bytes ≠ [] ∨ ending = true := by
  refine possible.imp_left fun enough empty => ?_
  rw [empty, List.length_nil] at enough
  exact some_wanted (Nat.le_zero.mp enough)

/-- The failure of one who wanted more bytes than there were. -/
def unfilled : Failure :=
  .io .unexpectedEof (some "failed to fill whole buffer")

/-- Reading exactly so many bytes takes them off the front. If there are too few, it takes all there
are and fails. -/
theorem Offers.readExact (offers : endpoint.Offers ending bytes) (wanted : Nat)
    (possible : wanted ≤ bytes.length ∨ ending = true) :
    ∃ after, after.Offers ending (bytes.drop wanted) ∧ endpoint.readExact wanted =
      .ofResult (if wanted ≤ bytes.length then .ok (bytes.take wanted) else .error unfilled)
        after := by
  fun_induction Endpoint.readExact wanted endpoint generalizing bytes with
  | case1 endpoint => exact ⟨endpoint, offers, by simp [Outcome.ofResult]⟩
  | case2 wanted endpoint some_wanted last ended =>
    obtain ⟨rest, _, last_offers, none_left, -, spent⟩ :=
      offers.of_read some_wanted (possible_of_wanted possible some_wanted) ended
    rw [spent rfl] at last_offers none_left
    rw [none_left]
    have too_few : ¬wanted ≤ 0 := Nat.not_le.mpr (Nat.pos_of_ne_zero some_wanted)
    refine ⟨last, ?_, ?_⟩
    · rwa [List.append_nil, List.drop_nil]
    · rw [List.append_nil, List.length_nil, if_neg too_few]
      rfl
  | case3 wanted endpoint some_wanted byte more last piece less ih =>
    obtain ⟨rest, room, last_offers, rfl, rfl, -⟩ :=
      offers.of_read some_wanted (possible_of_wanted possible some_wanted) piece
    have left : (byte :: more).length + room - (more.length + 1) = room :=
      Nat.add_sub_cancel_left _ room
    rw [List.length_append, Nat.add_le_add_iff_left] at possible
    rw [left] at ih ⊢
    obtain ⟨after, after_offers, read⟩ := ih last_offers possible
    refine ⟨after, ?_, ?_⟩
    · rwa [List.drop_length_add_append]
    · rw [read, List.take_length_add_append, List.length_append]
      simp only [Nat.add_le_add_iff_left]
      split <;> rfl
  | case4 wanted endpoint some_wanted failure last refused =>
    exact (offers.not_refused some_wanted (possible_of_wanted possible some_wanted) refused).elim
  | case5 wanted endpoint some_wanted failure last refused =>
    exact (offers.not_refused some_wanted (possible_of_wanted possible some_wanted) refused).elim

namespace Gathering

variable {data : Gathering}

/-- A buffer that holds what was gathered, and whose reads may ask for something. -/
structure IsRoomy (data : Gathering) : Prop where
  fits : data.length ≤ data.capacity
  asks : 0 < data.largest

theorem bytes_widen (data : Gathering) : data.widen.bytes = data.bytes := by
  unfold widen
  split <;> rfl

/-- A widened buffer asks for bytes. -/
theorem IsRoomy.request_pos (roomy : data.IsRoomy) : 0 < data.widen.request := by
  obtain ⟨fits, asks⟩ := roomy
  unfold widen request probe
  grind

/-- A buffer that has grown is still roomy. -/
theorem IsRoomy.widen (roomy : data.IsRoomy) : data.widen.IsRoomy := by
  obtain ⟨fits, asks⟩ := roomy
  unfold Gathering.widen probe
  split
  · exact ⟨fits, asks⟩
  · exact ⟨by simp only; omega, asks⟩

theorem bytes_add (piece : Bytes) (data : Gathering) :
    (data.add piece).bytes = data.bytes ++ piece := by
  simp [bytes, add]

/-- A read that brings no more than was asked for leaves the buffer roomy. -/
theorem IsRoomy.add {piece : Bytes} (roomy : data.IsRoomy) (fits : piece.length ≤ data.request) :
    (data.add piece).IsRoomy := by
  obtain ⟨holds, asks⟩ := roomy
  unfold request at fits
  refine ⟨?_, ?_⟩
  · simp only [Gathering.add]
    grind
  · simp only [Gathering.add]
    grind

end Gathering

/-- Gathering takes as many bytes off the front as the limit allows. -/
theorem Offers.gather {data : Gathering} (offers : endpoint.Offers ending bytes) (limit : Nat)
    (possible : limit ≤ bytes.length ∨ ending = true) (roomy : data.IsRoomy) :
    ∃ after, after.Offers ending (bytes.drop limit) ∧
      endpoint.gather (some limit) data = (data.bytes ++ bytes.take limit, .ok () after) := by
  induction size : endpoint.unread using Nat.strongRecOn
    generalizing endpoint bytes data limit with
  | ind size ih =>
    subst size
    rw [Endpoint.gather]
    rw [Option.getD_some, Gathering.bytes_widen]
    have requested : min data.widen.request limit ≤ data.widen.request := Nat.min_le_left _ _
    have within : min data.widen.request limit ≤ limit := Nat.min_le_right _ _
    split
    · next none_wanted =>
      have asks := roomy.request_pos
      have none_allowed : limit = 0 := by omega
      subst none_allowed
      refine ⟨endpoint, offers, ?_⟩
      rw [List.take_zero, List.append_nil]
    · next some_wanted =>
      have answered := possible_of_wanted (possible.imp_left (Nat.le_trans within)) some_wanted
      split
      · next last ended =>
        obtain ⟨rest, _, last_offers, none_left, -, spent⟩ :=
          offers.of_read some_wanted answered ended
        rw [spent rfl] at last_offers none_left
        rw [none_left]
        refine ⟨last, ?_, ?_⟩
        · rwa [List.append_nil, List.drop_nil]
        · rw [List.append_nil, List.take_nil, List.append_nil]
      · next byte more last piece =>
        obtain ⟨rest, room, last_offers, rfl, asked, -⟩ :=
          offers.of_read some_wanted answered piece
        have fits := Nat.le.intro asked.symm
        obtain ⟨extra, rfl⟩ := Nat.exists_eq_add_of_le (Nat.le_trans fits within)
        rw [List.length_append, Nat.add_le_add_iff_left] at possible
        have left : (byte :: more).length + extra - (more.length + 1) = extra :=
          Nat.add_sub_cancel_left _ extra
        rw [Option.map_some, left]
        obtain ⟨after, after_offers, gathered⟩ := ih _ (unread_read piece) last_offers extra
          possible (roomy.widen.add (Nat.le_trans fits requested)) rfl
        refine ⟨after, ?_, ?_⟩
        · rwa [List.drop_length_add_append]
        · rw [gathered, Gathering.bytes_add, Gathering.bytes_widen, List.take_length_add_append,
            List.append_assoc]
      · next refused => exact (offers.not_refused some_wanted answered refused).elim

/-- Reading up to so many bytes takes as many of them off the front as there are. -/
theorem Offers.readUpTo (offers : endpoint.Offers ending bytes) (limit : Nat)
    (possible : limit ≤ bytes.length ∨ ending = true) :
    ∃ after, after.Offers ending (bytes.drop limit) ∧
      endpoint.readUpTo limit = .ok (bytes.take limit) after := by
  have roomy : ({} : Gathering).IsRoomy := ⟨Nat.le_refl 0, by decide⟩
  obtain ⟨after, after_offers, gathered⟩ := offers.gather limit possible roomy
  refine ⟨after, after_offers, ?_⟩
  rw [Endpoint.readUpTo, gathered]
  rfl

end DebugBridge.Endpoint
