import DebugBridge.Handshake
import Mathlib.Data.List.Induction

/-!
# What a handshake accepts

A handshake may be fed any frames, also after it has failed or connected. It connects behind three
openings only: none at all, one challenge, or a challenge with one more request behind it. The
answers follow the same order, so a key pair signs one token at most and its public key is offered
once at most, after the signature.
-/

namespace DebugBridge.Handshake

/-- The first request of a device: a token, with the signature that answers it. -/
structure IsChallenge (keyPair : Option KeyPair) (frame : Frame) (signature : Bytes) : Prop where
  auth : frame.command = Command.auth
  token : frame.arg0 = AuthType.token
  signed : ∃ pair ∈ keyPair, pair.sign frame.payload = .ok signature

/-- The second request of a device, of whatever type, with the key that answers it. -/
structure IsInquiry (keyPair : Option KeyPair) (frame : Frame) (publicKey : Bytes) : Prop where
  auth : frame.command = Command.auth
  held : ∃ pair ∈ keyPair, pair.publicBytes = publicKey
  some_key : publicKey ≠ []

/-- The announcement of a device, and what it says. -/
structure IsGreeting (frame : Frame) (greeting : Greeting) : Prop where
  connect : frame.command = Command.connect
  some_payload : frame.arg1 ≠ 0
  version : greeting.version = frame.arg0
  maxPayload : greeting.maxPayload = frame.arg1
  banner : Banner.parse frame.payload = .ok greeting.banner

/-- The frames behind which a device may connect, and the stage that they lead to. -/
inductive Opening (keyPair : Option KeyPair) : List Frame → Stage → Prop
  | start : Opening keyPair [] .start
  | challenged {frame : Frame} {signature : Bytes}
      (challenge : IsChallenge keyPair frame signature) :
      Opening keyPair [frame] .signatureSent
  | inquired {first second : Frame} {signature publicKey : Bytes}
      (challenge : IsChallenge keyPair first signature)
      (inquiry : IsInquiry keyPair second publicKey) :
      Opening keyPair [first, second] .publicKeySent

/-- Whether a stage is the end of a handshake. -/
def IsFinal (stage : Stage) : Prop :=
  stage = .connected ∨ stage = .failed

/-- The good answers: what a frame is answered with, and the stage behind it. -/
inductive Answers (keyPair : Option KeyPair) (frame : Frame) : Stage → Answer → Stage → Prop
  | signs {signature : Bytes} (challenge : IsChallenge keyPair frame signature) :
      Answers keyPair frame .start (.reply AuthType.signature signature) .signatureSent
  | offers {publicKey : Bytes} (inquiry : IsInquiry keyPair frame publicKey) :
      Answers keyPair frame .signatureSent (.reply AuthType.publicKey publicKey) .publicKeySent
  | connects {stage : Stage} {greeting : Greeting} (going : ¬ IsFinal stage)
      (announced : IsGreeting frame greeting) :
      Answers keyPair frame stage (.connected greeting) .connected

variable {keyPair : Option KeyPair} {frame : Frame} {handshake : Handshake}

/-- A result with a mark is good exactly if the result is, and the mark is the one given. -/
theorem map_pair_eq_ok_iff {Value Mark : Type} {result : Except Failure Value} {value : Value}
    {mark given : Mark} :
    result.map (·, mark) = .ok (value, given) ↔ result = .ok value ∧ given = mark := by
  cases result with
  | error failure => simp [Except.map]
  | ok found => simp [Except.map, eq_comm]

/-- A first request is answered exactly if it is a challenge, with its signature. -/
theorem answerToken_eq_ok_iff (auth : frame.command = Command.auth) {answer : Answer} :
    answerToken frame keyPair = .ok answer ↔
      ∃ signature, IsChallenge keyPair frame signature ∧
        answer = .reply AuthType.signature signature := by
  constructor
  · intro answered
    unfold answerToken at answered
    split at answered
    · contradiction
    · next pair =>
      split at answered
      · contradiction
      · next isToken =>
        cases signed : pair.sign frame.payload with
        | error failure => simp [signed, Except.map] at answered
        | ok signature =>
          rw [signed] at answered
          refine ⟨signature, ⟨auth, Decidable.not_not.1 isToken, pair, rfl, signed⟩, ?_⟩
          exact (Except.ok.inj answered).symm
  · rintro ⟨signature, ⟨-, isToken, pair, rfl, signed⟩, rfl⟩
    simp [answerToken, isToken, signed, Except.map]

/-- A second request is answered exactly if there is a public key to offer, and with that key. -/
theorem offerKey_eq_ok_iff (auth : frame.command = Command.auth) {answer : Answer} :
    offerKey keyPair = .ok answer ↔
      ∃ publicKey, IsInquiry keyPair frame publicKey ∧
        answer = .reply AuthType.publicKey publicKey := by
  constructor
  · intro answered
    unfold offerKey at answered
    split at answered
    · contradiction
    · next pair found =>
      obtain ⟨held, some_key⟩ := Option.filter_eq_some_iff.1 found
      refine ⟨pair.publicBytes, ⟨auth, ⟨pair, held, rfl⟩, ?_⟩, (Except.ok.inj answered).symm⟩
      simpa using some_key
  · rintro ⟨publicKey, ⟨-, ⟨pair, rfl, rfl⟩, some_key⟩, rfl⟩
    have offered : (some pair).filter (fun pair => !pair.publicBytes.isEmpty) = some pair := by
      simpa using some_key
    rw [offerKey, offered]

/-- An announcement is accepted exactly if it is a greeting, with what it says. -/
theorem accept_eq_ok_iff (connect : frame.command = Command.connect) {answer : Answer} :
    accept frame = .ok answer ↔
      ∃ greeting, IsGreeting frame greeting ∧ answer = .connected greeting := by
  constructor
  · intro accepted
    unfold accept at accepted
    split at accepted
    · contradiction
    · next some_payload =>
      cases parsed : Banner.parse frame.payload with
      | error failure => simp [parsed, Except.map] at accepted
      | ok banner =>
        rw [parsed] at accepted
        refine ⟨_, ⟨connect, some_payload, ?_, ?_, ?_⟩, (Except.ok.inj accepted).symm⟩
        · rfl
        · rfl
        · exact parsed
  · rintro ⟨⟨version, maxPayload, banner⟩, ⟨-, some_payload, rfl, rfl, parsed⟩, rfl⟩
    simp [accept, some_payload, parsed, Except.map]

/-- Behind the end of a handshake every frame is refused. -/
theorem advance_of_isFinal (final : IsFinal handshake.stage) : handshake.advance frame =
    .error (.connectionRejected ("Handshake already finished, got " ++ frame.describe)) := by
  obtain ⟨current, keyPair⟩ := handshake
  obtain rfl | rfl := final <;> rfl

/-- An announcement connects at every stage that is not the end. -/
theorem advance_of_connect (going : ¬ IsFinal handshake.stage)
    (connect : frame.command = Command.connect) :
    handshake.advance frame = (accept frame).map (·, .connected) := by
  have not_auth : Command.connect ≠ Command.auth := by decide
  obtain ⟨current, keyPair⟩ := handshake
  cases current with
  | start | signatureSent | publicKeySent =>
    simp only [advance, connect, not_auth, if_true, if_false]
  | connected => exact absurd (.inl rfl) going
  | failed => exact absurd (.inr rfl) going

/-- A frame that is neither a request nor an announcement is refused, whatever the stage. -/
theorem advance_of_other (handshake : Handshake) (not_auth : frame.command ≠ Command.auth)
    (not_connect : frame.command ≠ Command.connect) :
    ∃ failure, handshake.advance frame = .error failure := by
  obtain ⟨current, keyPair⟩ := handshake
  cases current with
  | start | signatureSent | publicKeySent =>
    simp only [advance, not_auth, not_connect, if_false]
    exact ⟨_, rfl⟩
  | connected | failed => exact ⟨_, rfl⟩

section Good

variable {answer : Answer} {stage : Stage}

/-- Only requests and announcements have good answers. -/
theorem command_of_answers {current : Stage}
    (answers : Answers keyPair frame current answer stage) :
    frame.command = Command.auth ∨ frame.command = Command.connect := by
  cases answers with
  | signs challenge => exact .inl challenge.auth
  | offers inquiry => exact .inl inquiry.auth
  | connects _ announced => exact .inr announced.connect

/-- Of the good answers only being connected ends a handshake. -/
theorem isFinal_of_answers {current : Stage}
    (answers : Answers keyPair frame current answer stage) :
    (∃ greeting, answer = .connected greeting) ↔ IsFinal stage := by
  cases answers with
  | signs | offers | connects => simp [IsFinal]

/-- No good answer leads to a failed handshake. -/
theorem ne_failed_of_answers {current : Stage}
    (answers : Answers keyPair frame current answer stage) : stage ≠ .failed := by
  cases answers with
  | signs | offers | connects => simp

/-- A frame connects exactly if it is a greeting and the handshake has not ended. -/
theorem answers_connected_iff {current : Stage} {greeting : Greeting} :
    (∃ stage, Answers keyPair frame current (.connected greeting) stage) ↔
      ¬ IsFinal current ∧ IsGreeting frame greeting := by
  constructor
  · rintro ⟨stage, answers⟩
    cases answers with
    | connects going announced => exact ⟨going, announced⟩
  · rintro ⟨going, announced⟩
    exact ⟨_, .connects going announced⟩

/-- What is sent to the device is the signature for a first request or the public key for a second
one. -/
theorem answers_reply_iff {current : Stage} {type : UInt32} {payload : Bytes} :
    (∃ stage, Answers keyPair frame current (.reply type payload) stage) ↔
      (current = .start ∧ type = AuthType.signature ∧ IsChallenge keyPair frame payload) ∨
      (current = .signatureSent ∧ type = AuthType.publicKey ∧
        IsInquiry keyPair frame payload) := by
  constructor
  · rintro ⟨stage, answers⟩
    cases answers with
    | signs challenge => exact .inl ⟨rfl, rfl, challenge⟩
    | offers inquiry => exact .inr ⟨rfl, rfl, inquiry⟩
  · rintro (⟨rfl, rfl, challenge⟩ | ⟨rfl, rfl, inquiry⟩)
    · exact ⟨_, .signs challenge⟩
    · exact ⟨_, .offers inquiry⟩

/-- The first reply is a signature. -/
theorem signed_of_answers {type : UInt32} {payload : Bytes}
    (answers : Answers keyPair frame .start (.reply type payload) stage) :
    type = AuthType.signature ∧ stage = .signatureSent := by
  cases answers with
  | signs => exact ⟨rfl, rfl⟩

/-- The second reply is a public key. -/
theorem offered_of_answers {type : UInt32} {payload : Bytes}
    (answers : Answers keyPair frame .signatureSent (.reply type payload) stage) :
    type = AuthType.publicKey ∧ stage = .publicKeySent := by
  cases answers with
  | offers => exact ⟨rfl, rfl⟩

/-- An announcement has the good answers of `accept`, unless the handshake has ended. -/
theorem connects_iff (connect : frame.command = Command.connect) {current : Stage} :
    Answers keyPair frame current answer stage ↔
      ¬ IsFinal current ∧ (accept frame).map (·, Stage.connected) = .ok (answer, stage) := by
  rw [map_pair_eq_ok_iff, accept_eq_ok_iff connect]
  constructor
  · intro answers
    cases answers with
    | signs challenge => exact absurd (connect.symm.trans challenge.auth) (by decide)
    | offers inquiry => exact absurd (connect.symm.trans inquiry.auth) (by decide)
    | connects going announced => exact ⟨going, ⟨_, announced, rfl⟩, rfl⟩
  · rintro ⟨going, ⟨greeting, announced, rfl⟩, rfl⟩
    exact .connects going announced

/-- A request is answered with a signature first, then with the key. -/
theorem advance_of_auth (auth : frame.command = Command.auth) :
    handshake.advance frame = .ok (answer, stage) ↔
      Answers handshake.keyPair frame handshake.stage answer stage := by
  have not_connect : ∀ greeting, ¬ IsGreeting frame greeting := by
    intro greeting announced
    exact absurd (auth.symm.trans announced.connect) (by decide)
  obtain ⟨current, keyPair⟩ := handshake
  constructor
  · intro advanced
    cases current with
    | start =>
      simp only [advance, auth, if_true, map_pair_eq_ok_iff, answerToken_eq_ok_iff auth] at advanced
      obtain ⟨⟨signature, challenge, rfl⟩, rfl⟩ := advanced
      exact .signs challenge
    | signatureSent =>
      simp only [advance, auth, if_true, map_pair_eq_ok_iff, offerKey_eq_ok_iff auth] at advanced
      obtain ⟨⟨publicKey, inquiry, rfl⟩, rfl⟩ := advanced
      exact .offers inquiry
    | publicKeySent =>
      have other : Command.auth ≠ Command.connect := by decide
      simp [advance, auth, other] at advanced
    | connected | failed => cases advanced
  · intro answers
    cases answers with
    | signs challenge =>
      simp only [advance, auth, if_true, map_pair_eq_ok_iff, answerToken_eq_ok_iff auth]
      exact ⟨⟨_, challenge, rfl⟩, trivial⟩
    | offers inquiry =>
      simp only [advance, auth, if_true, map_pair_eq_ok_iff, offerKey_eq_ok_iff auth]
      exact ⟨⟨_, inquiry, rfl⟩, trivial⟩
    | connects _ announced => exact absurd announced (not_connect _)

/-- All that a frame can lead to, failures apart. -/
theorem advance_eq_ok_iff :
    handshake.advance frame = .ok (answer, stage) ↔
      Answers handshake.keyPair frame handshake.stage answer stage := by
  by_cases auth : frame.command = Command.auth
  · exact advance_of_auth auth
  by_cases connect : frame.command = Command.connect
  · rw [connects_iff connect]
    by_cases final : IsFinal handshake.stage
    · simp only [advance_of_isFinal final, final, not_true, false_and, reduceCtorEq]
    · simp only [advance_of_connect final connect, final, not_false_eq_true, true_and]
  · obtain ⟨failure, refused⟩ := handshake.advance_of_other auth connect
    rw [refused]
    refine iff_of_false (by simp) fun answers => ?_
    exact (command_of_answers answers).elim auth connect

end Good

/-- One frame of the device, taken in. -/
structure Turn where
  before : Stage
  frame : Frame
  result : Except Failure Answer
  after : Stage

/-- The frame with what comes of it. -/
def turn (frame : Frame) (handshake : Handshake) : Turn where
  before := handshake.stage
  frame
  result := (handshake.onFrame frame).result
  after := (handshake.onFrame frame).state.stage

/-- The type and the payload of what is sent to the device, if the handshake goes on. -/
def Turn.reply? (turn : Turn) : Option (UInt32 × Bytes) :=
  match turn.result with
  | .ok (.reply type payload) => some (type, payload)
  | _ => none

/-- Takes in frames one after the other, whatever becomes of them. -/
def turns : List Frame → Handshake → List Turn
  | [], _ => []
  | frame :: frames, handshake =>
    handshake.turn frame :: turns frames (handshake.onFrame frame).state

/-- The handshake behind the frames. -/
def afterFrames : List Frame → Handshake → Handshake
  | [], handshake => handshake
  | frame :: frames, handshake => afterFrames frames (handshake.onFrame frame).state

@[simp] theorem keyPair_onFrame : (handshake.onFrame frame).state.keyPair = handshake.keyPair := by
  unfold onFrame
  cases handshake.advance frame <;> rfl

@[simp] theorem keyPair_afterFrames (frames : List Frame) (handshake : Handshake) :
    (handshake.afterFrames frames).keyPair = handshake.keyPair := by
  induction frames generalizing handshake with
  | nil => rfl
  | cons frame frames ih => rw [afterFrames, ih, keyPair_onFrame]

/-- A good answer is what the turn comes to. -/
theorem turn_of_answers {answer : Answer} {stage : Stage}
    (answers : Answers handshake.keyPair frame handshake.stage answer stage) :
    (handshake.turn frame).result = .ok answer ∧ (handshake.turn frame).after = stage := by
  rw [turn, onFrame, advance_eq_ok_iff.2 answers]
  exact ⟨rfl, rfl⟩

/-- A turn that succeeds has a good answer. -/
theorem answers_of_turn {answer : Answer} (answered : (handshake.turn frame).result = .ok answer) :
    Answers handshake.keyPair frame handshake.stage answer (handshake.turn frame).after := by
  unfold turn onFrame at answered ⊢
  cases advanced : handshake.advance frame with
  | error failure => simp [advanced, Outcome.result] at answered
  | ok good =>
    rw [advanced] at answered
    obtain rfl := Except.ok.inj answered
    exact advance_eq_ok_iff.1 advanced

/-- A turn succeeds with an answer exactly if that is a good one. -/
theorem turn_eq_ok_iff {answer : Answer} : (handshake.turn frame).result = .ok answer ↔
    ∃ stage, Answers handshake.keyPair frame handshake.stage answer stage := by
  constructor
  · intro answered
    exact ⟨_, answers_of_turn answered⟩
  · rintro ⟨stage, answers⟩
    exact (turn_of_answers answers).1

/-- A failure is final. -/
theorem after_of_turn_error {failure : Failure}
    (failed : (handshake.turn frame).result = .error failure) :
    (handshake.turn frame).after = .failed := by
  unfold turn onFrame at failed ⊢
  cases advanced : handshake.advance frame with
  | error failure => rfl
  | ok good => simp [advanced, Outcome.result] at failed

/-- A handshake that has ended rejects every frame, and has failed from then on. -/
theorem turn_of_isFinal (final : IsFinal handshake.stage) :
    (handshake.turn frame).result = .error (.connectionRejected
      ("Handshake already finished, got " ++ frame.describe)) ∧
    (handshake.turn frame).after = .failed := by
  rw [turn, onFrame, advance_of_isFinal final]
  exact ⟨rfl, rfl⟩

/-- A turn sends what it answers with. -/
theorem Turn.reply?_eq_some_iff {turn : Turn} {type : UInt32} {payload : Bytes} :
    turn.reply? = some (type, payload) ↔ turn.result = .ok (.reply type payload) := by
  unfold reply?
  split
  · next sent => simp [sent]
  · next other =>
    refine iff_of_false (by simp) ?_
    exact other type payload

/-- The handshake goes on exactly behind a reply. -/
theorem reply?_turn_eq_none_iff :
    (handshake.turn frame).reply? = none ↔ IsFinal (handshake.turn frame).after := by
  cases answered : (handshake.turn frame).result with
  | error failure =>
    refine iff_of_true ?_ (.inr (after_of_turn_error answered))
    rw [Turn.reply?, answered]
  | ok answer =>
    rw [Turn.reply?, answered, ← isFinal_of_answers (answers_of_turn answered)]
    cases answer <;> simp

theorem turns_append (front back : List Frame) (handshake : Handshake) :
    turns (front ++ back) handshake =
      turns front handshake ++ turns back (handshake.afterFrames front) := by
  induction front generalizing handshake with
  | nil => rfl
  | cons frame front ih => simp only [List.cons_append, turns, afterFrames, ih]

theorem afterFrames_append (front back : List Frame) (handshake : Handshake) :
    handshake.afterFrames (front ++ back) = (handshake.afterFrames front).afterFrames back := by
  induction front generalizing handshake with
  | nil => rfl
  | cons frame front ih => exact ih _

theorem map_frame_turns (frames : List Frame) (handshake : Handshake) :
    (turns frames handshake).map Turn.frame = frames := by
  induction frames generalizing handshake with
  | nil => rfl
  | cons frame frames ih => exact congrArg (frame :: ·) (ih _)

/-- Every turn is the one of its frame, behind the turns of the frames before. -/
theorem exists_of_turns_eq {frames : List Frame} {earlier later : List Turn} {turn : Turn}
    (log : turns frames handshake = earlier ++ turn :: later) :
    ∃ front frame, earlier = turns front handshake ∧
      turn = (handshake.afterFrames front).turn frame := by
  induction earlier generalizing frames handshake with
  | nil =>
    cases frames with
    | nil => contradiction
    | cons frame frames =>
      obtain ⟨rfl, -⟩ := List.cons.inj log
      exact ⟨[], frame, rfl, rfl⟩
  | cons first earlier ih =>
    cases frames with
    | nil => contradiction
    | cons frame frames =>
      obtain ⟨rfl, rest⟩ := List.cons.inj log
      obtain ⟨front, last, rfl, rfl⟩ := ih rest
      exact ⟨frame :: front, last, rfl, rfl⟩

variable {frames : List Frame}

/-- No opening is the end of a handshake. -/
theorem not_isFinal_of_opening {stage : Stage} (opening : Opening keyPair frames stage) :
    ¬ IsFinal stage := by
  cases opening with
  | start | challenged | inquired => simp [IsFinal]

/-- Behind a challenge the signature has been sent. -/
theorem after_of_challenge {signature : Bytes} (challenge : IsChallenge keyPair frame signature) :
    (afterFrames [frame] { keyPair }).stage = .signatureSent := by
  have signs : Answers ({ keyPair } : Handshake).keyPair frame ({ keyPair } : Handshake).stage
      (.reply AuthType.signature signature) .signatureSent := .signs challenge
  exact (turn_of_answers signs).2

/-- An opening leads to its stage. -/
theorem stage_of_opening {stage : Stage} (opening : Opening keyPair frames stage) :
    (afterFrames frames { keyPair }).stage = stage := by
  cases opening with
  | start => rfl
  | challenged challenge => exact after_of_challenge challenge
  | @inquired first second signature publicKey challenge inquiry =>
    have offers : Answers (afterFrames [first] { keyPair }).keyPair second
        (afterFrames [first] { keyPair }).stage (.reply AuthType.publicKey publicKey)
        .publicKeySent := by
      rw [keyPair_afterFrames, after_of_challenge challenge]
      exact .offers inquiry
    exact (turn_of_answers offers).2

/-- A good answer leads from one opening to the next, or to the end. -/
theorem opening_of_answers {current stage : Stage} {answer : Answer}
    (opening : Opening keyPair frames current)
    (answers : Answers keyPair frame current answer stage) :
    Opening keyPair (frames ++ [frame]) stage ∨ IsFinal stage := by
  cases answers with
  | signs challenge =>
    cases opening with
    | start => exact .inl (.challenged challenge)
  | offers inquiry =>
    cases opening with
    | challenged challenge => exact .inl (.inquired challenge inquiry)
  | connects => exact .inr (.inl rfl)

/-- Either the frames are an opening, and each was replied to, or one of them was the end. -/
theorem opening_or_isFinal (keyPair : Option KeyPair) (frames : List Frame) :
    let stage := (afterFrames frames { keyPair }).stage
    (Opening keyPair frames stage ∧ ∀ past ∈ turns frames { keyPair }, past.reply? ≠ none) ∨
      (IsFinal stage ∧ ∃ past ∈ turns frames { keyPair }, past.reply? = none) := by
  induction frames using List.reverseRecOn with
  | nil => exact .inl ⟨.start, by simp [turns]⟩
  | append_singleton frames frame ih =>
    have held : (afterFrames frames { keyPair }).keyPair = keyPair := keyPair_afterFrames _ _
    rw [turns_append, afterFrames_append]
    revert ih held
    generalize afterFrames frames { keyPair } = handshake
    intro ih held stage
    simp only [turns, List.mem_append, List.mem_singleton]
    obtain ⟨opening, replied⟩ | ⟨final, past, member, ended⟩ := ih
    · cases answered : (handshake.turn frame).reply? with
      | none =>
        exact .inr ⟨reply?_turn_eq_none_iff.1 answered, _, .inr rfl, answered⟩
      | some reply =>
        have going : ¬ IsFinal stage := by
          intro final
          rw [reply?_turn_eq_none_iff.2 final] at answered
          contradiction
        have answers := answers_of_turn (Turn.reply?_eq_some_iff.1 answered)
        rw [held] at answers
        refine .inl ⟨(opening_of_answers opening answers).resolve_right going, ?_⟩
        rintro past (member | rfl)
        · exact replied past member
        · simp [answered]
    · refine .inr ⟨.inr (turn_of_isFinal final).2, past, .inl member, ended⟩

/-- A handshake that has not ended stands where an opening leads, and the frames are that opening.
-/
theorem stage_eq_iff {stage : Stage} (going : ¬ IsFinal stage) :
    (afterFrames frames { keyPair }).stage = stage ↔ Opening keyPair frames stage := by
  constructor
  · rintro rfl
    obtain ⟨opening, -⟩ | ⟨final, -⟩ := opening_or_isFinal keyPair frames
    · exact opening
    · contradiction
  · exact stage_of_opening

/-- Only behind no frames nothing has been sent. -/
theorem opening_start_iff : Opening keyPair frames .start ↔ frames = [] := by
  constructor
  · intro opening
    cases opening with
    | start => rfl
  · rintro rfl
    exact .start

/-- The signature alone has been sent behind one challenge and nothing else. -/
theorem opening_signatureSent_iff : Opening keyPair frames .signatureSent ↔
    ∃ frame signature, frames = [frame] ∧ IsChallenge keyPair frame signature := by
  constructor
  · intro opening
    cases opening with
    | challenged challenge => exact ⟨_, _, rfl, challenge⟩
  · rintro ⟨frame, signature, rfl, challenge⟩
    exact .challenged challenge

/-- A handshake has ended once a turn has sent nothing. -/
theorem isFinal_iff : IsFinal (afterFrames frames { keyPair }).stage ↔
    ∃ past ∈ turns frames { keyPair }, past.reply? = none := by
  obtain ⟨opening, replied⟩ | ⟨final, ended⟩ := opening_or_isFinal keyPair frames
  · refine iff_of_false (not_isFinal_of_opening opening) ?_
    rintro ⟨past, member, ended⟩
    exact replied past member ended
  · exact iff_of_true final ended

/-- What a turn comes to behind those before it. -/
structure Turn.Accords (keyPair : Option KeyPair) (earlier : List Turn) (turn : Turn) : Prop where
  /-- The stage is that of the opening, as long as the handshake goes on. -/
  opened : ∀ stage, ¬ IsFinal stage →
    (turn.before = stage ↔ Opening keyPair (earlier.map Turn.frame) stage)
  reached : ∀ stage, ¬ IsFinal stage →
    (turn.after = stage ↔ Opening keyPair ((earlier ++ [turn]).map Turn.frame) stage)
  ended : IsFinal turn.before ↔ ∃ past ∈ earlier, past.reply? = none
  connects : ∀ greeting, turn.result = .ok (.connected greeting) ↔
    (∀ past ∈ earlier, past.reply? ≠ none) ∧ IsGreeting turn.frame greeting ∧
      ∃ stage, Opening keyPair (earlier.map Turn.frame) stage
  replies : ∀ type payload, turn.result = .ok (.reply type payload) ↔
    (earlier = [] ∧ type = AuthType.signature ∧ IsChallenge keyPair turn.frame payload) ∨
    ((∃ first signature, earlier.map Turn.frame = [first] ∧
        IsChallenge keyPair first signature) ∧
      type = AuthType.publicKey ∧ IsInquiry keyPair turn.frame payload)
  connected : turn.after = .connected ↔ ∃ greeting, turn.result = .ok (.connected greeting)
  failed : turn.after = .failed ↔ ∃ failure, turn.result = .error failure
  finished : IsFinal turn.before → turn.after = .failed ∧ turn.result =
    .error (.connectionRejected ("Handshake already finished, got " ++ turn.frame.describe))

/-- A turn ends connected exactly if it answers with a greeting. -/
theorem after_eq_connected_iff : (handshake.turn frame).after = .connected ↔
    ∃ greeting, (handshake.turn frame).result = .ok (.connected greeting) := by
  cases answered : (handshake.turn frame).result with
  | error failure => simp [after_of_turn_error answered]
  | ok answer =>
    have answers := answers_of_turn answered
    have final := isFinal_of_answers answers
    simp only [IsFinal, ne_failed_of_answers answers, or_false] at final
    simpa using final.symm

/-- A turn ends failed exactly if it answers with a failure. -/
theorem after_eq_failed_iff : (handshake.turn frame).after = .failed ↔
    ∃ failure, (handshake.turn frame).result = .error failure := by
  cases answered : (handshake.turn frame).result with
  | error failure => simp [after_of_turn_error answered]
  | ok answer => simp [ne_failed_of_answers (answers_of_turn answered)]

/-- What a turn comes to behind any frames, put together from the lemmas on openings. -/
theorem accords (keyPair : Option KeyPair) (front : List Frame) (frame : Frame) :
    ((afterFrames front { keyPair }).turn frame).Accords keyPair (turns front { keyPair }) where
  opened := by
    intro stage going
    rw [map_frame_turns]
    exact stage_eq_iff going
  reached := by
    intro stage going
    rw [List.map_append, map_frame_turns]
    have last : (afterFrames (front ++ [frame]) { keyPair }).stage = stage ↔
        Opening keyPair (front ++ [frame]) stage := stage_eq_iff going
    rw [afterFrames_append] at last
    exact last
  ended := isFinal_iff
  connects := by
    intro greeting
    have going : (∃ stage, Opening keyPair front stage) ↔
        ¬ IsFinal (afterFrames front { keyPair }).stage := by
      constructor
      · rintro ⟨stage, opening⟩
        rw [stage_of_opening opening]
        exact not_isFinal_of_opening opening
      · intro going
        exact ⟨_, (stage_eq_iff going).1 rfl⟩
    have replied : (∀ past ∈ turns front { keyPair }, past.reply? ≠ none) ↔
        ¬ IsFinal (afterFrames front { keyPair }).stage := by
      simp only [isFinal_iff, not_exists, not_and, ne_eq]
    rw [map_frame_turns, turn_eq_ok_iff, answers_connected_iff, going, replied]
    exact ⟨fun ⟨still, announced⟩ => ⟨still, announced, still⟩,
      fun ⟨still, announced, _⟩ => ⟨still, announced⟩⟩
  replies := by
    intro type payload
    have at_start : (afterFrames front { keyPair }).stage = .start ↔
        turns front { keyPair } = [] := by
      rw [stage_eq_iff (by simp [IsFinal]), opening_start_iff,
        ← List.map_eq_nil_iff (f := Turn.frame), map_frame_turns]
    have at_second : (afterFrames front { keyPair }).stage = .signatureSent ↔
        ∃ first signature, front = [first] ∧ IsChallenge keyPair first signature := by
      rw [stage_eq_iff (by simp [IsFinal]), opening_signatureSent_iff]
    rw [turn_eq_ok_iff, answers_reply_iff, at_start, at_second, keyPair_afterFrames,
      map_frame_turns]
    rfl
  connected := after_eq_connected_iff
  failed := after_eq_failed_iff
  finished := fun final => (turn_of_isFinal final).symm

/-- What is sent to the device, in order. -/
def replies (log : List Turn) : List (UInt32 × Bytes) :=
  log.filterMap Turn.reply?

/-- A handshake that has ended sends nothing any more. -/
theorem replies_of_isFinal (frames : List Frame) (final : IsFinal handshake.stage) :
    replies (turns frames handshake) = [] := by
  induction frames generalizing handshake with
  | nil => rfl
  | cons frame frames ih =>
    have still : IsFinal (handshake.turn frame).after := .inr (turn_of_isFinal final).2
    rw [turns, replies, List.filterMap_cons, reply?_turn_eq_none_iff.2 still]
    exact ih still

/-- Nothing is sent, or the first frame is replied to. -/
theorem replies_cases (frames : List Frame) (handshake : Handshake) :
    replies (turns frames handshake) = [] ∨
      ∃ frame rest type payload, frames = frame :: rest ∧
        Answers handshake.keyPair frame handshake.stage (.reply type payload)
          (handshake.onFrame frame).state.stage ∧
        replies (turns frames handshake) =
          (type, payload) :: replies (turns rest (handshake.onFrame frame).state) := by
  cases frames with
  | nil => exact .inl rfl
  | cons frame rest =>
    cases answered : (handshake.turn frame).reply? with
    | none =>
      have final : IsFinal (handshake.turn frame).after := reply?_turn_eq_none_iff.1 answered
      left
      rw [turns, replies, List.filterMap_cons, answered]
      exact replies_of_isFinal rest final
    | some reply =>
      refine .inr ⟨frame, rest, reply.1, reply.2, rfl, ?_, ?_⟩
      · exact answers_of_turn (Turn.reply?_eq_some_iff.1 answered)
      · rw [turns, replies, List.filterMap_cons, answered]
        rfl

/-- When the public key has been sent nothing else follows. -/
theorem replies_of_publicKeySent (frames : List Frame) (stage : handshake.stage = .publicKeySent) :
    replies (turns frames handshake) = [] := by
  obtain nothing | ⟨frame, rest, type, payload, -, answers, -⟩ := replies_cases frames handshake
  · exact nothing
  · rw [stage] at answers
    contradiction

/-- When the signature has been sent only the public key follows, if anything does. -/
theorem replies_of_signatureSent (frames : List Frame) (stage : handshake.stage = .signatureSent) :
    ∃ publicKey, replies (turns frames handshake) <+: [(AuthType.publicKey, publicKey)] := by
  obtain nothing | ⟨frame, rest, type, payload, -, answers, sent⟩ := replies_cases frames handshake
  · exact ⟨[], by simp [nothing]⟩
  · rw [stage] at answers
    obtain ⟨rfl, last⟩ := offered_of_answers answers
    rw [sent, replies_of_publicKeySent rest last]
    exact ⟨payload, List.prefix_rfl⟩

/-- From the start on the signature is sent and then the public key, or less of this. -/
theorem replies_of_start (frames : List Frame) (stage : handshake.stage = .start) :
    ∃ signature publicKey, replies (turns frames handshake) <+:
      [(AuthType.signature, signature), (AuthType.publicKey, publicKey)] := by
  obtain nothing | ⟨frame, rest, type, payload, -, answers, sent⟩ := replies_cases frames handshake
  · exact ⟨[], [], by simp [nothing]⟩
  · rw [stage] at answers
    obtain ⟨rfl, next⟩ := signed_of_answers answers
    obtain ⟨publicKey, offered⟩ := replies_of_signatureSent rest next
    rw [sent]
    exact ⟨payload, publicKey, (List.prefix_cons_inj _).2 offered⟩

/-- **A handshake accepts exactly its protocol.** It may be fed any frames, also after it has failed
or connected. It connects at an announcement that has room for a payload and a banner that can be
read, if no frame before was the end and these frames are an opening: none, a token that the key
pair signs, or such a token and one more request while there is a public key. The first request is
answered with the signature of its token, the second with the public key, and every other frame is
a failure and final. So one token is signed at most, the public key is offered at most once and
behind the signature only, and without a key pair nothing is sent. -/
theorem accepts_exactly_protocol (keyPair : Option KeyPair) (frames : List Frame) :
    let log := turns frames { keyPair }
    log.map Turn.frame = frames ∧
    (∀ earlier turn later, log = earlier ++ turn :: later → turn.Accords keyPair earlier) ∧
    (∃ signature publicKey, replies log <+:
      [(AuthType.signature, signature), (AuthType.publicKey, publicKey)]) ∧
    (keyPair = none → replies log = []) := by
  intro log
  refine ⟨map_frame_turns frames { keyPair }, ?_, replies_of_start frames rfl, ?_⟩
  · intro earlier turn later split
    obtain ⟨front, frame, rfl, rfl⟩ := exists_of_turns_eq split
    exact accords keyPair front frame
  · rintro rfl
    obtain nothing | ⟨frame, rest, type, payload, -, answers, -⟩ :=
      replies_cases frames { keyPair := none }
    · exact nothing
    · obtain ⟨-, -, challenge⟩ | ⟨-, -, inquiry⟩ := answers_reply_iff.1 ⟨_, answers⟩
      · obtain ⟨pair, impossible, -⟩ := challenge.signed
        contradiction
      · obtain ⟨pair, impossible, -⟩ := inquiry.held
        contradiction

end DebugBridge.Handshake
