import DebugBridge.Outcome

/-!
# Calls that are made again

Some failures only mean that the same call should be made again. To see what such failures change, a
state is compared with a calm one: it agrees with it but has no such failure in store. Then either a
call fares alike in both, or it fails temporarily where the calm state is on its way to the same
answer. Both this and the account of the failures that calls report carry over from the parts of a
state to the whole of it.
-/

namespace DebugBridge

variable {State Whole Value : Type}

/-- The same answer, and states that agree. -/
inductive Outcome.Agree (agrees : State → State → Prop) :
    Outcome State Value → Outcome State Value → Prop
  | ok {value : Value} {first second : State} (states : agrees first second) :
      Agree agrees (.ok value first) (.ok value second)
  | error {failure : Failure} {first second : State} (states : agrees first second) :
      Agree agrees (.error failure first) (.error failure second)

section Agree

variable {agrees : State → State → Prop} {first second : Outcome State Value}

/-- Outcomes that agree give the same answer. -/
theorem Outcome.Agree.result (agree : Agree agrees first second) :
    first.result = second.result := by
  cases agree <;> rfl

/-- What agrees with a success is one with the same value. -/
theorem Outcome.Agree.of_ok {value : Value} {first : State}
    (agree : Agree agrees (.ok value first) second) :
    ∃ state, second = .ok value state ∧ agrees first state := by
  cases agree with
  | ok states => exact ⟨_, rfl, states⟩

/-- What agrees with a failure is the same failure. -/
theorem Outcome.Agree.of_error {failure : Failure} {first : State}
    (agree : Agree agrees (.error failure first) second) :
    ∃ state, second = .error failure state ∧ agrees first state := by
  cases agree with
  | error states => exact ⟨_, rfl, states⟩

/-- Outcomes that agree leave states that agree. -/
theorem Outcome.Agree.state (agree : Agree agrees first second) :
    agrees first.state second.state := by
  cases agree with
  | ok states | error states => exact states

/-- Outcomes agree if they are the same seen from some side. -/
theorem Outcome.agree_of_mapState {view : State → Whole}
    (same : first.mapState view = second.mapState view) :
    Agree (fun first second => view first = view second) first second := by
  cases first with
  | ok value first =>
    cases second with
    | ok other second =>
      simp only [mapState, ok.injEq] at same
      obtain ⟨rfl, states⟩ := same
      exact .ok states
    | error => contradiction
  | error failure first =>
    cases second with
    | ok => contradiction
    | error other second =>
      simp only [mapState, error.injEq] at same
      obtain ⟨rfl, states⟩ := same
      exact .error states

/-- Outcomes still agree when their values are changed alike. -/
theorem Outcome.Agree.map {Next : Type} (agree : Agree agrees first second)
    (f : Value → Next) : Agree agrees (first.map f) (second.map f) := by
  cases agree with
  | ok states => exact .ok states
  | error states => exact .error states

/-- Outcomes still agree when their failures are put alike. -/
theorem Outcome.Agree.mapFailure (agree : Agree agrees first second)
    (f : Failure → Failure) : Agree agrees (first.mapFailure f) (second.mapFailure f) := by
  cases agree with
  | ok states => exact .ok states
  | error states => exact .error states

/-- What goes on alike from states that agree. -/
theorem Outcome.Agree.andThen {Next : Type} {next other : Value → State → Outcome State Next}
    (agree : Agree agrees first second)
    (later : ∀ value first second, agrees first second →
      Agree agrees (next value first) (other value second)) :
    Agree agrees (first.andThen next) (second.andThen other) := by
  cases agree with
  | ok states => exact later _ _ _ states
  | error states => exact .error states

/-- Outcomes of parts that agree are outcomes of wholes that agree. -/
theorem Outcome.Agree.mapState {wholes : Whole → Whole → Prop} {place other : State → Whole}
    (agree : Agree agrees first second)
    (placed : ∀ first second, agrees first second → wholes (place first) (other second)) :
    Agree wholes (first.mapState place) (second.mapState other) := by
  cases agree with
  | ok states => exact .ok (placed _ _ states)
  | error states => exact .error (placed _ _ states)

end Agree

/-- How a call fares in a state, compared with a calm one: alike, or it fails temporarily where the
calm state comes past on its way to the same answer. -/
inductive Resumes (agrees : State → State → Prop) (calm : State → Prop)
    (call : State → Outcome State Value) (rough smooth : State) : Prop
  | settled (outcomes : Outcome.Agree agrees (call rough) (call smooth)) :
      Resumes agrees calm call rough smooth
  | again {failure : Failure} {after middle : State} (failed : call rough = .error failure after)
      (transient : failure.isTransient = true) (states : agrees after middle)
      (still_calm : calm middle) (same : call middle = call smooth) :
      Resumes agrees calm call rough smooth

section Resumes

variable {agrees : State → State → Prop} {calm : State → Prop}
  {call : State → Outcome State Value} {rough smooth : State}

/-- A call may be seen from before steps after which it goes on. -/
theorem Resumes.of_before {first second : State}
    (resumes : Resumes agrees calm call rough smooth) (rough_steps : call first = call rough)
    (smooth_steps : call second = call smooth) : Resumes agrees calm call first second := by
  cases resumes with
  | settled outcomes =>
    rw [← rough_steps, ← smooth_steps] at outcomes
    exact .settled outcomes
  | again failed transient states still_calm same =>
    exact .again (rough_steps.trans failed) transient states still_calm
      (same.trans smooth_steps.symm)

/-- A call on a part of the state is one on the whole. -/
theorem Resumes.mapState {wholes : Whole → Whole → Prop} {calm_whole : Whole → Prop}
    {part : Whole → State} {place : Whole → State → Whole} {rough smooth : Whole}
    (resumes : Resumes agrees calm call (part rough) (part smooth))
    (placed : ∀ first second, agrees first second →
      wholes (place rough first) (place smooth second))
    (calm_placed : ∀ state, calm state → calm_whole (place smooth state))
    (part_place : ∀ state, part (place smooth state) = state)
    (place_place : ∀ state, place (place smooth state) = place smooth) :
    Resumes wholes calm_whole (fun whole => (call (part whole)).mapState (place whole))
      rough smooth := by
  cases resumes with
  | settled outcomes => exact .settled (outcomes.mapState placed)
  | again failed transient states still_calm same =>
    refine .again ?_ transient (placed _ _ states) (calm_placed _ still_calm) ?_
    · rw [failed, Outcome.mapState]
    · rw [part_place, place_place, same]

/-- A call whose value is changed afterwards. -/
theorem Resumes.map {Next : Type} (resumes : Resumes agrees calm call rough smooth)
    (f : Value → Next) :
    Resumes agrees calm (fun state => (call state).map f) rough smooth := by
  cases resumes with
  | settled outcomes => exact .settled (outcomes.map f)
  | again failed transient states still_calm same =>
    refine .again ?_ transient states still_calm (congrArg (Outcome.map f) same)
    rw [failed, Outcome.map]

/-- A call whose failures have another form, which is temporary only if they were. -/
theorem Resumes.mapFailure (resumes : Resumes agrees calm call rough smooth)
    {f : Failure → Failure}
    (kept : ∀ failure, (f failure).isTransient = failure.isTransient) :
    Resumes agrees calm (fun state => (call state).mapFailure f) rough smooth := by
  cases resumes with
  | settled outcomes => exact .settled (outcomes.mapFailure f)
  | @again failure after middle failed transient states still_calm same =>
    refine .again ?_ ((kept failure).trans transient) states still_calm
      (congrArg (Outcome.mapFailure f) same)
    rw [failed, Outcome.mapFailure]

end Resumes

/-- The failures that a state has in store: those that reads will report and that a repeated call
does not notice, and how many calls to the sink are answered out of the ordinary. -/
structure Troubles where
  reads : List IoKind
  writes : Nat

/-- What a call reports of the failures in store: the first one of those that reads will report, or
one of the sink, or nothing that is temporary. -/
inductive Reports (troubles : State → Troubles) (before : State) (outcome : Outcome State Value) :
    Prop
  | read {kind : IoKind} {after : State} (failed : outcome = .error (.ofKind kind) after)
      (transient : (Failure.ofKind kind).isTransient = true)
      (reads : (troubles before).reads = kind :: (troubles after).reads)
      (writes : (troubles after).writes ≤ (troubles before).writes) :
      Reports troubles before outcome
  | write {failure : Failure} {after : State} (failed : outcome = .error failure after)
      (reads : (troubles after).reads = (troubles before).reads)
      (writes : (troubles after).writes < (troubles before).writes) :
      Reports troubles before outcome
  | nothing (reads : (troubles outcome.state).reads = (troubles before).reads)
      (writes : (troubles outcome.state).writes ≤ (troubles before).writes)
      (lasting : ∀ failure, outcome.result = .error failure →
        failure.isTransient = false ∧ failure.isInterrupted = false) :
      Reports troubles before outcome

section Reports

variable {troubles : State → Troubles} {before after : State} {outcome : Outcome State Value}
  {failure : Failure}

/-- A call that succeeds has nothing to report. -/
theorem Reports.ok {value : Value}
    (reads : (troubles after).reads = (troubles before).reads)
    (writes : (troubles after).writes ≤ (troubles before).writes) :
    Reports troubles before (.ok value after) := by
  apply Reports.nothing reads writes
  intro failure failed
  contradiction

/-- A call may be seen from before steps that reported nothing. -/
theorem Reports.of_before {middle : State} (reports : Reports troubles middle outcome)
    (reads : (troubles middle).reads = (troubles before).reads)
    (writes : (troubles middle).writes ≤ (troubles before).writes) :
    Reports troubles before outcome := by
  cases reports with
  | read failed transient first fewer =>
    exact .read failed transient (reads.symm.trans first) (Nat.le_trans fewer writes)
  | write failed same fewer =>
    exact .write failed (same.trans reads) (Nat.lt_of_lt_of_le fewer writes)
  | nothing same fewer lasting =>
    exact .nothing (same.trans reads) (Nat.le_trans fewer writes) lasting

/-- A call on a part of the state reports the same as one on the whole. -/
theorem Reports.mapState {whole_troubles : Whole → Troubles} {place : State → Whole}
    (reports : Reports troubles before outcome)
    (placed : ∀ state, whole_troubles (place state) = troubles state) :
    Reports whole_troubles (place before) (outcome.mapState place) := by
  cases reports with
  | @read kind after failed transient reads writes =>
    rw [← placed, ← placed] at reads writes
    exact .read (by rw [failed, Outcome.mapState]) transient reads writes
  | @write failure after failed reads writes =>
    rw [← placed, ← placed] at reads writes
    exact .write (by rw [failed, Outcome.mapState]) reads writes
  | nothing reads writes lasting =>
    rw [← placed, ← placed] at reads writes
    refine .nothing ?_ ?_ ?_
    · rw [Outcome.state_mapState]
      exact reads
    · rw [Outcome.state_mapState]
      exact writes
    · cases outcome <;> exact lasting

/-- A call reports the same whatever is made of its value. -/
theorem Reports.map {Next : Type} (reports : Reports troubles before outcome)
    (f : Value → Next) : Reports troubles before (outcome.map f) := by
  cases reports with
  | read failed transient reads writes =>
    exact .read (by rw [failed, Outcome.map]) transient reads writes
  | write failed reads writes => exact .write (by rw [failed, Outcome.map]) reads writes
  | nothing reads writes lasting =>
    cases outcome with
    | ok value after => exact .ok reads writes
    | error failure after =>
      refine .nothing reads writes fun other failed => lasting other ?_
      cases failed
      rfl

/-- A failure that is passed on reports the same. -/
theorem Reports.pass_on {Next : Type} {whole_troubles : Whole → Troubles}
    {whole whole_after : Whole}
    (reports : Reports troubles before (.error failure after : Outcome State Value))
    (before_same : whole_troubles whole = troubles before)
    (after_same : whole_troubles whole_after = troubles after) :
    Reports whole_troubles whole (.error failure whole_after : Outcome Whole Next) := by
  cases reports with
  | read failed transient reads writes =>
    cases failed
    rw [← before_same, ← after_same] at reads writes
    exact .read rfl transient reads writes
  | write failed reads writes =>
    cases failed
    rw [← before_same, ← after_same] at reads writes
    exact .write rfl reads writes
  | nothing reads writes lasting =>
    rw [Outcome.state_error, ← before_same, ← after_same] at reads writes
    refine .nothing reads writes fun other failed => lasting other ?_
    cases failed
    rfl

/-- A success uses up no failure that a read would report. -/
theorem Reports.of_ok {value : Value}
    (reports : Reports troubles before (.ok value after)) :
    (troubles after).reads = (troubles before).reads ∧
      (troubles after).writes ≤ (troubles before).writes := by
  cases reports with
  | read failed | write failed => contradiction
  | nothing reads writes => exact ⟨reads, writes⟩

/-- A failure that is not temporary comes from none of those that a read would report. -/
theorem Reports.of_lasting
    (reports : Reports troubles before (.error failure after : Outcome State Value))
    (lasting : failure.isTransient = false) :
    (troubles after).reads = (troubles before).reads ∧
      (troubles after).writes ≤ (troubles before).writes := by
  cases reports with
  | read failed transient =>
    cases failed
    rw [lasting] at transient
    contradiction
  | write failed reads writes =>
    cases failed
    exact ⟨reads, Nat.le_of_lt writes⟩
  | nothing reads writes => exact ⟨reads, writes⟩

/-- A temporary failure has used up one of those in store. -/
theorem Reports.fewer
    (reports : Reports troubles before (.error failure after : Outcome State Value))
    (transient : failure.isTransient = true) :
    (troubles after).reads.length + (troubles after).writes <
      (troubles before).reads.length + (troubles before).writes := by
  cases reports with
  | read failed _ reads writes =>
    cases failed
    rw [reads, List.length_cons]
    omega
  | write failed reads writes =>
    cases failed
    rw [reads]
    omega
  | nothing _ _ lasting =>
    rw [(lasting failure rfl).1] at transient
    contradiction

/-- Where no failure of a read is in store there is none afterwards. -/
theorem Reports.calm (reports : Reports troubles before outcome)
    (calm : (troubles before).reads = []) : (troubles outcome.state).reads = [] := by
  cases reports with
  | read failed transient reads writes =>
    rw [calm] at reads
    contradiction
  | write failed reads writes =>
    rw [failed, Outcome.state_error, reads, calm]
  | nothing reads => rw [reads, calm]

end Reports

end DebugBridge
