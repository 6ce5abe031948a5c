import DebugBridge.Failure

/-!
# Outcomes

An operation on a piece of state gives a value or a failure, and in both cases the state it
leaves behind: what was done before a failure stays done.
-/

namespace DebugBridge

/-- The result of an operation, with the state after it. -/
inductive Outcome (State Value : Type) where
  | ok (value : Value) (state : State)
  | error (failure : Failure) (state : State)

namespace Outcome

variable {State Whole Value Next : Type}

/-- The state after the operation. -/
def state : Outcome State Value → State
  | ok _ state | error _ state => state

/-- The value or failure alone. -/
def result : Outcome State Value → Except Failure Value
  | ok value _ => .ok value
  | error failure _ => .error failure

/-- The outcome with a given result and state. -/
def ofResult : Except Failure Value → State → Outcome State Value
  | .ok value, state => ok value state
  | .error failure, state => error failure state

/-- The outcome of a part, seen from the whole that contains it. -/
def mapState (place : State → Whole) : Outcome State Value → Outcome Whole Value
  | ok value state => .ok value (place state)
  | error failure state => .error failure (place state)

/-- The same outcome with another value. -/
def map (f : Value → Next) : Outcome State Value → Outcome State Next
  | ok value state => .ok (f value) state
  | error failure state => .error failure state

/-- The same outcome with failures in another form. -/
def mapFailure (f : Failure → Failure) : Outcome State Value → Outcome State Value
  | ok value state => .ok value state
  | error failure state => .error (f failure) state

/-- Goes on after a success. -/
def andThen (outcome : Outcome State Value) (next : Value → State → Outcome State Next) :
    Outcome State Next :=
  match outcome with
  | ok value state => next value state
  | error failure state => .error failure state

@[simp] theorem state_ok (value : Value) (s : State) : (ok value s).state = s := rfl

@[simp] theorem state_error (failure : Failure) (s : State) :
    (error failure s : Outcome State Value).state = s := rfl

@[simp] theorem state_ofResult (result : Except Failure Value) (s : State) :
    (ofResult result s).state = s := by
  cases result <;> rfl

@[simp] theorem state_mapState (place : State → Whole) (outcome : Outcome State Value) :
    (outcome.mapState place).state = place outcome.state := by
  cases outcome <;> rfl

@[simp] theorem state_map (f : Value → Next) (outcome : Outcome State Value) :
    (outcome.map f).state = outcome.state := by
  cases outcome <;> rfl

@[simp] theorem state_mapFailure (f : Failure → Failure) (outcome : Outcome State Value) :
    (outcome.mapFailure f).state = outcome.state := by
  cases outcome <;> rfl

@[simp] theorem result_ofResult (result : Except Failure Value) (s : State) :
    (ofResult result s).result = result := by
  cases result <;> rfl

@[simp] theorem result_mapState (place : State → Whole) (outcome : Outcome State Value) :
    (outcome.mapState place).result = outcome.result := by
  cases outcome <;> rfl

@[simp] theorem result_map (f : Value → Next) (outcome : Outcome State Value) :
    (outcome.map f).result = outcome.result.map f := by
  cases outcome <;> rfl

/-- An outcome whose result is a value is a success with that value. -/
theorem eq_ok_of_toOption {value : Value} {outcome : Outcome State Value}
    (succeeded : outcome.result.toOption = some value) : outcome = .ok value outcome.state := by
  cases outcome with
  | ok => exact congrArg (ok · _) (Option.some.inj succeeded)
  | error => contradiction

/-- Changing the value twice is changing it once. -/
theorem map_map {Last : Type} (f : Value → Next) (g : Next → Last)
    (outcome : Outcome State Value) :
    (outcome.map f).map g = outcome.map fun value => g (f value) := by
  cases outcome <;> rfl

end Outcome
end DebugBridge
