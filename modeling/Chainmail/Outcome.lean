import Mathlib.Logic.Basic

/-!
What a call on mutable state leaves behind. A thrown error does not undo the
writes made before it, so the state is part of the outcome either way.
-/

namespace Chainmail

universe u v w x
variable {State : Type u} {Thrown : Type v} {Result : Type w} {Next : Type x}

structure Outcome (State : Type u) (Thrown : Type v) (Result : Type w) where
  result : Except Thrown Result
  state : State

namespace Outcome

def returns (state : State) (value : Result) : Outcome State Thrown Result :=
  ⟨.ok value, state⟩

def throws (state : State) (error : Thrown) : Outcome State Thrown Result :=
  ⟨.error error, state⟩

def andThen (first : Outcome State Thrown Result)
    (next : Result → State → Outcome State Thrown Next) : Outcome State Thrown Next :=
  match first.result with
  | .ok value => next value first.state
  | .error error => throws first.state error

def Throws (outcome : Outcome State Thrown Result) : Prop :=
  ∃ error, outcome.result = .error error

@[simp] theorem returns_result (state : State) (value : Result) :
    (returns state value : Outcome State Thrown Result).result = .ok value := rfl

@[simp] theorem returns_state (state : State) (value : Result) :
    (returns state value : Outcome State Thrown Result).state = state := rfl

@[simp] theorem throws_result (state : State) (error : Thrown) :
    (throws state error : Outcome State Thrown Result).result = .error error := rfl

@[simp] theorem throws_state (state : State) (error : Thrown) :
    (throws state error : Outcome State Thrown Result).state = state := rfl

theorem andThen_of_ok {first : Outcome State Thrown Result} {value : Result}
    (next : Result → State → Outcome State Thrown Next) (ok : first.result = .ok value) :
    first.andThen next = next value first.state := by
  simp [andThen, ok]

theorem andThen_of_error {first : Outcome State Thrown Result} {error : Thrown}
    (next : Result → State → Outcome State Thrown Next) (failed : first.result = .error error) :
    first.andThen next = throws first.state error := by
  simp [andThen, failed]

@[simp] theorem returns_andThen (state : State) (value : Result)
    (next : Result → State → Outcome State Thrown Next) :
    (returns state value).andThen next = next value state := rfl

@[simp] theorem throws_andThen (state : State) (error : Thrown)
    (next : Result → State → Outcome State Thrown Next) :
    (throws state error).andThen next = throws state error := rfl

@[simp] theorem andThen_returns_state (call : Outcome State Thrown Result)
    (value : Result → Next) :
    (call.andThen fun result state => returns state (value result)).state = call.state := by
  cases returned : call.result with
  | ok result => rw [andThen_of_ok _ returned, returns_state]
  | error error => rw [andThen_of_error _ returned, throws_state]

theorem andThen_ok_iff (first : Outcome State Thrown Result)
    (next : Result → State → Outcome State Thrown Next) (final : Next) :
    (first.andThen next).result = .ok final ↔
      ∃ value, first.result = .ok value ∧ (next value first.state).result = .ok final := by
  cases returned : first.result with
  | ok value => simp [andThen_of_ok next returned]
  | error error => simp [andThen_of_error next returned]

-- A property of the state that both halves keep is kept by the whole call.
theorem andThen_keeps (holds : State → Prop) {first : Outcome State Thrown Result}
    {next : Result → State → Outcome State Thrown Next} (kept : holds first.state)
    (onward : ∀ value, first.result = .ok value → holds (next value first.state).state) :
    holds (first.andThen next).state := by
  cases returned : first.result with
  | ok value => simpa [andThen_of_ok next returned] using onward value returned
  | error error => simpa [andThen_of_error next returned] using kept

/-- Two calls leave one state, and both fail or both return one value. -/
structure Agrees (left right : Outcome State Thrown Result) : Prop where
  state : left.state = right.state
  result : left.result.toOption = right.result.toOption

theorem Agrees.refl (call : Outcome State Thrown Result) : Agrees call call := ⟨rfl, rfl⟩

theorem Agrees.of_throws {state : State} {one other : Thrown} :
    Agrees (throws state one : Outcome State Thrown Result) (throws state other) := ⟨rfl, rfl⟩

theorem Agrees.andThen {left right : Outcome State Thrown Result} (agrees : Agrees left right)
    {next other : Result → State → Outcome State Thrown Next}
    (onward : ∀ value, right.result = .ok value →
      Agrees (next value right.state) (other value right.state)) :
    Agrees (left.andThen next) (right.andThen other) := by
  obtain ⟨sameState, sameResult⟩ := agrees
  cases one : left.result with
  | ok value =>
      cases two : right.result with
      | ok again =>
          obtain rfl : value = again := by simpa [one, two, Except.toOption] using sameResult
          rw [andThen_of_ok next one, andThen_of_ok other two, sameState]
          exact onward value two
      | error => simp [one, two, Except.toOption] at sameResult
  | error =>
      cases two : right.result with
      | ok => simp [one, two, Except.toOption] at sameResult
      | error =>
          rw [andThen_of_error next one, andThen_of_error other two, sameState]
          exact .of_throws

end Outcome
end Chainmail
