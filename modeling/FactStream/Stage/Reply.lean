import FactStream.Fact
import FactStream.Failure

/-!
# Stages

A stage consumes lines one at a time and is told when they have ended.  To
either it replies with the facts to write and what becomes of its state.  A
reply is only a description: writing is done elsewhere, and may fail.
-/

namespace FactStream

/-- What became of a line: it was consumed, or it did not have the expected
shape and was ignored. -/
inductive Outcome where
  | consumed
  | skipped
  deriving DecidableEq, Repr

inductive Reply (State Answer : Type) where
  /-- The stage fails with nothing written, and goes on from `state`. -/
  | refuse (error : StageError) (state : State)
  /-- The facts are to be written in order.  Then the stage answers and goes
  on from `state`; if a write fails it goes on from `interrupted`. -/
  | write (facts : List Fact) (interrupted state : State) (answer : Answer)

namespace Reply

variable {State Answer : Type}

/-- A reply that writes nothing. -/
def pass (state : State) (answer : Answer) : Reply State Answer :=
  .write [] state state answer

/-- The state after the reply, if every write succeeds. -/
def state : Reply State Answer → State
  | refuse _ state => state
  | write _ _ state _ => state

end Reply

structure Stage (State : Type) where
  name : Text
  initial : State
  step : State → Text → Reply State Outcome
  finish : State → Reply State Unit

namespace Stage

/-- The end of the input for a stage that holds nothing back. -/
def finishEmpty {State : Type} (state : State) : Reply State Unit :=
  .pass state ()

end Stage

/-- A stage whose states are of any type. -/
structure AnyStage where
  State : Type
  stage : Stage State

end FactStream
