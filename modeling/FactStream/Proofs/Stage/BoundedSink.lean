import FactStream.Command.Basic
import FactStream.Proofs.Stage.Traversal

/-!
# Runs with a sink that fills up

A bounded sink is an unbounded one that is cut off: as long as there is room a
stage cannot tell the two apart, and the first fact without room ends the run.
So the report of a run with a bound is the report without it, cut off at that
many bytes, and the cut is made once, at the end, for every stage.
-/

namespace FactStream

section Writing

variable {room : Nat}

end Writing

namespace RunReport

variable {room : Nat} {report : RunReport}

end RunReport

namespace Session

variable {State Answer : Type} {state : State} {room emitted : Nat}
  {facts : List Fact}

end Session

namespace Stage

variable {State : Type} (stage : Stage State)

end Stage

namespace Command

end Command

end FactStream
