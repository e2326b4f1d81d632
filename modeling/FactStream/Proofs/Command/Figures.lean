import FactStream.Proofs.Command.Build
import FactStream.Proofs.Counting.Invariant
import FactStream.Proofs.Join.Invariant
import FactStream.Proofs.Percentage.Invariant
import FactStream.Proofs.Selection.Invariant

/-!
# What the figures of a run say

A summary states how many lines were read, how many facts were written and how
many lines were skipped.  Facts without line feeds make one line each, so the
number of facts can be read off the output, and how it is bound to the other
two figures is a matter of the stage.
-/

namespace FactStream

namespace Stage

variable {State : Type} {stage : Stage State} {Holds : Progress State → Prop}
  {Agree : Nat → Nat → Nat → Prop}

end Stage

namespace Command

end Command

end FactStream
