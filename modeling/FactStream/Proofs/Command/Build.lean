import FactStream.Command.Basic
import FactStream.Proofs.Except

/-!
# The stages that commands build

Most commands build their stage whatever the environment holds.  A tagger needs
a pattern that can be read, and an extractor a column from the environment; what
is wrong with these is all that can keep a stage from being built.
-/

namespace FactStream.Command

variable {explain : Text → Text} {command : Command}
  {environment : Environment}

end FactStream.Command
