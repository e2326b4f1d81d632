import FactStream.Command.Program
import FactStream.Proofs.Stage.Traversal

/-!
# How the program ends

On a command line that can be read the program does what the command does: it
writes the same bytes, and it exits with 0 exactly when the command succeeds.
Otherwise it says what failed, where, and why.  The message of an error comes
before the message of its cause, and the message of a stream fault is the
message of its cause as well, so that cause is said twice.
-/

namespace FactStream

namespace StageError

end StageError

namespace Command.Program

/-- What explains a bad pattern is part of the message, not a cause of its own. -/
example :
    failureText (.patternTag ['('] none)
        (.ofError (.configuration
          (.invalidPattern ['('] "unclosed group".toList))) =
      "Error: pattern-tag stage failed: Configuration error: ".toList
        ++ "invalid pattern '(': unclosed group".toList := by
  decide

end Command.Program

end FactStream
