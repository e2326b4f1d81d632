import FactStream.Text.Numeral
import FactStream.Text.Quoted

/-!
# Failures

A stage fails for a cause, and a run that was reading a line when it failed
says which.  Trouble with the streams themselves concerns no line, so it never
carries a line number.
-/

namespace FactStream

/-- Why a stream could not be read or written. -/
inductive StreamFault where
  | notUtf8
  | outputFull
  | other (text : Text)
  deriving DecidableEq, Repr

namespace StreamFault

def message : StreamFault → Text
  | notUtf8 => "stream did not contain valid UTF-8".toList
  | outputFull => "failed to write whole buffer".toList
  | other text => text

end StreamFault

/-- What is wrong with the configuration of a stage. -/
inductive ConfigurationFault where
  | columnNotInHeader (name header : Text)
  | columnBeforeHeader (name : Text)
  /-- The pattern is quoted, and what reads patterns explains what is wrong. -/
  | invalidPattern (pattern explanation : Text)
  | invalidJoinColumn (variableName value : Text) (fault : NumeralFault)
  | other (text : Text)
  deriving DecidableEq, Repr

namespace ConfigurationFault

def message : ConfigurationFault → Text
  | columnNotInHeader name header =>
      "column '".toList ++ name ++ "' not found in header '".toList ++ header
        ++ ['\'']
  | columnBeforeHeader name =>
      "column '".toList ++ name
        ++ "' requested by name but no header row precedes the data".toList
  | invalidPattern pattern explanation =>
      "invalid pattern '".toList ++ pattern ++ "': ".toList ++ explanation
  | invalidJoinColumn variableName value fault =>
      variableName ++ " must be a non-negative column index, got '".toList
        ++ value ++ "': ".toList ++ fault.message
  | other text => text

end ConfigurationFault

/-- Why a stage fails. -/
inductive StageError where
  | stream (fault : StreamFault)
  | configuration (fault : ConfigurationFault)
  | malformedRecord (index fields : Nat)
  | invalidCount (value : Text) (fault : NumeralFault)
  | joinArity (key : Text) (tags : List Text)
  | divideByZero
  | countOverflow (key : Text)
  deriving DecidableEq, Repr

namespace StageError

def message : StageError → Text
  | stream fault => "IO error: ".toList ++ fault.message
  | configuration fault => "Configuration error: ".toList ++ fault.message
  | malformedRecord index fields =>
      "Malformed record: field ".toList ++ Numeral.ofNat index
        ++ " requested but record has ".toList ++ Numeral.ofNat fields
        ++ " field(s)".toList
  | invalidCount value _ => "Invalid count '".toList ++ value ++ ['\'']
  | joinArity key tags =>
      "Join arity error: key '".toList ++ key ++ "' has ".toList
        ++ Numeral.ofNat tags.length ++ " distinct dataset tag(s) ".toList
        ++ Text.quotedList tags ++ ", expected 2".toList
  | divideByZero =>
      "Division by zero: no counted records to compute percentages from".toList
  | countOverflow key =>
      "Count overflow: total for key '".toList ++ key
        ++ "' exceeds the supported range".toList

/-- The message of the fault that the error comes from, where there is one. -/
def cause? : StageError → Option Text
  | stream fault => some fault.message
  | invalidCount _ fault => some fault.message
  | _ => none

def isStream : StageError → Bool
  | stream _ => true
  | _ => false

end StageError

/-- An error, and the number of the line it was found at if it has one. -/
structure Failure where
  line : Option Nat
  error : StageError
  deriving DecidableEq, Repr

namespace Failure

/-- A failure of no particular line. -/
def ofError (error : StageError) : Failure :=
  ⟨none, error⟩

/-- The failure as found at `line`.  A line that is already known stays, and
stream faults get none. -/
def atLine (failure : Failure) (line : Nat) : Failure :=
  match failure.line with
  | some _ => failure
  | none =>
      if failure.error.isStream then failure else ⟨some line, failure.error⟩

/-- A stream fault is found at no line. -/
theorem atLine_of_isStream {error : StageError} (herror : error.isStream)
    (line : Nat) : (ofError error).atLine line = .ofError error := by
  rw [ofError, atLine]
  exact if_pos herror

/-- Any other error is found at the line that it is about. -/
theorem atLine_of_not_isStream {error : StageError}
    (herror : error.isStream = false) (line : Nat) :
    (ofError error).atLine line = ⟨some line, error⟩ := by
  rw [ofError, atLine]
  exact if_neg (Bool.eq_false_iff.mp herror)

def lineMessage (line : Nat) : Text :=
  "line ".toList ++ Numeral.ofNat line

/-- The message of the failure alone: its line if it has one, else its
error. -/
def message (failure : Failure) : Text :=
  match failure.line with
  | some line => lineMessage line
  | none => failure.error.message

/-- All messages, from the outermost to the deepest. -/
def messages (failure : Failure) : List Text :=
  failure.line.toList.map lineMessage
    ++ failure.error.message :: failure.error.cause?.toList

/-- The messages that follow `contexts`, joined in one line. -/
def report (contexts : List Text) (failure : Failure) : Text :=
  ": ".toList.intercalate (contexts ++ failure.messages)

end Failure

end FactStream
