import FactStream.Command.Line

/-!
# The program

The whole program as a function of its arguments, its environment and its
input.  Data go to standard output; all else, errors and the summary if it is
asked for, goes to standard error.
-/

namespace FactStream.Command

namespace Program

/-- How the program ends. -/
inductive Ending where
  /-- The command line is not carried out. -/
  | usage (error : UsageError)
  /-- The stage succeeded; the summary is there if it is asked for. -/
  | success (summary : Option Text)
  /-- The stage failed, and this is said about it. -/
  | failure (message : Text)
  deriving DecidableEq, Repr

namespace Ending

def exitCode : Ending → Nat
  | usage error => error.exitCode
  | success _ => 0
  | failure _ => 1

end Ending

/-- A member of a summary. -/
def memberText (name : Text) (value : Text) : Text :=
  '"' :: name ++ '"' :: ':' :: value

/-- The summary in one line.  Stage names need no escapes. -/
def summaryText (summary : Summary) : Text :=
  '\x7b' :: [','].intercalate
    [memberText "stage".toList ('"' :: summary.stage ++ ['"']),
      memberText "lines_read".toList (Numeral.ofNat summary.linesRead),
      memberText "lines_emitted".toList (Numeral.ofNat summary.linesEmitted),
      memberText "lines_skipped".toList (Numeral.ofNat summary.linesSkipped)]
    ++ ['\x7d']

/-- What is said of a failure: the command, the line if there is one, the
error and its cause. -/
def failureText (command : Command) (failure : Failure) : Text :=
  "Error: ".toList ++ failure.report [command.name ++ " stage failed".toList]

/-- What the program writes to standard output, and how it ends. -/
structure Result where
  output : Bytes
  ending : Ending
  deriving DecidableEq, Repr

def ofReport (invocation : Invocation) (report : RunReport) : Result :=
  ⟨report.output,
    match report.result with
    | .ok summary =>
        .success (if invocation.summary then some (summaryText summary) else none)
    | .error failure => .failure (failureText invocation.command failure)⟩

def run (explain : Text → Text) (arguments : List Text)
    (environment : Environment) (input : Bytes) : Result :=
  match readLine arguments with
  | .error error => ⟨[], .usage error⟩
  | .ok invocation =>
      ofReport invocation
        (invocation.command.execute explain environment .unbounded input)

end Program

end FactStream.Command
