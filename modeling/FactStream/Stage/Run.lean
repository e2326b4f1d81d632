import FactStream.Stage.Session

/-!
# Runs

A run feeds every line of an input to a stage, trimmed, and then ends it.  The
first failure ends the run; what was written before it stays written.
-/

namespace FactStream

/-- The figures of a run that succeeded. -/
structure Summary where
  stage : Text
  linesRead : Nat
  linesEmitted : Nat
  linesSkipped : Nat
  deriving DecidableEq, Repr

/-- All that a run wrote, and its summary or its failure. -/
structure RunReport where
  output : Bytes
  result : Except Failure Summary

namespace RunReport

/-- The report of a run that had written `bytes` before. -/
def precededBy (bytes : Bytes) (report : RunReport) : RunReport :=
  { report with output := bytes ++ report.output }

def failed (failure : Failure) : RunReport :=
  ⟨[], .error failure⟩

end RunReport

namespace Outcome

/-- The number of lines that the outcome counts as skipped. -/
def skips : Outcome → Nat
  | consumed => 0
  | skipped => 1

end Outcome

namespace Stage

variable {State : Type}

/-- Ends the stage after `read` lines, of which `skipped` were skipped. -/
def conclude (stage : Stage State) (session : Session State)
    (read skipped : Nat) : RunReport :=
  let (response, session) := session.finish stage
  ⟨response.written,
    match response.result with
    | .ok () => .ok ⟨stage.name, read, session.emitted, skipped⟩
    | .error error => .error (.ofError error)⟩

/-- Reads on after `read` lines, of which `skipped` were skipped. -/
def runFrom (stage : Stage State) (session : Session State)
    (read skipped : Nat) : List Bytes → RunReport
  | [] => stage.conclude session read skipped
  | line :: lines =>
      match line.decode? with
      | none => .failed (.ofError (.stream .notUtf8))
      | some text =>
          let (response, session) := session.feed stage text.trim
          match response.result with
          | .error error =>
              ⟨response.written, .error ((Failure.ofError error).atLine (read + 1))⟩
          | .ok outcome =>
              (runFrom stage session (read + 1) (skipped + outcome.skips)
                lines).precededBy response.written

def run (stage : Stage State) (sink : Sink) (input : Bytes) : RunReport :=
  stage.runFrom (.start stage sink) 0 0 input.lines

end Stage

end FactStream
