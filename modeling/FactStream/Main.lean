import FactStream.Command.Program

/-!
# The command line

Hands arguments, environment and standard input to the program and carries out
what it answers.  A pattern is read or not, and no account is kept of why it is
not, so there is only one explanation.
-/

open FactStream FactStream.Command

private def readVariables (names : List Text) : IO Environment := do
  let values ← names.mapM fun name => do
    let value ← IO.getEnv (String.ofList name)
    return value.map fun value => (name, value.toList)
  return ⟨values.filterMap id⟩

private partial def readInput (stream : IO.FS.Stream) (input : ByteArray) :
    IO ByteArray := do
  let chunk ← stream.read 65536
  if chunk.isEmpty then
    return input
  readInput stream (input ++ chunk)

/-- What is said of any text that is no pattern. -/
private def explainPattern (_ : Text) : Text :=
  "no regular expression".toList

def main (arguments : List String) : IO UInt32 := do
  let arguments := arguments.map String.toList
  let names := match readLine arguments with
    | .ok invocation => invocation.command.variableNames
    | .error _ => []
  let environment ← readVariables names
  let input ← match readLine arguments with
    | .ok _ => readInput (← IO.getStdin) .empty
    | .error _ => pure .empty
  let result := Program.run explainPattern arguments environment input.toList
  (← IO.getStdout).write result.output.toByteArray
  (← IO.getStdout).flush
  match result.ending with
  | .usage error => IO.eprintln s!"error: {repr error}"
  | .success summary => summary.forM fun text => IO.eprintln (String.ofList text)
  | .failure message => IO.eprintln (String.ofList message)
  return result.ending.exitCode.toUInt32
