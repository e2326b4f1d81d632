import FactStream.Counting.Accumulator
import FactStream.Stage.Run

/-!
# Counting sorted input

Counts are added up over runs of equal keys, so one run is held at a time.  On
input that is not sorted by key, a key that comes back is counted anew.
-/

namespace FactStream.StreamingCount

/-- The fact of a run that has ended.  A run of the empty key has none. -/
def closingFacts : Option KeyCount → List Fact
  | some run => if run.key.isEmpty then [] else [run.fact]
  | none => []

def step (held : Accumulator) (line : Text) : Reply Accumulator Outcome :=
  match KeyCount.ofLine line with
  | .error error => .refuse error held
  | .ok next =>
      match held.advance next with
      | .error error => .refuse error held
      | .ok (ended, held) => .write (closingFacts ended) held held .consumed

def finish (held : Accumulator) : Reply Accumulator Unit :=
  let (ended, held) := held.take
  .write (closingFacts ended) held held ()

def stage : Stage Accumulator :=
  ⟨"count".toList, .empty, step, finish⟩

end FactStream.StreamingCount
