import FactStream.Counting.KeyCount

/-!
# Accumulating one run

An accumulator holds at most one run: a key and the sum of its counts since it
last changed.
-/

namespace FactStream

structure Accumulator where
  run : Option KeyCount
  deriving DecidableEq, Repr

namespace Accumulator

def empty : Accumulator := ⟨none⟩

def key? (accumulator : Accumulator) : Option Text :=
  accumulator.run.map KeyCount.key

/-- The sum held, zero if no run is held. -/
def count (accumulator : Accumulator) : Int :=
  (accumulator.run.map KeyCount.count).getD 0

/-- Gives up the run held. -/
def take (accumulator : Accumulator) : Option KeyCount × Accumulator :=
  (accumulator.run, empty)

/-- Adds a count to the run of its key.  A new key starts a new run, and the
run that ends is answered. -/
def advance (accumulator : Accumulator) (next : KeyCount) :
    Except StageError (Option KeyCount × Accumulator) :=
  match accumulator.run with
  | none => .ok (none, ⟨some next⟩)
  | some held =>
      if held.key = next.key then
        (held.add next.count).map fun sum => (none, ⟨some sum⟩)
      else
        .ok (some held, ⟨some next⟩)

end Accumulator

end FactStream
