import FactStream.Counting.KeyCount
import FactStream.Stage.Run

/-!
# Counting input in any order

One total is held for every key until the input ends.  The totals are kept in
ascending order of their keys, which is the order they are written in.
-/

namespace FactStream

/-- Totals in ascending order of their keys, each key once. -/
abbrev Totals := List KeyCount

namespace Totals

/-- Adds a count to the total of its key, in its place. -/
def add (next : KeyCount) : Totals → Except StageError Totals
  | [] => .ok [next]
  | total :: totals =>
      if total.key = next.key then
        (total.add next.count).map (· :: totals)
      else if next.key < total.key then
        .ok (next :: total :: totals)
      else
        (add next totals).map (total :: ·)

end Totals

namespace GroupedCount

def step (totals : Totals) (line : Text) : Reply Totals Outcome :=
  match KeyCount.ofLine line with
  | .error error => .refuse error totals
  | .ok next =>
      match totals.add next with
      | .error error => .refuse error totals
      | .ok totals => .pass totals .consumed

def finish (totals : Totals) : Reply Totals Unit :=
  .write (totals.map KeyCount.fact) [] [] ()

def stage : Stage Totals :=
  ⟨"count-hash-grouped".toList, [], step, finish⟩

end GroupedCount

end FactStream
