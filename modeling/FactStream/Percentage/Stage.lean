import FactStream.Percentage.Table
import FactStream.Stage.Run

/-!
# Percentages of the counts in an input

Lines of three fields, any key, a detection and a count, fill a table; other
lines are ignored.  The shares need the final total, so they are written when
the input has ended.
-/

namespace FactStream.Percentage

def step (table : PercentageTable) (line : Text) :
    Reply PercentageTable Outcome :=
  match Fact.fields line with
  | [_, detection, count] =>
      match (Count.read count).bind fun count => table.add ⟨detection, count⟩ with
      | .error error => .refuse error table
      | .ok table => .pass table .consumed
  | _ => .pass table .skipped

/-- The table stays as it is, so an input that goes on after its end goes on
from the counts so far. -/
def finish (table : PercentageTable) : Reply PercentageTable Unit :=
  match table.shares with
  | .error error => .refuse error table
  | .ok shares => .write (shares.map Share.fact) table table ()

def stage : Stage PercentageTable :=
  ⟨"percentage".toList, .empty, step, finish⟩

end FactStream.Percentage
