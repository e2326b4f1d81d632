import FactStream.Counting.KeyCount
import FactStream.Percentage.Text

/-!
# Shares of a total

A table holds the count of every detection, in the order in which they were
first counted, and the total of all of them.  Both sums stay in the range of
counts: an addition that would take either out of it leaves the table as it
was.
-/

namespace FactStream

structure PercentageTable where
  entries : List KeyCount
  total : Int
  deriving DecidableEq, Repr

/-- The part of the total that a detection makes up, in percent. -/
structure Share where
  detection : Text
  percentage : Float

namespace PercentageTable

def empty : PercentageTable := ⟨[], 0⟩

def size (table : PercentageTable) : Nat :=
  table.entries.length

def isEmpty (table : PercentageTable) : Bool :=
  table.entries.isEmpty

/-- The place of a detection in the order of first counting. -/
def position? (table : PercentageTable) (detection : Text) : Option Nat :=
  table.entries.findIdx? fun entry => entry.key == detection

/-- Adds to the entry of a detection; one not seen before is put last. -/
def addEntry (added : KeyCount) :
    List KeyCount → Except StageError (List KeyCount)
  | [] => .ok [added]
  | entry :: entries =>
      if entry.key = added.key then
        (entry.add added.count).map (· :: entries)
      else
        (addEntry added entries).map (entry :: ·)

def add (table : PercentageTable) (added : KeyCount) :
    Except StageError PercentageTable :=
  match Count.add? table.total added.count with
  | none => .error (.countOverflow added.key)
  | some total => (addEntry added table.entries).map fun entries => ⟨entries, total⟩

/-- A count as a percentage of a total, each step rounded to the nearest
binary64 number. -/
def percentage (count total : Int) : Float :=
  Float.ofInt count / Float.ofInt total * 100.0

def shares (table : PercentageTable) : Except StageError (List Share) :=
  if table.isEmpty || table.total == 0 then
    .error .divideByZero
  else
    .ok (table.entries.map fun entry =>
      ⟨entry.key, percentage entry.count table.total⟩)

end PercentageTable

namespace Share

def text (share : Share) : Text :=
  Percentage.text share.percentage.toBits

def fact (share : Share) : Fact :=
  ⟨share.detection, share.text ++ ['%']⟩

end Share

end FactStream
