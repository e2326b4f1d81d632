import FactStream.Fact
import FactStream.Failure

/-!
# Keys and their counts

A count is an integer of 64 bits with sign.  Sums of counts are exact: one that
leaves the range is refused, never wrapped.
-/

namespace FactStream

namespace Count

def inRange (count : Int) : Bool :=
  -(Numeral.integerLimit : Int) ≤ count && count < Numeral.integerLimit

/-- The sum of two counts, unless it is out of range. -/
def add? (left right : Int) : Option Int :=
  if inRange (left + right) then some (left + right) else none

/-- Reads a count with blanks around it.  The error carries the text as it
was. -/
def read (text : Text) : Except StageError Int :=
  (Numeral.readInteger text.trim).mapError (.invalidCount text)

end Count

/-- A key and a count of it. -/
structure KeyCount where
  key : Text
  count : Int
  deriving DecidableEq, Repr

namespace KeyCount

/-- The key of a line that is only a count. -/
def emptyKeyLabel : Text := "EmptyString".toList

/-- Reads `key`, tab, `count`, or a count alone.  Fields after the second are
ignored. -/
def ofLine (line : Text) : Except StageError KeyCount :=
  match Fact.fields line with
  | key :: count :: _ => (Count.read count).map (KeyCount.mk key)
  | _ => (Count.read line).map (KeyCount.mk emptyKeyLabel)

def fact (total : KeyCount) : Fact :=
  ⟨total.key, Numeral.ofInt total.count⟩

/-- Adds to the count, unless the sum is out of range. -/
def add (total : KeyCount) (count : Int) : Except StageError KeyCount :=
  match Count.add? total.count count with
  | some sum => .ok ⟨total.key, sum⟩
  | none => .error (.countOverflow total.key)

end KeyCount

end FactStream
