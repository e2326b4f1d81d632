import FactStream.Text.Blank

/-!
# Decimal numerals

Counts and column numbers are read from decimal numerals: an optional sign,
then ASCII digits, nothing else.  Reading goes digit by digit and stops at the
first fault, so of a numeral that is both too long and malformed the fault
that comes first is the one reported.
-/

namespace FactStream

/-- Why a text is not a numeral of the wanted range. -/
inductive NumeralFault where
  | empty
  | invalidDigit
  | tooLarge
  | tooSmall
  deriving DecidableEq, Repr

namespace NumeralFault

def message : NumeralFault → Text
  | empty => "cannot parse integer from empty string".toList
  | invalidDigit => "invalid digit found in string".toList
  | tooLarge => "number too large to fit in target type".toList
  | tooSmall => "number too small to fit in target type".toList

end NumeralFault

namespace Numeral

def digit? (character : Char) : Option Nat :=
  if '0' ≤ character ∧ character ≤ '9' then
    some (character.toNat - '0'.toNat)
  else
    none

/-- Reads on from `value`; the first digit that takes it past `limit` is
answered by `beyond`. -/
def magnitude (limit : Nat) (beyond : NumeralFault) (value : Nat) :
    Text → Except NumeralFault Nat
  | [] => .ok value
  | character :: rest =>
      match digit? character with
      | none => .error .invalidDigit
      | some digit =>
          if value * 10 + digit ≤ limit then
            magnitude limit beyond (value * 10 + digit) rest
          else
            .error beyond

/-- The largest natural number that a column number or a line count can be. -/
def naturalLimit : Nat := 0xFFFFFFFFFFFFFFFF

/-- A numeral for a natural number: a plus sign is allowed, a minus sign is
an invalid digit. -/
def readNatural : Text → Except NumeralFault Nat
  | [] => .error .empty
  | ['+'] => .error .invalidDigit
  | '+' :: digits => magnitude naturalLimit .tooLarge 0 digits
  | digits => magnitude naturalLimit .tooLarge 0 digits

/-- Counts are at least `-integerLimit` and less than `integerLimit`. -/
def integerLimit : Nat := 0x8000000000000000

/-- A numeral for an integer in the range of counts. -/
def readInteger : Text → Except NumeralFault Int
  | [] => .error .empty
  | ['+'] => .error .invalidDigit
  | ['-'] => .error .invalidDigit
  | '+' :: digits =>
      (magnitude (integerLimit - 1) .tooLarge 0 digits).map Int.ofNat
  | '-' :: digits =>
      (magnitude integerLimit .tooSmall 0 digits).map fun value => -(value : Int)
  | digits =>
      (magnitude (integerLimit - 1) .tooLarge 0 digits).map Int.ofNat

def ofNat (value : Nat) : Text :=
  Nat.toDigits 10 value

def ofInt : Int → Text
  | .ofNat value => ofNat value
  | .negSucc value => '-' :: ofNat (value + 1)

end Numeral

end FactStream
