import FactStream.Binary64.Dyadic

/-!
# The fewest decimal places that read back

The numbers that round to `mantissa * 2 ^ -halvings` form an interval whose
ends lie half way to the neighbouring numbers; the ends belong to it exactly
when the mantissa is even.  A decimal reads back if it lies in the interval.
If any decimal with some number of places does, one of the two nearest to the
number does, so only these are tried, with one place more each time.
-/

namespace FactStream.Binary64

/-- A number `mantissa / 2 ^ halvings` that is not an integer. -/
structure Fraction where
  mantissa : Nat
  halvings : Nat
  /-- The number below is only half as far away as the number above. -/
  closerBelow : Bool
  deriving DecidableEq, Repr

/-- The decimal `digits / 10 ^ places`. -/
structure Decimal where
  digits : Nat
  places : Nat
  deriving DecidableEq, Repr

namespace Fraction

/-- Whether the decimal lies in the interval of numbers that round to the
fraction, measured in quarters of the last bit. -/
def readsBack (number : Fraction) (decimal : Decimal) : Bool :=
  let point := decimal.digits * Nat.pow 2 (number.halvings + 2)
  let low := (4 * number.mantissa - if number.closerBelow then 1 else 2)
    * Nat.pow 10 decimal.places
  let high := (4 * number.mantissa + 2) * Nat.pow 10 decimal.places
  if number.mantissa % 2 = 0 then low ≤ point && point ≤ high
  else low < point && point < high

/-- The last decimal with that many places that is not above the number. -/
def floor (number : Fraction) (places : Nat) : Decimal :=
  ⟨number.mantissa * Nat.pow 10 places / Nat.pow 2 number.halvings, places⟩

/-- Whether the number is at least as near to the decimal after its floor as
to its floor. -/
def nearerAbove (number : Fraction) (places : Nat) : Bool :=
  let whole := Nat.pow 2 number.halvings
  whole ≤ 2 * (number.mantissa * Nat.pow 10 places % whole)

/-- Of the decimals with that many places that read back, the nearest; of two
equally near ones the greater. -/
def nearest? (number : Fraction) (places : Nat) : Option Decimal :=
  let below := number.floor places
  let above : Decimal := ⟨below.digits + 1, places⟩
  match number.readsBack below, number.readsBack above with
  | true, true => some (if number.nearerAbove places then above else below)
  | true, false => some below
  | false, true => some above
  | false, false => none

/-- Tries `places` and more, at most `attempts` numbers of places. -/
def search (number : Fraction) (places : Nat) : Nat → Decimal
  | 0 => number.floor places
  | attempts + 1 =>
      match number.nearest? places with
      | some decimal => decimal
      | none => search number (places + 1) attempts

/-- The nearest of the decimals with the fewest places that read back.  With
as many places as halvings the number itself is a decimal, so the search ends
there at the latest. -/
def shortest (number : Fraction) : Decimal :=
  number.search 1 number.halvings

end Fraction

end FactStream.Binary64
