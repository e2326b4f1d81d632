import FactStream.Binary64.Shortest
import FactStream.Text.Numeral

/-!
# Percentages in writing

A percentage is written in plain decimal notation with at least one digit on
either side of the point.  An integer is written in full, any other number
with the fewest digits that read back as the same number.
-/

namespace FactStream.Percentage

/-- The digits of `value`, with zeros in front to make up `width` of them. -/
def padded (width value : Nat) : Text :=
  let digits := Numeral.ofNat value
  List.replicate (width - digits.length) '0' ++ digits

def decimalText (decimal : Binary64.Decimal) : Text :=
  let unit := Nat.pow 10 decimal.places
  Numeral.ofNat (decimal.digits / unit)
    ++ '.' :: padded decimal.places (decimal.digits % unit)

def signText (negative : Bool) : Text :=
  if negative then ['-'] else []

/-- The text of `mantissa * 2 ^ exponent`. -/
def magnitudeText (mantissa : Nat) (exponent : Int) : Text :=
  let halvings := (-exponent).toNat
  let unit := Nat.pow 2 halvings
  if mantissa % unit = 0 then
    Numeral.ofNat (mantissa * Nat.pow 2 exponent.toNat / unit) ++ ".0".toList
  else
    decimalText (Binary64.Fraction.shortest
      ⟨mantissa, halvings,
        mantissa = Binary64.leadingBit && Binary64.leastExponent < exponent⟩)

def numberText : Binary64 → Text
  | .notANumber => "NaN".toList
  | .infinite negative => signText negative ++ "inf".toList
  | .finite negative mantissa exponent =>
      signText negative ++ magnitudeText mantissa exponent

/-- The text of the number with these bits. -/
def text (bits : UInt64) : Text :=
  numberText (.ofBits bits)

end FactStream.Percentage
