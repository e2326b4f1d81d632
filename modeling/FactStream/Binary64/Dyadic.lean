/-!
# Binary floating point, exactly

A finite binary64 number is a whole number times a power of two.  Working on
these two numbers keeps everything that follows exact.
-/

namespace FactStream

/-- What a word of 64 bits denotes. -/
inductive Binary64 where
  | notANumber
  | infinite (negative : Bool)
  /-- The number `mantissa * 2 ^ exponent`, negated if `negative`. -/
  | finite (negative : Bool) (mantissa : Nat) (exponent : Int)
  deriving DecidableEq, Repr

namespace Binary64

/-- The mantissa of normal numbers is at least this, and less than twice
this. -/
def leadingBit : Nat := 0x10000000000000

/-- The exponent of the smallest numbers. -/
def leastExponent : Int := -1074

def ofBits (bits : UInt64) : Binary64 :=
  let negative := 0x8000000000000000 ≤ bits.toNat
  let scale := bits.toNat / leadingBit % 2048
  let fraction := bits.toNat % leadingBit
  if scale = 2047 then
    if fraction = 0 then infinite negative else notANumber
  else if scale = 0 then
    finite negative fraction leastExponent
  else
    finite negative (leadingBit + fraction) (leastExponent + (scale - 1 : Nat))

end Binary64

end FactStream
