import FactStream.Proofs.Binary64.Value
import Mathlib.Algebra.Order.Group.Abs

/-!
# Rounding to the nearest

A number is rounded to the nearest of the finite ones and, of two equally near
ones, to that with an even mantissa, unless it is so great that it is rounded to
infinity.  Its word is determined by this, since one of two neighbours has an odd
mantissa.  The numbers that are rounded to one with a positive mantissa reach
half a step in either direction.
-/

namespace FactStream.Binary64

/-- Half a step above the greatest finite number. -/
def overflowBound : ℚ :=
  2 ^ 1024 - 2 ^ 970

/-- No word denotes a nearer one. -/
def IsNearest (number value : ℚ) : Prop :=
  ∀ bits other, (ofBits bits).value? = some other →
    |number - value| ≤ |number - other|

/-- Some word denotes another one that is just as near. -/
def IsTie (number value : ℚ) : Prop :=
  ∃ bits other, (ofBits bits).value? = some other ∧ other ≠ value ∧
    |number - other| = |number - value|

/-- The number with this mantissa and this exponent is the nearest; if another
is just as near, the mantissa is even. -/
structure IsNearestEven (number : ℚ) (mantissa : Nat) (exponent : Int) :
    Prop where
  nearest : IsNearest number (signed (number < 0) (magnitude mantissa exponent))
  even : IsTie number (signed (number < 0) (magnitude mantissa exponent)) →
    mantissa % 2 = 0

/-- Rounding to the nearest, ties to even. -/
inductive RoundsTo (number : ℚ) (bits : UInt64) : Prop
  | infinite (hsize : overflowBound ≤ |number|)
      (hbits : ofBits bits = .infinite (number < 0))
  | finite {mantissa : Nat} {exponent : Int} (hsize : |number| < overflowBound)
      (hbits : ofBits bits = .finite (number < 0) mantissa exponent)
      (hnearest : IsNearestEven number mantissa exponent)

/-- The sizes that are rounded to a mantissa and an exponent. -/
structure IsWithin (size : ℚ) (mantissa : Nat) (exponent : Int) : Prop where
  low_le : magnitude mantissa exponent - stepBelow mantissa exponent / 2 ≤ size
  le_high : size ≤ magnitude mantissa exponent + 2 ^ exponent / 2
  even_of_eq_low :
    size = magnitude mantissa exponent - stepBelow mantissa exponent / 2 →
      mantissa % 2 = 0
  even_of_eq_high :
    size = magnitude mantissa exponent + 2 ^ exponent / 2 → mantissa % 2 = 0

section Signs

variable {number size other : ℚ} {negative : Bool}

theorem abs_signed (hsize : 0 ≤ size) : |signed negative size| = size := by
  cases negative
  · exact abs_of_nonneg hsize
  · rw [signed, if_pos rfl, abs_neg, abs_of_nonneg hsize]

theorem signed_inj :
    signed negative size = signed negative other ↔ size = other := by
  cases negative
  · exact Iff.rfl
  · exact neg_inj

theorem signed_not : signed (!negative) size = -signed negative size := by
  cases negative
  · rfl
  · exact (neg_neg size).symm

/-- A number is as far from one of its sign as their sizes are apart. -/
theorem abs_sub_signed :
    |number - signed (number < 0) size| = |(|number| - size)| := by
  obtain hneg | hnonneg := lt_or_ge number 0
  · rw [abs_of_neg hneg, signed, if_pos (decide_eq_true hneg), sub_neg_eq_add,
      ← abs_neg, neg_add']
  · rw [abs_of_nonneg hnonneg, signed, if_neg (by simpa using hnonneg)]

/-- One of the other sign is no nearer. -/
theorem abs_abs_sub_le (hsize : 0 ≤ size) :
    |(|number| - size)| ≤ |number - signed negative size| := by
  have hsizes := abs_abs_sub_abs_le number (signed negative size)
  rwa [abs_signed hsize] at hsizes

/-- Of two opposite numbers, that of the same sign is nearer. -/
theorem signed_eq_of_abs_eq (hnumber : number ≠ 0)
    (hequal : |number - signed negative size| =
      |number - signed (number < 0) size|) :
    signed negative size = signed (number < 0) size := by
  by_cases hsign : negative = decide (number < 0)
  · rw [hsign]
  · rw [Bool.eq_not_of_ne hsign, signed_not] at hequal ⊢
    obtain hsame | hopposite := abs_eq_abs.mp hequal
    · linarith
    · exact absurd (by linarith) hnumber

end Signs

section Uniqueness

variable {number size : ℚ} {mantissa other : Nat} {exponent otherExponent : Int}

theorem IsNearest.abs_le
    (hnearest : IsNearest number (signed (number < 0) size))
    (hother : IsCanonical other otherExponent) :
    |(|number| - size)| ≤ |(|number| - magnitude other otherExponent)| := by
  obtain ⟨bits, hbits⟩ := exists_word (number < 0) hother
  rw [← abs_sub_signed, ← abs_sub_signed]
  exact hnearest bits _ (by rw [hbits, value?])

theorem isTie_of_abs_eq (hother : IsCanonical other otherExponent)
    (hne : magnitude other otherExponent ≠ size)
    (hequal : |(|number| - magnitude other otherExponent)| =
      |(|number| - size)|) :
    IsTie number (signed (number < 0) size) := by
  obtain ⟨bits, hbits⟩ := exists_word (number < 0) hother
  refine ⟨bits, _, by rw [hbits, value?], ?_, ?_⟩
  · rwa [Ne, signed_inj]
  · rw [abs_sub_signed, abs_sub_signed, hequal]

theorem abs_sub_lt_of_half_way {low middle high : ℚ} (hlow : low < middle)
    (hhigh : middle < high) (hequal : |size - low| = |size - high|) :
    |size - middle| < |size - low| := by
  obtain hsame | hopposite := abs_eq_abs.mp hequal
  · linarith
  · have hpos : 0 < size - low := by linarith
    rw [abs_of_pos hpos, abs_lt]
    constructor <;> linarith

/-- Between two numbers with even mantissas there is a third, which is nearer to
what lies half way. -/
theorem IsNearestEven.not_lt
    (hnearest : IsNearestEven number mantissa exponent)
    (hnearestOther : IsNearestEven number other otherExponent)
    (hcanonical : IsCanonical mantissa exponent)
    (hother : IsCanonical other otherExponent) :
    ¬ magnitude mantissa exponent < magnitude other otherExponent := by
  intro hlt
  have hequal : |(|number| - magnitude mantissa exponent)| =
      |(|number| - magnitude other otherExponent)| :=
    le_antisymm (hnearest.nearest.abs_le hother)
      (hnearestOther.nearest.abs_le hcanonical)
  have heven : mantissa % 2 = 0 :=
    hnearest.even (isTie_of_abs_eq hother hlt.ne' hequal.symm)
  have hevenOther : other % 2 = 0 :=
    hnearestOther.even (isTie_of_abs_eq hcanonical hlt.ne hequal)
  have hnext : IsCanonical (mantissa + 1) exponent := by
    obtain ⟨hrange, hleast, hgreatest, hleading⟩ := hcanonical
    refine ⟨?_, hleast, hgreatest, fun hexponent =>
      (hleading hexponent).trans (Nat.le_succ mantissa)⟩
    rw [leadingBit] at *
    omega
  have hbelow :
      magnitude mantissa exponent < magnitude (mantissa + 1) exponent :=
    magnitude_lt_iff.mpr (Nat.lt_succ_self mantissa)
  have habove :
      magnitude (mantissa + 1) exponent < magnitude other otherExponent := by
    refine lt_of_le_of_ne (magnitude_succ_le hcanonical hother hlt) ?_
    intro hsame
    have hsucc := (eq_of_magnitude_eq hnext hother hsame).1
    omega
  exact (hnearest.nearest.abs_le hnext).not_gt
    (abs_sub_lt_of_half_way hbelow habove hequal)

/-- No number is rounded to two words. -/
theorem RoundsTo.unique {bits otherBits : UInt64} (hbits : RoundsTo number bits)
    (hother : RoundsTo number otherBits) : bits = otherBits := by
  cases hbits with
  | infinite hsize hbits =>
      cases hother with
      | infinite _ hother =>
          exact ofBits_injective (hbits.trans hother.symm) (by simp [hother])
      | finite hlt => exact absurd hlt hsize.not_gt
  | finite hlt hbits hnearest =>
      cases hother with
      | infinite hsize => exact absurd hlt hsize.not_gt
      | finite _ hother hnearestOther =>
          have hcanonical := (toNat_eq_word hbits).1
          have hcanonicalOther := (toNat_eq_word hother).1
          have hle := not_lt.mp
            (hnearestOther.not_lt hnearest hcanonicalOther hcanonical)
          have hge := not_lt.mp
            (hnearest.not_lt hnearestOther hcanonical hcanonicalOther)
          obtain ⟨rfl, rfl⟩ := eq_of_magnitude_eq hcanonical hcanonicalOther
            (le_antisymm hle hge)
          exact ofBits_injective (hbits.trans hother.symm) (by simp [hother])

end Uniqueness

section Interval

variable {number size : ℚ} {mantissa other : Nat} {exponent otherExponent : Int}

theorem stepBelow_pos : 0 < stepBelow mantissa exponent := by
  rw [stepBelow]
  split <;> positivity

/-- A number below is no nearer, and just as near only to the lower end. -/
theorem IsWithin.abs_le_of_below (hwithin : IsWithin size mantissa exponent)
    {value : ℚ}
    (hvalue : value ≤
      magnitude mantissa exponent - stepBelow mantissa exponent) :
    |size - magnitude mantissa exponent| ≤ |size - value| ∧
      (|size - value| = |size - magnitude mantissa exponent| →
        mantissa % 2 = 0) := by
  have hstep : 0 < stepBelow mantissa exponent := stepBelow_pos
  have hlow := hwithin.low_le
  have hpos : 0 < size - value := by linarith
  rw [abs_of_pos hpos]
  obtain hbelow | habove := le_total size (magnitude mantissa exponent)
  · rw [abs_of_nonpos (by linarith)]
    exact ⟨by linarith, fun _ => hwithin.even_of_eq_low (by linarith)⟩
  · rw [abs_of_nonneg (by linarith)]
    exact ⟨by linarith, fun _ => by linarith⟩

theorem IsWithin.abs_le_of_above (hwithin : IsWithin size mantissa exponent)
    {value : ℚ}
    (hvalue : magnitude mantissa exponent + 2 ^ exponent ≤ value) :
    |size - magnitude mantissa exponent| ≤ |size - value| ∧
      (|size - value| = |size - magnitude mantissa exponent| →
        mantissa % 2 = 0) := by
  have hstep : (0 : ℚ) < 2 ^ exponent := by positivity
  have hhigh := hwithin.le_high
  have hneg : size - value < 0 := by linarith
  rw [abs_of_neg hneg]
  obtain hbelow | habove := le_total size (magnitude mantissa exponent)
  · rw [abs_of_nonpos (by linarith)]
    exact ⟨by linarith, fun _ => by linarith⟩
  · rw [abs_of_nonneg (by linarith)]
    exact ⟨by linarith, fun _ => hwithin.even_of_eq_high (by linarith)⟩

theorem IsWithin.abs_le (hwithin : IsWithin size mantissa exponent)
    (hcanonical : IsCanonical mantissa exponent)
    (hother : IsCanonical other otherExponent) :
    |size - magnitude mantissa exponent| ≤
        |size - magnitude other otherExponent| ∧
      (magnitude other otherExponent ≠ magnitude mantissa exponent →
        |size - magnitude other otherExponent| =
            |size - magnitude mantissa exponent| →
          mantissa % 2 = 0) := by
  obtain hbelow | hequal | habove := lt_trichotomy
    (magnitude other otherExponent) (magnitude mantissa exponent)
  · have hstep := magnitude_le_sub_stepBelow hcanonical hother hbelow
    exact (hwithin.abs_le_of_below hstep).imp_right fun heven _ => heven
  · rw [hequal]
    exact ⟨le_rfl, fun hne => absurd rfl hne⟩
  · have hstep := magnitude_succ_le hcanonical hother habove
    rw [magnitude_succ] at hstep
    exact (hwithin.abs_le_of_above hstep).imp_right fun heven _ => heven

theorem IsWithin.size_pos (hwithin : IsWithin size mantissa exponent)
    (hpos : 0 < mantissa) : 0 < size := by
  have hstep : (0 : ℚ) < 2 ^ exponent := by positivity
  have hsmall : stepBelow mantissa exponent ≤ 2 ^ exponent := stepBelow_le
  have hmantissa : 2 ^ exponent ≤ magnitude mantissa exponent := by
    have hone : magnitude 1 exponent ≤ magnitude mantissa exponent :=
      magnitude_le_iff.mpr hpos
    rwa [magnitude, Nat.cast_one, one_mul] at hone
  linarith [hwithin.low_le]

theorem IsWithin.size_lt (hwithin : IsWithin size mantissa exponent)
    (hcanonical : IsCanonical mantissa exponent) (hexponent : exponent ≤ 0) :
    size < overflowBound := by
  have hstep : (2 : ℚ) ^ exponent ≤ 1 :=
    zpow_le_one_of_nonpos₀ (by norm_num) hexponent
  have hmantissa : (mantissa : ℚ) ≤ 2 * leadingBit := by
    exact_mod_cast hcanonical.mantissa_lt.le
  have hmagnitude : magnitude mantissa exponent ≤ 2 * leadingBit :=
    (mul_le_of_le_one_right (Nat.cast_nonneg mantissa) hstep).trans hmantissa
  have hbound : (2 * leadingBit : ℚ) + 1 / 2 < overflowBound := by
    have hsteps : (1 : ℚ) ≤ 2 ^ 970 := one_le_pow₀ (by norm_num)
    calc
      (2 * leadingBit : ℚ) + 1 / 2 < 2 ^ 54 - 1 := by
        norm_num [leadingBit]
      _ ≤ (2 ^ 54 - 1) * 2 ^ 970 :=
        le_mul_of_one_le_right (by norm_num) hsteps
      _ = overflowBound := by
        rw [overflowBound, sub_mul, one_mul, ← pow_add]
  linarith [hwithin.le_high]

theorem exists_of_value? {bits : UInt64} {value : ℚ}
    (hvalue : (ofBits bits).value? = some value) :
    ∃ negative mantissa exponent, IsCanonical mantissa exponent ∧
      ofBits bits = .finite negative mantissa exponent ∧
      value = signed negative (magnitude mantissa exponent) := by
  cases hbits : ofBits bits with
  | finite negative mantissa exponent =>
      rw [hbits, value?, Option.some.injEq] at hvalue
      exact ⟨negative, mantissa, exponent, (toNat_eq_word hbits).1, rfl,
        hvalue.symm⟩
  | _ => simp [hbits, value?] at hvalue

theorem IsWithin.isNearestEven (hwithin : IsWithin |number| mantissa exponent)
    (hnumber : number ≠ 0) (hcanonical : IsCanonical mantissa exponent) :
    IsNearestEven number mantissa exponent := by
  constructor
  · intro bits value hvalue
    obtain ⟨negative, other, otherExponent, hother, -, rfl⟩ :=
      exists_of_value? hvalue
    rw [abs_sub_signed]
    exact (hwithin.abs_le hcanonical hother).1.trans
      (abs_abs_sub_le magnitude_nonneg)
  · rintro ⟨bits, value, hvalue, hne, hequal⟩
    obtain ⟨negative, other, otherExponent, hother, -, rfl⟩ :=
      exists_of_value? hvalue
    obtain ⟨hle, heven⟩ := hwithin.abs_le hcanonical hother
    -- The other number may have the other sign.  Then it is its size that is
    -- just as near, since the size is no farther away than the number.
    refine heven ?_ ?_
    · intro hsame
      rw [hsame] at hequal hne
      exact hne (signed_eq_of_abs_eq hnumber hequal)
    · refine le_antisymm ?_ hle
      calc
        |(|number| - magnitude other otherExponent)|
            ≤ |number - signed negative (magnitude other otherExponent)| :=
          abs_abs_sub_le magnitude_nonneg
        _ = |(|number| - magnitude mantissa exponent)| := by
          rw [hequal, abs_sub_signed]

/-- What lies in the interval is rounded, with either sign. -/
theorem IsWithin.roundsTo {bits : UInt64} {negative : Bool}
    (hwithin : IsWithin size mantissa exponent) (hpos : 0 < mantissa)
    (hsize : size < overflowBound)
    (hbits : ofBits bits = .finite negative mantissa exponent) :
    RoundsTo (signed negative size) bits := by
  have hsizePos : 0 < size := hwithin.size_pos hpos
  have habs : |signed negative size| = size := abs_signed hsizePos.le
  have hsign : decide (signed negative size < 0) = negative := by
    cases negative <;> simp [signed, hsizePos, hsizePos.le]
  have hne : signed negative size ≠ 0 := by
    rw [← abs_pos, habs]
    exact hsizePos
  have hnearest : IsNearestEven (signed negative size) mantissa exponent := by
    rw [← habs] at hwithin
    exact hwithin.isNearestEven hne (toNat_eq_word hbits).1
  refine .finite ?_ ?_ hnearest
  · rwa [habs]
  · rwa [hsign]

end Interval

end FactStream.Binary64
