import FactStream.Binary64.Dyadic
import Mathlib.Algebra.Order.Field.Power
import Mathlib.Algebra.Order.Ring.Rat
import Mathlib.Data.Rat.Lemmas
import Mathlib.Tactic.Linarith
import Mathlib.Tactic.NormNum
import Mathlib.Tactic.Positivity
import Mathlib.Tactic.Ring

/-!
# The numbers that words of 64 bits stand for

Every finite number is written in one way only, with as small an exponent as
the mantissa allows.  Numbers of one exponent lie one step of that exponent
apart, and those of a greater exponent lie above them.  So nothing lies within
one step above a number, nor below it, except that the step is halved below the
least mantissa of an exponent.
-/

namespace FactStream.Binary64

/-- The exponent of the greatest numbers. -/
def greatestExponent : Int := 971

/-- The number that is a mantissa times a power of two. -/
def magnitude (mantissa : Nat) (exponent : Int) : ℚ :=
  mantissa * 2 ^ exponent

def signed (negative : Bool) (size : ℚ) : ℚ :=
  if negative then -size else size

/-- The number that is denoted, if one is. -/
def value? : Binary64 → Option ℚ
  | finite negative mantissa exponent =>
      some (signed negative (magnitude mantissa exponent))
  | _ => none

/-- The mantissa and the exponent are in range, and the mantissa has the leading
bit unless the exponent is the least. -/
structure IsCanonical (mantissa : Nat) (exponent : Int) : Prop where
  mantissa_lt : mantissa < 2 * leadingBit
  least_le : leastExponent ≤ exponent
  le_greatest : exponent ≤ greatestExponent
  leadingBit_le : leastExponent < exponent → leadingBit ≤ mantissa

def signBit : Nat := 0x8000000000000000

/-- The word for a number.  The leading bit counts as one more in the exponent's
place. -/
def word (negative : Bool) (mantissa : Nat) (exponent : Int) : Nat :=
  negative.toNat * signBit + (exponent - leastExponent).toNat * leadingBit +
    mantissa

/-- How far below a number the next one is. -/
def stepBelow (mantissa : Nat) (exponent : Int) : ℚ :=
  if mantissa = leadingBit ∧ leastExponent < exponent then 2 ^ (exponent - 1)
  else 2 ^ exponent

section Words

variable {bits other : UInt64} {negative : Bool} {mantissa : Nat}
  {exponent : Int}

theorem toNat_sign (bits : UInt64) :
    (decide (0x8000000000000000 ≤ bits.toNat)).toNat =
      bits.toNat / signBit := by
  have hword := bits.toNat_lt
  rw [Bool.toNat, Bool.cond_decide, signBit]
  split <;> omega

/-- A finite number is canonical, and is found in one word only. -/
theorem toNat_eq_word
    (hbits : ofBits bits = .finite negative mantissa exponent) :
    IsCanonical mantissa exponent ∧
      bits.toNat = word negative mantissa exponent := by
  by_cases hmost : bits.toNat / leadingBit % 2048 = 2047
  · by_cases hzero : bits.toNat % leadingBit = 0 <;>
      simp [ofBits, hmost, hzero] at hbits
  by_cases hleast : bits.toNat / leadingBit % 2048 = 0
  all_goals
    simp only [ofBits, hmost, hleast, if_true, if_false, finite.injEq] at hbits
    obtain ⟨rfl, rfl, rfl⟩ := hbits
    rw [word, toNat_sign]
    refine ⟨⟨?_, ?_, ?_, ?_⟩, ?_⟩
    all_goals
      simp only [signBit, leadingBit, leastExponent, greatestExponent] at *
      omega

theorem ofBits_of_toNat (hcanonical : IsCanonical mantissa exponent)
    (hbits : bits.toNat = word negative mantissa exponent) :
    ofBits bits = .finite negative mantissa exponent := by
  obtain ⟨hmantissa, hleast, hgreatest, hleading⟩ := hcanonical
  have hnegative := negative.toNat_le
  have hsign : decide (0x8000000000000000 ≤ bits.toNat) = negative := by
    rw [Bool.eq_iff_iff, decide_eq_true_eq, ← Bool.toNat_eq_one]
    simp only [word, signBit, leadingBit, leastExponent, greatestExponent] at *
    omega
  -- Without the leading bit the exponent is the least, and its place is empty.
  by_cases hsubnormal : mantissa < leadingBit
  · have hexponent : leastExponent = exponent := by
      omega
    obtain ⟨hscale, hfraction⟩ : bits.toNat / leadingBit % 2048 = 0 ∧
        bits.toNat % leadingBit = mantissa := by
      simp only [word, signBit, leadingBit, leastExponent] at *
      omega
    simp only [ofBits, hscale, hfraction, hsign, hexponent, if_true, if_false,
      reduceCtorEq]
  · have hexponent :
        leastExponent + (exponent - leastExponent).toNat = exponent := by
      omega
    obtain ⟨hscale, hmost, hfraction⟩ :
        bits.toNat / leadingBit % 2048 =
            (exponent - leastExponent).toNat + 1 ∧
          (exponent - leastExponent).toNat + 1 ≠ 2047 ∧
          leadingBit + bits.toNat % leadingBit = mantissa := by
      simp only [word, signBit, leadingBit, leastExponent,
        greatestExponent] at *
      omega
    simp only [ofBits, hscale, hmost, hfraction, hsign, hexponent,
      Nat.add_one_ne_zero, Nat.add_sub_cancel, if_false]

theorem exists_word (negative : Bool)
    (hcanonical : IsCanonical mantissa exponent) :
    ∃ bits, ofBits bits = .finite negative mantissa exponent := by
  refine ⟨.ofNat (word negative mantissa exponent),
    ofBits_of_toNat hcanonical (UInt64.toNat_ofNat_of_lt ?_)⟩
  obtain ⟨hmantissa, hleast, hgreatest, -⟩ := hcanonical
  have hnegative := negative.toNat_le
  simp only [word, signBit, leadingBit, leastExponent, greatestExponent,
    UInt64.size] at *
  omega

theorem toNat_eq_of_infinite (hbits : ofBits bits = .infinite negative) :
    bits.toNat = negative.toNat * signBit + 2047 * leadingBit := by
  by_cases hmost : bits.toNat / leadingBit % 2048 = 2047
  · by_cases hzero : bits.toNat % leadingBit = 0
    · simp only [ofBits, hmost, hzero, if_true, infinite.injEq] at hbits
      rw [← hbits, toNat_sign]
      simp only [signBit, leadingBit] at *
      omega
    · simp [ofBits, hmost, hzero] at hbits
  · by_cases hleast : bits.toNat / leadingBit % 2048 = 0 <;>
      simp [ofBits, hmost, hleast] at hbits

/-- No two words denote the same, if it is a number. -/
theorem ofBits_injective (hequal : ofBits bits = ofBits other)
    (hnumber : ofBits other ≠ .notANumber) : bits = other := by
  rw [← UInt64.toNat_inj]
  cases hother : ofBits other with
  | notANumber => exact absurd hother hnumber
  | infinite negative =>
      rw [toNat_eq_of_infinite hother,
        toNat_eq_of_infinite (hequal.trans hother)]
  | finite negative mantissa exponent =>
      rw [(toNat_eq_word hother).2, (toNat_eq_word (hequal.trans hother)).2]

end Words

section Order

variable {mantissa other : Nat} {exponent otherExponent : Int}

theorem magnitude_nonneg : 0 ≤ magnitude mantissa exponent := by
  rw [magnitude]
  positivity

theorem magnitude_zero : magnitude 0 exponent = 0 := by
  rw [magnitude, Nat.cast_zero, zero_mul]

theorem magnitude_succ :
    magnitude (mantissa + 1) exponent =
      magnitude mantissa exponent + 2 ^ exponent := by
  rw [magnitude, magnitude, Nat.cast_succ]
  ring

theorem magnitude_lt_iff :
    magnitude mantissa exponent < magnitude other exponent ↔
      mantissa < other := by
  rw [magnitude, magnitude, mul_lt_mul_iff_left₀ (by positivity), Nat.cast_lt]

theorem magnitude_le_iff :
    magnitude mantissa exponent ≤ magnitude other exponent ↔
      mantissa ≤ other := by
  rw [magnitude, magnitude, mul_le_mul_iff_left₀ (by positivity), Nat.cast_le]

/-- A number is written with a smaller exponent by doubling the mantissa. -/
theorem magnitude_add (steps : Nat) :
    magnitude mantissa (exponent + steps) =
      magnitude (mantissa * 2 ^ steps) exponent := by
  rw [magnitude, magnitude, zpow_add₀ (by norm_num), zpow_natCast, Nat.cast_mul,
    Nat.cast_pow, Nat.cast_ofNat]
  ring

theorem magnitude_lt_of_exponent_lt
    (hcanonical : IsCanonical mantissa exponent)
    (hother : IsCanonical other otherExponent)
    (hexponent : exponent < otherExponent) :
    magnitude mantissa exponent < magnitude other otherExponent := by
  obtain ⟨steps, rfl⟩ := Int.le.dest hexponent.le
  have hleading : leadingBit ≤ other :=
    hother.leadingBit_le (hcanonical.least_le.trans_lt hexponent)
  have hsteps : 2 ^ 1 ≤ 2 ^ steps := Nat.pow_le_pow_right (by decide) (by omega)
  rw [magnitude_add, magnitude_lt_iff]
  calc
    mantissa < leadingBit * 2 ^ 1 := by
      rw [Nat.pow_one, Nat.mul_comm]
      exact hcanonical.mantissa_lt
    _ ≤ other * 2 ^ steps := Nat.mul_le_mul hleading hsteps

/-- Numbers of one size are written in the same way. -/
theorem eq_of_magnitude_eq (hcanonical : IsCanonical mantissa exponent)
    (hother : IsCanonical other otherExponent)
    (hequal : magnitude mantissa exponent = magnitude other otherExponent) :
    mantissa = other ∧ exponent = otherExponent := by
  obtain hexponent | rfl | hexponent := lt_trichotomy exponent otherExponent
  · exact absurd hequal
      (magnitude_lt_of_exponent_lt hcanonical hother hexponent).ne
  · exact ⟨le_antisymm (magnitude_le_iff.mp hequal.le)
      (magnitude_le_iff.mp hequal.ge), rfl⟩
  · exact absurd hequal
      (magnitude_lt_of_exponent_lt hother hcanonical hexponent).ne'

/-- Nothing lies within one step above a number. -/
theorem magnitude_succ_le (hcanonical : IsCanonical mantissa exponent)
    (hother : IsCanonical other otherExponent)
    (hlt : magnitude mantissa exponent < magnitude other otherExponent) :
    magnitude (mantissa + 1) exponent ≤ magnitude other otherExponent := by
  have hexponent : exponent ≤ otherExponent := by
    by_contra hexponent
    exact hlt.not_gt (magnitude_lt_of_exponent_lt hother hcanonical
      (not_le.mp hexponent))
  obtain ⟨steps, rfl⟩ := Int.le.dest hexponent
  rw [magnitude_add, magnitude_lt_iff] at hlt
  rw [magnitude_add, magnitude_le_iff]
  exact hlt

/-- The number before one that is not zero. -/
theorem exists_before (hcanonical : IsCanonical mantissa exponent)
    (hpos : 0 < mantissa) :
    ∃ before beforeExponent, IsCanonical before beforeExponent ∧
      magnitude (before + 1) beforeExponent = magnitude mantissa exponent ∧
      2 ^ beforeExponent = stepBelow mantissa exponent := by
  obtain ⟨hmantissa, hleast, hgreatest, hleading⟩ := hcanonical
  by_cases hhalved : mantissa = leadingBit ∧ leastExponent < exponent
  · refine ⟨2 * leadingBit - 1, exponent - 1, ⟨?_, ?_, ?_, ?_⟩, ?_, ?_⟩
    · decide
    · exact Int.le_sub_one_of_lt hhalved.2
    · omega
    · intro
      decide
    · have hexponent : exponent = exponent - 1 + (1 : Nat) := by omega
      rw [hhalved.1, hexponent, magnitude_add, ← hexponent]
      rfl
    · rw [stepBelow, if_pos hhalved]
  · refine ⟨mantissa - 1, exponent, ⟨?_, hleast, hgreatest, ?_⟩, ?_, ?_⟩
    · omega
    · intro hexponent
      have hne : mantissa ≠ leadingBit := fun hequal =>
        hhalved ⟨hequal, hexponent⟩
      have := hleading hexponent
      omega
    · rw [Nat.sub_add_cancel hpos]
    · rw [stepBelow, if_neg hhalved]

theorem stepBelow_le : stepBelow mantissa exponent ≤ 2 ^ exponent := by
  rw [stepBelow]
  split
  · exact zpow_le_zpow_right₀ (by norm_num) (by omega)
  · exact le_rfl

/-- Nothing lies within the step below a number. -/
theorem magnitude_le_sub_stepBelow (hcanonical : IsCanonical mantissa exponent)
    (hother : IsCanonical other otherExponent)
    (hlt : magnitude other otherExponent < magnitude mantissa exponent) :
    magnitude other otherExponent ≤
      magnitude mantissa exponent - stepBelow mantissa exponent := by
  have hpos : 0 < mantissa := by
    refine Nat.pos_of_ne_zero ?_
    rintro rfl
    rw [magnitude_zero] at hlt
    exact magnitude_nonneg.not_gt hlt
  obtain ⟨before, beforeExponent, hbefore, hmagnitude, hstep⟩ :=
    exists_before hcanonical hpos
  rw [← hmagnitude, ← hstep, magnitude_succ, add_sub_cancel_right]
  by_contra hle
  have hsucc := magnitude_succ_le hbefore hother (not_le.mp hle)
  rw [hmagnitude] at hsucc
  exact hsucc.not_gt hlt

end Order

section Integers

variable {negative : Bool} {mantissa : Nat} {exponent : Int} {size : ℚ}

theorem magnitude_eq_div :
    magnitude mantissa exponent =
      (mantissa * 2 ^ exponent.toNat : Nat) / (2 ^ (-exponent).toNat : Nat) := by
  have hexponent : exponent = exponent.toNat - ((-exponent).toNat : Int) := by
    omega
  rw [magnitude]
  nth_rewrite 1 [hexponent]
  rw [zpow_sub₀ (by norm_num), zpow_natCast, zpow_natCast]
  push_cast
  ring

theorem isInt_signed : (signed negative size).isInt ↔ size.isInt := by
  cases negative
  · exact Iff.rfl
  · rw [signed, if_pos rfl, Rat.isInt, Rat.isInt, Rat.neg_den]

/-- A number is an integer if all of its halvings cancel. -/
theorem isInt_magnitude_iff :
    (magnitude mantissa exponent).isInt ↔
      mantissa % 2 ^ (-exponent).toNat = 0 := by
  rw [magnitude_eq_div, Rat.isInt, beq_iff_eq,
    Rat.den_div_natCast_eq_one_iff _ _ (by positivity), Nat.dvd_iff_mod_eq_zero]
  obtain hnonneg | hneg := le_or_gt 0 exponent
  · have hnone : (-exponent).toNat = 0 := by omega
    rw [hnone, Nat.pow_zero, Nat.mod_one, Nat.mod_one]
  · have hnone : exponent.toNat = 0 := by omega
    rw [hnone, Nat.pow_zero, Nat.mul_one]

end Integers

end FactStream.Binary64
