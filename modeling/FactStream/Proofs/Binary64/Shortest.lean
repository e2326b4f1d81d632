import FactStream.Binary64.Shortest
import FactStream.Proofs.Binary64.Rounding

/-!
# Decimals that read back

The interval of the numbers that are rounded to a fraction is measured in
quarters of the last bit, so that both of its ends are whole.  A decimal with as
many places as the fraction has halvings is the fraction itself, so the search
for a decimal in the interval does not end without one.
-/

namespace FactStream.Binary64

def Decimal.value (decimal : Decimal) : ℚ :=
  decimal.digits / 10 ^ decimal.places

namespace Fraction

section Search

variable {number : Fraction} {decimal : Decimal} {places : Nat}

theorem nearest?_spec (hnearest : number.nearest? places = some decimal) :
    number.readsBack decimal ∧ decimal.places = places := by
  rw [nearest?] at hnearest
  split at hnearest
  · rename_i hbelow habove
    cases hnearest
    split
    · exact ⟨habove, rfl⟩
    · exact ⟨hbelow, rfl⟩
  · rename_i hbelow _
    cases hnearest
    exact ⟨hbelow, rfl⟩
  · rename_i _ habove
    cases hnearest
    exact ⟨habove, rfl⟩
  · cases hnearest

theorem nearest?_ne_none (hfloor : number.readsBack (number.floor places)) :
    number.nearest? places ≠ none := by
  intro hnone
  rw [nearest?, hfloor] at hnone
  split at hnone <;> simp_all

/-- With as many places as halvings the floor is the number itself. -/
theorem readsBack_floor (hpos : 0 < number.mantissa) :
    number.readsBack (number.floor number.halvings) := by
  have hunit :
      10 ^ number.halvings = 5 ^ number.halvings * 2 ^ number.halvings := by
    rw [← Nat.mul_pow]
  have hdigits : number.mantissa * 10 ^ number.halvings / 2 ^ number.halvings =
      number.mantissa * 5 ^ number.halvings := by
    rw [hunit, ← Nat.mul_assoc,
      Nat.mul_div_cancel _ (Nat.pow_pos (by decide))]
  have hpoint :
      number.mantissa * 5 ^ number.halvings * 2 ^ (number.halvings + 2) =
        4 * number.mantissa * 10 ^ number.halvings := by
    rw [hunit]
    ring
  have hten : 0 < 10 ^ number.halvings := Nat.pow_pos (by decide)
  have hlow : (4 * number.mantissa - if number.closerBelow then 1 else 2) <
      4 * number.mantissa := by
    split <;> omega
  have hhigh : 4 * number.mantissa < 4 * number.mantissa + 2 := by omega
  simp only [readsBack, floor, Nat.pow_eq, hdigits, hpoint]
  split
  · simp only [Bool.and_eq_true, decide_eq_true_eq]
    exact ⟨Nat.mul_le_mul_right _ hlow.le, Nat.mul_le_mul_right _ hhigh.le⟩
  · simp only [Bool.and_eq_true, decide_eq_true_eq]
    exact ⟨Nat.mul_lt_mul_of_pos_right hlow hten,
      Nat.mul_lt_mul_of_pos_right hhigh hten⟩

theorem search_spec (hpos : 0 < number.mantissa) {attempts : Nat}
    (hplaces : places ≤ number.halvings)
    (hattempts : number.halvings < places + attempts) :
    number.readsBack (number.search places attempts) ∧
      places ≤ (number.search places attempts).places := by
  induction attempts generalizing places with
  | zero => omega
  | succ attempts ih =>
      rw [search]
      cases hnearest : number.nearest? places with
      | some decimal =>
          obtain ⟨hreads, rfl⟩ := nearest?_spec hnearest
          exact ⟨hreads, le_rfl⟩
      | none =>
          have hne : places ≠ number.halvings := by
            rintro rfl
            exact nearest?_ne_none (readsBack_floor hpos) hnearest
          have hnext : places + 1 ≤ number.halvings := by omega
          obtain ⟨hreads, hle⟩ := ih hnext (by omega)
          exact ⟨hreads, (Nat.le_succ places).trans hle⟩

end Search

/-- The shortest decimal reads back, and it has a place after the point. -/
theorem shortest_spec {number : Fraction} (hpos : 0 < number.mantissa)
    (hhalvings : 0 < number.halvings) :
    number.readsBack number.shortest ∧ 0 < number.shortest.places :=
  search_spec hpos hhalvings (by omega)

end Fraction

/-- The fraction for a mantissa and an exponent. -/
def fraction (mantissa : Nat) (exponent : Int) : Fraction :=
  ⟨mantissa, (-exponent).toNat,
    mantissa = leadingBit && leastExponent < exponent⟩

section Interval

variable {mantissa halvings quarters : Nat} {decimal : Decimal}

theorem two_zpow_neg :
    (2 : ℚ) ^ (-(halvings : Int)) = 4 / 2 ^ (halvings + 2) := by
  rw [zpow_neg, zpow_natCast, pow_add]
  ring

/-- The upper end in quarters of the last bit. -/
theorem magnitude_add_half :
    magnitude mantissa (-halvings) + 2 ^ (-(halvings : Int)) / 2 =
      (4 * mantissa + 2 : Nat) / 2 ^ (halvings + 2) := by
  rw [magnitude, two_zpow_neg]
  push_cast
  ring

/-- The lower end in quarters of the last bit. -/
theorem magnitude_sub_half (hpos : 0 < mantissa) :
    magnitude mantissa (-halvings) - stepBelow mantissa (-halvings) / 2 =
      (4 * mantissa -
          if (fraction mantissa (-halvings)).closerBelow then 1 else 2 : Nat) /
        2 ^ (halvings + 2) := by
  rw [magnitude, stepBelow, fraction]
  simp only [Bool.and_eq_true, decide_eq_true_eq]
  split
  · rw [Nat.cast_sub (by omega), zpow_sub_one₀ (by norm_num), two_zpow_neg]
    push_cast
    ring
  · rw [Nat.cast_sub (by omega), two_zpow_neg]
    push_cast
    ring

theorem quarters_le_iff :
    (quarters : ℚ) / 2 ^ (halvings + 2) ≤ decimal.value ↔
      quarters * 10 ^ decimal.places ≤ decimal.digits * 2 ^ (halvings + 2) := by
  rw [Decimal.value, div_le_div_iff₀ (by positivity) (by positivity)]
  exact_mod_cast Iff.rfl

theorem le_quarters_iff :
    decimal.value ≤ (quarters : ℚ) / 2 ^ (halvings + 2) ↔
      decimal.digits * 2 ^ (halvings + 2) ≤ quarters * 10 ^ decimal.places := by
  rw [Decimal.value, div_le_div_iff₀ (by positivity) (by positivity)]
  exact_mod_cast Iff.rfl

theorem quarters_lt_iff :
    (quarters : ℚ) / 2 ^ (halvings + 2) < decimal.value ↔
      quarters * 10 ^ decimal.places < decimal.digits * 2 ^ (halvings + 2) := by
  rw [← not_le, le_quarters_iff, not_le]

theorem lt_quarters_iff :
    decimal.value < (quarters : ℚ) / 2 ^ (halvings + 2) ↔
      decimal.digits * 2 ^ (halvings + 2) < quarters * 10 ^ decimal.places := by
  rw [← not_le, quarters_le_iff, not_le]

/-- What reads back lies in the interval. -/
theorem isWithin_of_readsBack (hpos : 0 < mantissa)
    (hreads : (fraction mantissa (-halvings)).readsBack decimal) :
    IsWithin decimal.value mantissa (-halvings) := by
  have hhalvings : (fraction mantissa (-halvings)).halvings = halvings := by
    rw [fraction, neg_neg, Int.toNat_natCast]
  have hmantissa : (fraction mantissa (-halvings)).mantissa = mantissa := rfl
  simp only [Fraction.readsBack, Nat.pow_eq, hhalvings, hmantissa] at hreads
  by_cases heven : mantissa % 2 = 0
  · rw [if_pos heven, Bool.and_eq_true, decide_eq_true_eq,
      decide_eq_true_eq] at hreads
    refine ⟨?_, ?_, fun _ => heven, fun _ => heven⟩
    · rw [magnitude_sub_half hpos, quarters_le_iff]
      exact hreads.1
    · rw [magnitude_add_half, le_quarters_iff]
      exact hreads.2
  · rw [if_neg heven, Bool.and_eq_true, decide_eq_true_eq,
      decide_eq_true_eq] at hreads
    have hlow : magnitude mantissa (-halvings) -
        stepBelow mantissa (-halvings) / 2 < decimal.value := by
      rw [magnitude_sub_half hpos, quarters_lt_iff]
      exact hreads.1
    have hhigh : decimal.value <
        magnitude mantissa (-halvings) + 2 ^ (-(halvings : Int)) / 2 := by
      rw [magnitude_add_half, lt_quarters_iff]
      exact hreads.2
    exact ⟨hlow.le, hhigh.le, fun hequal => absurd hequal hlow.ne',
      fun hequal => absurd hequal hhigh.ne⟩

end Interval

end FactStream.Binary64
