import FactStream.Percentage.Text
import FactStream.Proofs.Binary64.Shortest
import FactStream.Proofs.Text.Digits
import Mathlib.Data.Nat.Cast.Field

/-!
# Percentages lose nothing

In plain decimal notation there are digits on either side of a point, and maybe a
minus in front.  A percentage is always written in it: an integer exactly, and any
other number as a decimal that is rounded to the same word.
-/

namespace FactStream.Percentage

open Binary64

/-- The number with these digits before and after the point. -/
def pointed (whole fraction : Text) : ℚ :=
  (Nat.ofDigitChars 10 (whole ++ fraction) 0 : Nat) / 10 ^ fraction.length

/-- A number in plain decimal notation. -/
inductive Denotes : Text → ℚ → Prop
  | unsigned {whole fraction : Text} (hwhole : whole.IsDigits)
      (hfraction : fraction.IsDigits) :
      Denotes (whole ++ '.' :: fraction) (pointed whole fraction)
  | minus {whole fraction : Text} (hwhole : whole.IsDigits)
      (hfraction : fraction.IsDigits) :
      Denotes ('-' :: (whole ++ '.' :: fraction)) (-pointed whole fraction)

section Notation

variable {whole fraction otherWhole otherFraction : Text}

theorem point_not_mem {digits : Text} (hdigits : digits.IsDigits) :
    '.' ∉ digits :=
  fun hmem => absurd (hdigits.isDigit '.' hmem) (by decide)

/-- The text has one point only. -/
theorem point_inj (hwhole : whole.IsDigits) (hfraction : fraction.IsDigits)
    (hequal : otherWhole ++ '.' :: otherFraction = whole ++ '.' :: fraction) :
    otherWhole = whole ∧ otherFraction = fraction := by
  obtain ⟨hwhole, -, hfraction⟩ := (List.append_cons_inj_of_notMem
    (point_not_mem hwhole) (point_not_mem hfraction)).mp hequal.symm
  exact ⟨hwhole.symm, hfraction.symm⟩

theorem minus_ne (hwhole : whole.IsDigits) :
    whole ++ '.' :: fraction ≠ '-' :: otherFraction := by
  intro hequal
  obtain ⟨first, rest, rfl⟩ := List.exists_cons_of_ne_nil hwhole.ne_nil
  rw [List.cons_append, List.cons.injEq] at hequal
  have hdigit := hwhole.isDigit first List.mem_cons_self
  rw [hequal.1] at hdigit
  exact absurd hdigit (by decide)

/-- A text denotes one number at most. -/
theorem Denotes.unique {text : Text} {number other : ℚ}
    (hnumber : Denotes text number) (hother : Denotes text other) :
    number = other := by
  generalize htext : text = otherText at hother
  cases hnumber with
  | unsigned hwhole hfraction =>
      cases hother with
      | unsigned hotherWhole hotherFraction =>
          obtain ⟨rfl, rfl⟩ := point_inj hotherWhole hotherFraction htext
          rfl
      | minus => exact absurd htext (minus_ne hwhole)
  | minus hwhole hfraction =>
      cases hother with
      | unsigned hotherWhole => exact absurd htext.symm (minus_ne hotherWhole)
      | minus hotherWhole hotherFraction =>
          obtain ⟨rfl, rfl⟩ := point_inj hotherWhole hotherFraction
            (List.cons.inj htext).2
          rfl

theorem Denotes.iff_eq {text : Text} {number other : ℚ}
    (hnumber : Denotes text number) : Denotes text other ↔ other = number := by
  constructor
  · exact fun hother => hother.unique hnumber
  · rintro rfl
    exact hnumber

theorem denotes_signed (negative : Bool) (hwhole : whole.IsDigits)
    (hfraction : fraction.IsDigits) :
    Denotes (signText negative ++ (whole ++ '.' :: fraction))
      (signed negative (pointed whole fraction)) := by
  cases negative
  · exact .unsigned hwhole hfraction
  · exact .minus hwhole hfraction

theorem pointed_eq :
    pointed whole fraction =
      (10 ^ fraction.length * Nat.ofDigitChars 10 whole 0 +
          Nat.ofDigitChars 10 fraction 0 : Nat) / 10 ^ fraction.length := by
  rw [pointed, Nat.ofDigitChars_append, Nat.ofDigitChars_eq_ofDigitChars_zero]

end Notation

section Digits

variable {value width : Nat}

theorem isDigits_ofNat (value : Nat) : (Numeral.ofNat value).IsDigits :=
  ⟨Nat.toDigits_ne_nil, fun _ => Numeral.isDigit_of_mem_ofNat⟩

theorem isDigits_singleton {digit : Char} (hdigit : digit.isDigit) :
    Text.IsDigits [digit] :=
  ⟨List.cons_ne_nil _ _, List.forall_mem_singleton.mpr hdigit⟩

theorem length_padded (hwidth : 0 < width) (hvalue : value < 10 ^ width) :
    (padded width value).length = width := by
  have hlength : (Numeral.ofNat value).length ≤ width :=
    (Nat.length_toDigits_le_iff (by decide) hwidth).mpr hvalue
  rw [padded, List.length_append, List.length_replicate,
    Nat.sub_add_cancel hlength]

theorem isDigits_padded : (padded width value).IsDigits := by
  have hdigits := isDigits_ofNat value
  constructor
  · exact List.append_ne_nil_of_right_ne_nil _ hdigits.ne_nil
  · intro character hmem
    obtain hzero | hmem := List.mem_append.mp hmem
    · rw [List.eq_of_mem_replicate hzero]
      decide
    · exact hdigits.isDigit character hmem

theorem ofDigitChars_padded :
    Nat.ofDigitChars 10 (padded width value) 0 = value := by
  rw [padded, Nat.ofDigitChars_append, Nat.ofDigitChars_replicate_zero,
    Nat.mul_zero]
  exact Nat.ofDigitChars_ten_toDigits

/-- A decimal is written out in full. -/
theorem exists_decimalText {decimal : Decimal} (hplaces : 0 < decimal.places) :
    ∃ whole fraction : Text, whole.IsDigits ∧ fraction.IsDigits ∧
      decimalText decimal = whole ++ '.' :: fraction ∧
      pointed whole fraction = decimal.value := by
  have hunit : 0 < 10 ^ decimal.places := Nat.pow_pos (by decide)
  refine ⟨Numeral.ofNat (decimal.digits / 10 ^ decimal.places),
    padded decimal.places (decimal.digits % 10 ^ decimal.places),
    isDigits_ofNat _, isDigits_padded, rfl, ?_⟩
  rw [pointed_eq, length_padded hplaces (Nat.mod_lt _ hunit),
    ofDigitChars_padded, Numeral.ofNat, Nat.ofDigitChars_ten_toDigits,
    Nat.div_add_mod, Decimal.value]

theorem pointed_zero : pointed (Numeral.ofNat value) ['0'] = value := by
  have hzero : Nat.ofDigitChars 10 ['0'] 0 = 0 := rfl
  rw [pointed_eq, hzero, Numeral.ofNat, Nat.ofDigitChars_ten_toDigits,
    List.length_singleton]
  push_cast
  ring

end Digits

section Magnitudes

variable {mantissa : Nat} {exponent : Int}

/-- What is not an integer is not zero and has halvings. -/
theorem pos_and_neg_of_not_integer
    (hfraction : mantissa % 2 ^ (-exponent).toNat ≠ 0) :
    0 < mantissa ∧ exponent < 0 := by
  constructor
  · refine Nat.pos_of_ne_zero ?_
    rintro rfl
    exact hfraction (Nat.zero_mod _)
  · refine not_le.mp fun hnonneg => hfraction ?_
    rw [Int.toNat_of_nonpos (neg_nonpos.mpr hnonneg), Nat.pow_zero, Nat.mod_one]

/-- An integer is written exactly. -/
theorem exists_integerText
    (hinteger : mantissa % 2 ^ (-exponent).toNat = 0) :
    ∃ whole : Text, whole.IsDigits ∧
      magnitudeText mantissa exponent = whole ++ ".0".toList ∧
      pointed whole ['0'] = magnitude mantissa exponent := by
  have hdvd : 2 ^ (-exponent).toNat ∣ mantissa * 2 ^ exponent.toNat :=
    (Nat.dvd_of_mod_eq_zero hinteger).mul_right _
  refine ⟨Numeral.ofNat
    (mantissa * 2 ^ exponent.toNat / 2 ^ (-exponent).toNat),
    isDigits_ofNat _, ?_, ?_⟩
  · exact if_pos hinteger
  · rw [pointed_zero, magnitude_eq_div]
    exact Nat.cast_div hdvd (by positivity)

/-- Any other number is written so that it reads back. -/
theorem exists_fractionText
    (hfraction : mantissa % 2 ^ (-exponent).toNat ≠ 0) :
    ∃ whole fraction : Text, whole.IsDigits ∧ fraction.IsDigits ∧
      magnitudeText mantissa exponent = whole ++ '.' :: fraction ∧
      IsWithin (pointed whole fraction) mantissa exponent := by
  obtain ⟨hpos, hneg⟩ := pos_and_neg_of_not_integer hfraction
  have hexponent : exponent = -((-exponent).toNat : Int) := by omega
  have hhalvings : 0 < (fraction mantissa exponent).halvings :=
    Int.pos_iff_toNat_pos.mp (neg_pos.mpr hneg)
  obtain ⟨hreads, hplaces⟩ := Fraction.shortest_spec hpos hhalvings
  obtain ⟨whole, places, hwhole, hplaces, htext, hvalue⟩ :=
    exists_decimalText hplaces
  refine ⟨whole, places, hwhole, hplaces, ?_, ?_⟩
  · rw [← htext]
    exact if_neg hfraction
  · rw [hvalue, hexponent]
    rw [hexponent] at hreads
    exact isWithin_of_readsBack hpos hreads

end Magnitudes

/-- What is written is in plain decimal notation; it denotes the number itself if
this is an integer, and otherwise what is rounded to the number's word and to no
other one. -/
theorem text_loses_nothing (bits : UInt64) (number : ℚ)
    (hfinite : (ofBits bits).value? = some number) :
    ∃ written : ℚ, (∀ other, Denotes (text bits) other ↔ other = written) ∧
      (number.isInt → written = number ∧ ".0".toList <:+ text bits) ∧
      (¬ number.isInt → ∀ word, RoundsTo written word ↔ word = bits) := by
  obtain ⟨negative, mantissa, exponent, hcanonical, hbits, rfl⟩ :=
    exists_of_value? hfinite
  rw [isInt_signed, isInt_magnitude_iff, text, hbits, numberText]
  by_cases hinteger : mantissa % 2 ^ (-exponent).toNat = 0
  · obtain ⟨whole, hwhole, htext, hvalue⟩ := exists_integerText hinteger
    have hzero : Text.IsDigits ['0'] := isDigits_singleton rfl
    have hdenotes := denotes_signed negative hwhole hzero
    rw [htext, ← hvalue]
    refine ⟨_, fun other => hdenotes.iff_eq, fun _ => ⟨rfl, ?_⟩,
      fun hfraction => absurd hinteger hfraction⟩
    rw [← List.append_assoc]
    exact List.suffix_append _ _
  · obtain ⟨whole, places, hwhole, hplaces, htext, hwithin⟩ :=
      exists_fractionText hinteger
    have hdenotes := denotes_signed negative hwhole hplaces
    obtain ⟨hpos, hneg⟩ := pos_and_neg_of_not_integer hinteger
    have hrounds : RoundsTo (signed negative (pointed whole places)) bits :=
      hwithin.roundsTo hpos (hwithin.size_lt hcanonical hneg.le) hbits
    rw [htext]
    refine ⟨_, fun other => hdenotes.iff_eq,
      fun hwhole => absurd hwhole hinteger,
      fun _ word => ⟨fun hword => hword.unique hrounds, ?_⟩⟩
    rintro rfl
    exact hrounds

theorem text_loses_nothing_of_tenth_and_hundred :
    let tenth := magnitude 0x1999999999999A (-56)
    let hundred := magnitude 0x19000000000000 (-46)
    ((ofBits 0x3FB999999999999A).value? = some tenth ∧ ¬ tenth.isInt ∧
        text 0x3FB999999999999A = "0.1".toList ∧
        ∀ word, RoundsTo (1 / 10) word ↔ word = 0x3FB999999999999A) ∧
      (ofBits 0x4059000000000000).value? = some hundred ∧ hundred.isInt ∧
        text 0x4059000000000000 = "100.0".toList ∧
        ∀ other, Denotes (text 0x4059000000000000) other ↔ other = 100 := by
  intro tenth hundred
  have hfraction : ¬ tenth.isInt := by
    rw [isInt_magnitude_iff]
    decide
  have htext : text 0x3FB999999999999A = "0.1".toList := by decide +kernel
  have hdigits : Denotes "0.1".toList (1 / 10) := by
    have hread : Nat.ofDigitChars 10 ['0', '1'] 0 = 1 := rfl
    have hvalue : pointed ['0'] ['1'] = 1 / 10 := by
      norm_num [pointed, hread]
    rw [← hvalue]
    exact .unsigned (isDigits_singleton rfl) (isDigits_singleton rfl)
  have hinteger : hundred.isInt := by
    rw [isInt_magnitude_iff]
    decide
  have hvalue : hundred = 100 := by
    norm_num [hundred, magnitude]
  obtain ⟨tenthWritten, htenth, -, hrounds⟩ :=
    text_loses_nothing 0x3FB999999999999A tenth rfl
  obtain ⟨hundredWritten, hhundred, hexact, -⟩ :=
    text_loses_nothing 0x4059000000000000 hundred rfl
  refine ⟨⟨rfl, hfraction, htext, ?_⟩, rfl, hinteger, by decide +kernel, ?_⟩
  · rw [htext] at htenth
    rw [(htenth _).mp hdigits]
    exact hrounds hfraction
  · rw [← hvalue, ← (hexact hinteger).1]
    exact hhundred

end FactStream.Percentage
