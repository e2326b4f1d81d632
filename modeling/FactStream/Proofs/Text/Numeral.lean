import FactStream.Proofs.Except
import FactStream.Proofs.Text.Trim
import FactStream.Counting.KeyCount
import Mathlib.Tactic.IntervalCases

/-!
# Numerals that are read back

A count that a stage writes is a count that the next stage reads.  The printed
numeral has no leading zeros and no sign but a minus, and the reader, which
stops at the first digit that takes the value out of range, gets through every
numeral whose value is in range.
-/

namespace FactStream

theorem Count.inRange_iff {count : Int} :
    Count.inRange count ↔
      -(Numeral.integerLimit : Int) ≤ count ∧ count < Numeral.integerLimit := by
  simp [Count.inRange]

namespace Numeral

/-- Reading stops at a fault in the front; otherwise it goes on with what the
front has given. -/
theorem magnitude_append (limit : Nat) (beyond : NumeralFault) (value : Nat)
    (front rest : Text) :
    magnitude limit beyond value (front ++ rest) =
      (magnitude limit beyond value front).bind fun reached =>
        magnitude limit beyond reached rest := by
  induction front generalizing value with
  | nil => rfl
  | cons character front ih =>
      rw [List.cons_append, magnitude, magnitude]
      cases digit? character with
      | none => rfl
      | some digit =>
          by_cases hlimit : value * 10 + digit ≤ limit
          · simp only [hlimit, if_true]
            exact ih (value * 10 + digit)
          · simp only [hlimit, if_false]
            rfl

theorem digit?_digitChar {digit : Nat} (hdigit : digit < 10) :
    digit? digit.digitChar = some digit := by
  interval_cases digit <;> rfl

theorem magnitude_digitChar {limit value digit : Nat} (beyond : NumeralFault)
    (hdigit : digit < 10) (hlimit : value * 10 + digit ≤ limit) :
    magnitude limit beyond value [digit.digitChar] =
      .ok (value * 10 + digit) := by
  rw [magnitude, digit?_digitChar hdigit]
  simp only [hlimit, if_true]
  rfl

/-- The digits of a value within the limit are read as that value. -/
theorem magnitude_ofNat {limit value : Nat} (beyond : NumeralFault)
    (hlimit : value ≤ limit) :
    magnitude limit beyond 0 (ofNat value) = .ok value := by
  induction value using Nat.strong_induction_on with
  | _ value ih =>
      rw [ofNat]
      by_cases hsmall : value < 10
      · rw [Nat.toDigits_of_lt_base hsmall,
          magnitude_digitChar beyond hsmall (by omega), Nat.zero_mul,
          Nat.zero_add]
      · have hfront : magnitude limit beyond 0 (Nat.toDigits 10 (value / 10)) =
            .ok (value / 10) := ih (value / 10) (by omega) (by omega)
        rw [Nat.toDigits_of_base_le (by omega) (by omega), magnitude_append,
          hfront]
        change magnitude limit beyond (value / 10) [(value % 10).digitChar] = _
        rw [magnitude_digitChar beyond (by omega) (by omega)]
        congr 1
        omega

/-- A numeral that is read to its end is within the limit. -/
theorem magnitude_le {limit value result : Nat} {beyond : NumeralFault}
    {text : Text} (hvalue : value ≤ limit)
    (hread : magnitude limit beyond value text = .ok result) :
    result ≤ limit := by
  induction text generalizing value with
  | nil =>
      cases hread
      exact hvalue
  | cons character text ih =>
      rw [magnitude] at hread
      split at hread
      · cases hread
      · split at hread
        · rename_i hlimit
          exact ih hlimit hread
        · cases hread

theorem isDigit_of_mem_ofNat {character : Char} {value : Nat}
    (hmem : character ∈ ofNat value) : character.isDigit :=
  Nat.isDigit_of_mem_toDigits (by omega) (by omega) hmem

theorem readInteger_unsigned {first : Char} {rest : Text} (hplus : first ≠ '+')
    (hminus : first ≠ '-') :
    readInteger (first :: rest) =
      (magnitude (integerLimit - 1) .tooLarge 0
        (first :: rest)).map Int.ofNat := by
  unfold readInteger
  split <;> simp_all

theorem readInteger_of_digit {first : Char} {rest : Text}
    (hfirst : first.isDigit) :
    readInteger (first :: rest) =
      (magnitude (integerLimit - 1) .tooLarge 0
        (first :: rest)).map Int.ofNat := by
  have hplus : first ≠ '+' := by
    rintro rfl
    exact absurd hfirst (by decide)
  have hminus : first ≠ '-' := by
    rintro rfl
    exact absurd hfirst (by decide)
  exact readInteger_unsigned hplus hminus

theorem readInteger_minus {digits : Text} (hne : digits ≠ []) :
    readInteger ('-' :: digits) =
      (magnitude integerLimit .tooSmall 0 digits).map fun value =>
        -(value : Int) := by
  cases digits with
  | nil => exact absurd rfl hne
  | cons first rest => rfl

/-- Printing a count and reading it gives the count. -/
theorem readInteger_ofInt {count : Int} (hrange : Count.inRange count) :
    readInteger (ofInt count) = .ok count := by
  rw [Count.inRange_iff] at hrange
  cases count with
  | ofNat value =>
      obtain ⟨first, rest, hdigits⟩ :=
        List.exists_cons_of_ne_nil (Nat.toDigits_ne_nil (n := value) (b := 10))
      have hmem : first ∈ ofNat value := by
        rw [ofNat, hdigits]
        exact List.mem_cons_self
      have hfirst : first.isDigit := isDigit_of_mem_ofNat hmem
      have hlimit : value ≤ integerLimit - 1 :=
        Nat.le_sub_one_of_lt (Int.ofNat_lt.mp hrange.2)
      rw [ofInt, ofNat, hdigits, readInteger_of_digit hfirst, ← hdigits]
      change (magnitude _ _ 0 (ofNat value)).map _ = _
      rw [magnitude_ofNat .tooLarge hlimit]
      rfl
  | negSucc value =>
      have hlimit : value + 1 ≤ integerLimit := by
        have := hrange.1
        omega
      have hdigits : ofNat (value + 1) ≠ [] := Nat.toDigits_ne_nil
      rw [ofInt, readInteger_minus hdigits, magnitude_ofNat .tooSmall hlimit]
      rfl

theorem inRange_of_map_magnitude {digits : Text} {count : Int}
    (hread : (magnitude (integerLimit - 1) .tooLarge 0 digits).map Int.ofNat =
      .ok count) : Count.inRange count := by
  obtain ⟨value, hvalue, rfl⟩ := Except.map_eq_ok_iff.mp hread
  have hle := magnitude_le (Nat.zero_le _) hvalue
  have hpos : 0 < integerLimit := by decide
  rw [Count.inRange_iff, Int.ofNat_eq_natCast]
  omega

/-- Only counts in range are read. -/
theorem inRange_of_readInteger {text : Text} {count : Int}
    (hread : readInteger text = .ok count) : Count.inRange count := by
  unfold readInteger at hread
  split at hread
  · cases hread
  · cases hread
  · cases hread
  · exact inRange_of_map_magnitude hread
  · -- The reader casts the magnitude before it negates it.
    obtain ⟨cast, hcast, rfl⟩ := Except.map_eq_ok_iff.mp hread
    change Except.bind _ _ = _ at hcast
    obtain ⟨value, hvalue, hvalue_cast⟩ := Except.bind_eq_ok_iff.mp hcast
    cases hvalue_cast
    have hle := magnitude_le (Nat.zero_le _) hvalue
    have hpos : 0 < integerLimit := by decide
    rw [Count.inRange_iff]
    omega
  · exact inRange_of_map_magnitude hread

theorem isBlank_of_isDigit {character : Char} (hdigit : character.isDigit) :
    Text.isBlank character = false := by
  simp only [Char.isDigit, Bool.and_eq_true, decide_eq_true_eq, ge_iff_le,
    UInt32.le_iff_toNat_le] at hdigit
  have hlow : 48 ≤ character.toNat := hdigit.1
  have hhigh : character.toNat ≤ 57 := hdigit.2
  simp only [Text.isBlank, Text.blankRanges, List.any_cons, List.any_nil,
    Bool.or_eq_false_iff, Bool.and_eq_false_iff, decide_eq_false_iff_not,
    and_true]
  and_intros <;> omega

/-- A printed count has no blanks in it. -/
theorem isBlank_of_mem_ofInt {character : Char} {count : Int}
    (hmem : character ∈ ofInt count) : Text.isBlank character = false := by
  cases count with
  | ofNat value => exact isBlank_of_isDigit (isDigit_of_mem_ofNat hmem)
  | negSucc value =>
      rcases List.mem_cons.mp hmem with rfl | hdigit
      · rfl
      · exact isBlank_of_isDigit (isDigit_of_mem_ofNat hdigit)

theorem ofInt_ne_nil (count : Int) : ofInt count ≠ [] := by
  cases count with
  | ofNat value => exact Nat.toDigits_ne_nil
  | negSucc value => exact List.cons_ne_nil _ _

theorem endsBlank_ofInt (count : Int) :
    Text.endsBlank (ofInt count) = false := by
  rw [Text.endsBlank, List.getLast?_eq_some_getLast (ofInt_ne_nil count)]
  exact isBlank_of_mem_ofInt (List.getLast_mem _)

theorem beginsBlank_ofInt (count : Int) :
    Text.beginsBlank (ofInt count) = false := by
  rw [Text.beginsBlank, List.head?_eq_some_head (ofInt_ne_nil count)]
  exact isBlank_of_mem_ofInt (List.head_mem _)

end Numeral

/-- Only counts in range are read. -/
theorem Count.inRange_of_read {text : Text} {count : Int}
    (hread : Count.read text = .ok count) : Count.inRange count := by
  rw [Count.read, Except.mapError_eq_ok_iff] at hread
  exact Numeral.inRange_of_readInteger hread

/-- A text that is no count is refused as what it is, for what its numeral is
refused for. -/
theorem Count.invalidCount_of_read {text : Text} {error : StageError}
    (hread : Count.read text = .error error) :
    ∃ fault, error = .invalidCount text fault ∧
      Numeral.readInteger text.trim = .error fault := by
  rw [Count.read, Except.mapError_eq_error_iff] at hread
  obtain ⟨fault, hfault, rfl⟩ := hread
  exact ⟨fault, rfl, hfault⟩

/-- A printed count in range is read as itself. -/
theorem Count.read_ofInt {count : Int} (hrange : Count.inRange count) :
    Count.read (Numeral.ofInt count) = .ok count := by
  rw [Count.read, Text.trim_eq_self (Numeral.beginsBlank_ofInt count)
    (Numeral.endsBlank_ofInt count), Numeral.readInteger_ofInt hrange]
  rfl

end FactStream
