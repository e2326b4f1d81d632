import FactStream.Proofs.Text.Numeral

/-!
# The grammar of numerals

A row of ASCII digits stands for a natural number, however many zeros it begins
with, and a sign may stand in front of it.  The reader accepts exactly the
numerals of this grammar whose value is in range: it gives up at a digit that
takes the value past the limit, but no later digit would bring it back.
-/

namespace FactStream

/-- One or more ASCII digits. -/
structure Text.IsDigits (text : Text) : Prop where
  ne_nil : text ≠ []
  isDigit : ∀ character ∈ text, character.isDigit

theorem Text.not_isDigits_nil : ¬ IsDigits [] :=
  fun hdigits => hdigits.ne_nil rfl

namespace Numeral

/-- An integer in writing. -/
inductive Denotes : Text → Int → Prop
  | unsigned {digits : Text} (hdigits : digits.IsDigits) :
      Denotes digits (Nat.ofDigitChars 10 digits 0 : Nat)
  | plus {digits : Text} (hdigits : digits.IsDigits) :
      Denotes ('+' :: digits) (Nat.ofDigitChars 10 digits 0 : Nat)
  | minus {digits : Text} (hdigits : digits.IsDigits) :
      Denotes ('-' :: digits) (-(Nat.ofDigitChars 10 digits 0 : Nat))

section Grammar

variable {digits rest : Text} {first : Char} {value : Int}

theorem denotes_plus_iff :
    Denotes ('+' :: digits) value ↔
      digits.IsDigits ∧ value = (Nat.ofDigitChars 10 digits 0 : Nat) := by
  constructor
  · rintro (hdigits | hdigits | hdigits)
    · exact absurd (hdigits.isDigit '+' List.mem_cons_self) (by decide)
    · exact ⟨hdigits, rfl⟩
  · rintro ⟨hdigits, rfl⟩
    exact .plus hdigits

theorem denotes_minus_iff :
    Denotes ('-' :: digits) value ↔
      digits.IsDigits ∧ value = -(Nat.ofDigitChars 10 digits 0 : Nat) := by
  constructor
  · rintro (hdigits | hdigits | hdigits)
    · exact absurd (hdigits.isDigit '-' List.mem_cons_self) (by decide)
    · exact ⟨hdigits, rfl⟩
  · rintro ⟨hdigits, rfl⟩
    exact .minus hdigits

theorem denotes_unsigned_iff (hplus : first ≠ '+') (hminus : first ≠ '-') :
    Denotes (first :: rest) value ↔
      Text.IsDigits (first :: rest) ∧
        value = (Nat.ofDigitChars 10 (first :: rest) 0 : Nat) := by
  constructor
  · rintro (hdigits | hdigits | hdigits)
    · exact ⟨hdigits, rfl⟩
    · exact absurd rfl hplus
    · exact absurd rfl hminus
  · rintro ⟨hdigits, rfl⟩
    exact .unsigned hdigits

theorem not_denotes_nil : ¬ Denotes [] value := by
  intro hdenotes
  cases hdenotes with
  | unsigned hdigits => exact Text.not_isDigits_nil hdigits

end Grammar

theorem isDigit_iff {character : Char} :
    character.isDigit ↔ '0' ≤ character ∧ character ≤ '9' := by
  rw [Char.isDigit, Bool.and_eq_true, decide_eq_true_eq, decide_eq_true_eq]
  rfl

theorem digit?_of_isDigit {character : Char} (hdigit : character.isDigit) :
    digit? character = some (character.toNat - '0'.toNat) := by
  rw [digit?, if_pos (isDigit_iff.mp hdigit)]

theorem digit?_of_not_isDigit {character : Char}
    (hdigit : ¬ character.isDigit) : digit? character = none := by
  rw [digit?, if_neg (mt isDigit_iff.mpr hdigit)]

/-- More digits never make a value smaller. -/
theorem le_ofDigitChars (value : Nat) (digits : Text) :
    value ≤ Nat.ofDigitChars 10 digits value := by
  rw [Nat.ofDigitChars_eq_ofDigitChars_zero]
  exact Nat.le_add_right_of_le
    (Nat.le_mul_of_pos_left value (Nat.pow_pos (by decide)))

/-- A magnitude is read exactly if it is made up of digits and its value is
within the limit. -/
theorem magnitude_eq_ok_iff {limit value result : Nat} {beyond : NumeralFault}
    {text : Text} (hvalue : value ≤ limit) :
    magnitude limit beyond value text = .ok result ↔
      (∀ character ∈ text, character.isDigit) ∧
        Nat.ofDigitChars 10 text value = result ∧ result ≤ limit := by
  induction text generalizing value with
  | nil =>
      rw [magnitude, Except.ok.injEq, Nat.ofDigitChars_nil]
      constructor
      · rintro rfl
        exact ⟨List.forall_mem_nil _, rfl, hvalue⟩
      · exact fun hread => hread.2.1
  | cons character rest ih =>
      rw [magnitude, List.forall_mem_cons, Nat.ofDigitChars_cons,
        Nat.mul_comm 10 value]
      by_cases hdigit : character.isDigit
      · rw [digit?_of_isDigit hdigit]
        by_cases hlimit : value * 10 + (character.toNat - '0'.toNat) ≤ limit
        · simp only [hlimit, if_true, ih hlimit, hdigit, true_and]
        · simp only [hlimit, if_false, reduceCtorEq, false_iff]
          rintro ⟨-, rfl, hresult⟩
          exact hlimit ((le_ofDigitChars _ rest).trans hresult)
      · rw [digit?_of_not_isDigit hdigit]
        simp [hdigit]

theorem readInteger_plus {digits : Text} (hne : digits ≠ []) :
    readInteger ('+' :: digits) =
      (magnitude (integerLimit - 1) .tooLarge 0 digits).map Int.ofNat := by
  cases digits with
  | nil => exact absurd rfl hne
  | cons first rest => rfl

section Reader

variable {digits : Text} {value : Int}

/-- What is read without a minus. -/
theorem map_magnitude_eq_ok_iff (hne : digits ≠ []) :
    (magnitude (integerLimit - 1) .tooLarge 0 digits).map Int.ofNat =
        .ok value ↔
      (digits.IsDigits ∧ value = (Nat.ofDigitChars 10 digits 0 : Nat)) ∧
        Count.inRange value := by
  have hpos : 0 < integerLimit := by decide
  simp only [Except.map_eq_ok_iff, magnitude_eq_ok_iff (Nat.zero_le _),
    Count.inRange_iff, Int.ofNat_eq_natCast]
  constructor
  · rintro ⟨_, ⟨hdigits, rfl, hlimit⟩, rfl⟩
    exact ⟨⟨⟨hne, hdigits⟩, rfl⟩, by omega, by omega⟩
  · rintro ⟨⟨hdigits, rfl⟩, -, hlimit⟩
    exact ⟨_, ⟨hdigits.isDigit, rfl, by omega⟩, rfl⟩

theorem readInteger_minus_eq_ok_iff (hne : digits ≠ []) :
    readInteger ('-' :: digits) = .ok value ↔
      (digits.IsDigits ∧ value = -(Nat.ofDigitChars 10 digits 0 : Nat)) ∧
        Count.inRange value := by
  have hpos : 0 < integerLimit := by decide
  have hread : readInteger ('-' :: digits) =
      (magnitude integerLimit .tooSmall 0 digits).map
        fun (result : Nat) => -(result : Int) := by
    rw [readInteger_minus hne]
    cases magnitude integerLimit .tooSmall 0 digits <;> rfl
  simp only [hread, Except.map_eq_ok_iff, magnitude_eq_ok_iff (Nat.zero_le _),
    Count.inRange_iff]
  constructor
  · rintro ⟨_, ⟨hdigits, rfl, hlimit⟩, rfl⟩
    exact ⟨⟨⟨hne, hdigits⟩, rfl⟩, by omega, by omega⟩
  · rintro ⟨⟨hdigits, rfl⟩, hlimit, -⟩
    exact ⟨_, ⟨hdigits.isDigit, rfl, by omega⟩, rfl⟩

end Reader

/-- The reader accepts the numerals in range, and no other text. -/
theorem readInteger_eq_ok_iff {text : Text} {value : Int} :
    readInteger text = .ok value ↔ Denotes text value ∧ Count.inRange value := by
  cases text with
  | nil => simp [readInteger, not_denotes_nil]
  | cons first digits =>
      by_cases hplus : first = '+'
      · subst hplus
        rw [denotes_plus_iff]
        by_cases hne : digits = []
        · simp [hne, readInteger, Text.not_isDigits_nil]
        · rw [readInteger_plus hne, map_magnitude_eq_ok_iff hne]
      by_cases hminus : first = '-'
      · subst hminus
        rw [denotes_minus_iff]
        by_cases hne : digits = []
        · simp [hne, readInteger, Text.not_isDigits_nil]
        · exact readInteger_minus_eq_ok_iff hne
      rw [readInteger_unsigned hplus hminus, denotes_unsigned_iff hplus hminus,
        map_magnitude_eq_ok_iff (List.cons_ne_nil first digits)]

end Numeral

/-- A count is read if what is left between the blanks is a numeral in range. -/
theorem Count.read_eq_ok_iff {text : Text} {count : Int} :
    Count.read text = .ok count ↔
      Numeral.Denotes text.trim count ∧ Count.inRange count := by
  rw [Count.read, Except.mapError_eq_ok_iff, Numeral.readInteger_eq_ok_iff]

end FactStream
