/-!
# Results that are passed on

What is known of a step when the steps it is followed by are known to have
succeeded, or which of them has failed.
-/

namespace FactStream.Except

universe u v w

variable {Error Other : Type u} {Value : Type v} {Result : Type w}
  {attempt : Except Error Value}

theorem map_eq_ok_iff {f : Value → Result} {result : Result} :
    attempt.map f = .ok result ↔
      ∃ value, attempt = .ok value ∧ f value = result := by
  cases attempt <;> simp [Except.map]

theorem map_eq_error_iff {f : Value → Result} {error : Error} :
    attempt.map f = .error error ↔ attempt = .error error := by
  cases attempt <;> simp [Except.map]

theorem isOk_map (f : Value → Result) :
    (attempt.map f).isOk = attempt.isOk := by
  cases attempt <;> rfl

theorem mapError_eq_ok_iff {f : Error → Other} {value : Value} :
    attempt.mapError f = .ok value ↔ attempt = .ok value := by
  constructor
  · intro hmapped
    cases attempt with
    | error cause => cases hmapped
    | ok other =>
        cases hmapped
        rfl
  · rintro rfl
    rfl

theorem mapError_eq_error_iff {f : Error → Other} {error : Other} :
    attempt.mapError f = .error error ↔
      ∃ cause, attempt = .error cause ∧ f cause = error := by
  constructor
  · intro hmapped
    cases attempt with
    | error cause =>
        cases hmapped
        exact ⟨cause, rfl, rfl⟩
    | ok value => cases hmapped
  · rintro ⟨cause, rfl, rfl⟩
    rfl

theorem bind_eq_ok_iff {next : Value → Except Error Result} {result : Result} :
    attempt.bind next = .ok result ↔
      ∃ value, attempt = .ok value ∧ next value = .ok result := by
  cases attempt <;> simp [Except.bind]

end FactStream.Except
