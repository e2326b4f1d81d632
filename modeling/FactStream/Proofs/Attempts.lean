/-!
# Objects asked by hand

An object answers requests one after the other.  A request that it refuses does
not stop the next one, which finds the object as the refusal has left it.  What
an object is at any time is then told by the requests that it has granted so
far, and two objects that answer alike at every step cannot be told apart.
-/

namespace FactStream

variable {Object Other Request Fault Answer : Type}

/-- A request with its answer. -/
structure Attempt (Request Fault Answer : Type) where
  request : Request
  answer : Except Fault Answer

namespace Attempt

/-- The request, if it has been granted. -/
def granted? (attempt : Attempt Request Fault Answer) : Option Request :=
  attempt.answer.toOption.map fun _ => attempt.request

end Attempt

/-- Attempts one after the other, and what has become of the object. -/
structure Trail (Object Request Fault Answer : Type) where
  attempts : List (Attempt Request Fault Answer)
  last : Object

namespace Trail

variable (trail : Trail Object Request Fault Answer)

/-- The requests that have been granted, in their order. -/
def granted : List Request :=
  trail.attempts.filterMap Attempt.granted?

/-- The answers to the requests that have been granted. -/
def answers : List Answer :=
  trail.attempts.filterMap fun attempt => attempt.answer.toOption

/-- The same behind another attempt. -/
def behind (attempt : Attempt Request Fault Answer) :
    Trail Object Request Fault Answer :=
  ⟨attempt :: trail.attempts, trail.last⟩

variable (request : Request) (answer : Answer) (fault : Fault)

@[simp]
theorem granted_behind_ok :
    (trail.behind ⟨request, .ok answer⟩).granted = request :: trail.granted :=
  rfl

@[simp]
theorem granted_behind_error :
    (trail.behind ⟨request, .error fault⟩).granted = trail.granted := rfl

@[simp]
theorem answers_behind_ok :
    (trail.behind ⟨request, .ok answer⟩).answers = answer :: trail.answers :=
  rfl

@[simp]
theorem answers_behind_error :
    (trail.behind ⟨request, .error fault⟩).answers = trail.answers := rfl

@[simp]
theorem last_behind (attempt : Attempt Request Fault Answer) :
    (trail.behind attempt).last = trail.last := rfl

end Trail

/-- A request is refused just if there is a cause; the refusal has one fault and
leaves the object as it was. -/
structure RefusesIff (object : Object)
    (response : Except Fault Answer × Object) (fault : Fault) (cause : Prop) :
    Prop where
  refused_iff : (∃ other left, response = (.error other, left)) ↔ cause
  unchanged : ∀ other left, response = (.error other, left) →
    other = fault ∧ left = object

namespace RefusesIff

variable {object left : Object} {response : Except Fault Answer × Object}
  {fault : Fault} {answer : Answer} {cause : Prop}

theorem of_error (hcause : cause) (hresponse : response = (.error fault, object)) :
    RefusesIff object response fault cause where
  refused_iff := iff_of_true ⟨fault, object, hresponse⟩ hcause
  unchanged := by
    rintro other left hother
    rw [hresponse] at hother
    cases hother
    exact ⟨rfl, rfl⟩

theorem of_ok (hcause : ¬ cause) (hresponse : response = (.ok answer, left)) :
    RefusesIff object response fault cause where
  refused_iff := by
    refine iff_of_false ?_ hcause
    rintro ⟨other, next, hother⟩
    rw [hresponse] at hother
    cases hother
  unchanged := by
    rintro other next hother
    rw [hresponse] at hother
    cases hother

end RefusesIff

section Respond

variable (respond : Object → Request → Except Fault Answer × Object)

/-- Makes the requests one after the other, whether they are granted or not. -/
def attemptAll (object : Object) :
    List Request → Trail Object Request Fault Answer
  | [] => ⟨[], object⟩
  | request :: requests =>
      (attemptAll (respond object request).2 requests).behind
        ⟨request, (respond object request).1⟩

variable {respond} {object next : Object} {request : Request}
  {requests : List Request}

theorem attemptAll_cons {answer : Except Fault Answer}
    (hrespond : respond object request = (answer, next)) :
    attemptAll respond object (request :: requests) =
      (attemptAll respond next requests).behind ⟨request, answer⟩ := by
  rw [attemptAll, hrespond]

/-- What every granted request makes true of itself and those granted before,
and every refusal leaves true, is true in the end. -/
theorem holds_attemptAll (Holds : List Request → Object → Prop)
    {past : List Request} (hstart : Holds past object)
    (hgrant : ∀ {past object request answer next}, request ∈ requests →
      Holds past object → respond object request = (.ok answer, next) →
      Holds (past ++ [request]) next)
    (hrefuse : ∀ {past object request fault next}, request ∈ requests →
      Holds past object → respond object request = (.error fault, next) →
      Holds past next) :
    Holds (past ++ (attemptAll respond object requests).granted)
      (attemptAll respond object requests).last := by
  induction requests generalizing object past with
  | nil => simpa [attemptAll, Trail.granted] using hstart
  | cons request requests ih =>
      simp only [List.mem_cons] at hgrant hrefuse
      have hrest : ∀ {past next}, Holds past next →
          Holds (past ++ (attemptAll respond next requests).granted)
            (attemptAll respond next requests).last := fun hnext =>
        ih hnext (fun hmem => hgrant (.inr hmem))
          (fun hmem => hrefuse (.inr hmem))
      rcases hrespond : respond object request with ⟨fault | answer, next⟩
      · rw [attemptAll_cons hrespond, Trail.granted_behind_error]
        exact hrest (hrefuse (.inl rfl) hstart hrespond)
      · rw [attemptAll_cons hrespond, Trail.granted_behind_ok, List.append_cons]
        exact hrest (hgrant (.inl rfl) hstart hrespond)

/-- Objects that answer alike, and are related again by what becomes of them,
give the same answers to any requests. -/
theorem attemptAll_of_related (Related : Object → Other → Prop)
    {respondOther : Other → Request → Except Fault Answer × Other}
    (hstep : ∀ {object other} request, Related object other →
      (respond object request).1 = (respondOther other request).1 ∧
        Related (respond object request).2 (respondOther other request).2)
    {other : Other} (hrelated : Related object other)
    (requests : List Request) :
    (attemptAll respond object requests).attempts =
        (attemptAll respondOther other requests).attempts ∧
      Related (attemptAll respond object requests).last
        (attemptAll respondOther other requests).last := by
  induction requests generalizing object other with
  | nil => exact ⟨rfl, hrelated⟩
  | cons request requests ih =>
      obtain ⟨hanswer, hnext⟩ := hstep request hrelated
      obtain ⟨hattempts, hlast⟩ := ih hnext
      rw [attemptAll, attemptAll, hanswer]
      exact ⟨congrArg (_ :: ·) hattempts, hlast⟩

end Respond

end FactStream
