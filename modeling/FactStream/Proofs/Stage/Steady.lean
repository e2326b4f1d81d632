import FactStream.Proofs.Stage.Traversal

/-!
# Stages that remember nothing

A stage that stays in one state answers every line by itself, so its run is
told line by line: it succeeds when every line is accepted, and it writes what
the lines give, one after the other.
-/

namespace FactStream

variable {State Line : Type}

/-- How a line is answered by itself: with the facts it gives and its outcome,
or with an error. -/
abbrev Answer := Except StageError (List Fact × Outcome)

namespace Answer

def facts : Answer → List Fact
  | .ok (facts, _) => facts
  | .error _ => []

/-- The line did not have the expected shape. -/
def isSkipped : Answer → Bool
  | .ok (_, .skipped) => true
  | _ => false

/-- The reply of a stage that answers in `state` and stays there. -/
def replyIn (state : State) : Answer → Reply State Outcome
  | .ok (facts, outcome) => .write facts state state outcome
  | .error error => .refuse error state

end Answer

/-- In `state` every line is replied to with its answer, and the state stays. -/
def IsSteady (step : State → Line → Reply State Outcome) (state : State)
    (answer : Line → Answer) : Prop :=
  ∀ line, step state line = (answer line).replyIn state

section Traverse

variable {step : State → Line → Reply State Outcome} {state : State}
  {answer : Line → Answer}

theorem traverse_cons_of_error (hsteady : IsSteady step state answer)
    {line : Line} {error : StageError} (hline : answer line = .error error)
    (lines : List Line) :
    traverse step state (line :: lines) = .refused error := by
  have hreply : step state line = .refuse error state := by
    rw [hsteady line, hline, Answer.replyIn]
  exact traverse_cons_refuse hreply lines

theorem traverse_cons_of_ok (hsteady : IsSteady step state answer) {line : Line}
    {facts : List Fact} {outcome : Outcome}
    (hline : answer line = .ok (facts, outcome))
    (lines : List Line) :
    traverse step state (line :: lines) =
      (traverse step state lines).behind facts outcome := by
  have hreply : step state line = .write facts state state outcome := by
    rw [hsteady line, hline, Answer.replyIn]
  exact traverse_cons_write hreply lines

/-- Accepted lines give their facts one after the other. -/
theorem traverse_of_accepted (hsteady : IsSteady step state answer)
    {lines : List Line}
    (haccepted : ∀ line ∈ lines, (answer line).isOk) :
    traverse step state lines =
      ⟨lines.flatMap fun line => (answer line).facts,
        lines.countP fun line => (answer line).isSkipped, .ok state⟩ := by
  induction lines with
  | nil => rfl
  | cons line lines ih =>
      have htail := ih fun other hother =>
        haccepted other (List.mem_cons_of_mem line hother)
      cases hline : answer line with
      | error error =>
          have hfirst := haccepted line List.mem_cons_self
          rw [hline] at hfirst
          exact Bool.noConfusion hfirst
      | ok answered =>
          obtain ⟨facts, outcome⟩ := answered
          rw [traverse_cons_of_ok hsteady hline, htail, List.flatMap_cons,
            List.countP_cons, hline, Traversal.behind]
          cases outcome <;> simp [Answer.facts, Answer.isSkipped, Outcome.skips,
            Nat.add_comm]

/-- Lines that were read to their end have all been accepted. -/
theorem accepted_of_ending (hsteady : IsSteady step state answer)
    {lines : List Line}
    {last : State} (hending : (traverse step state lines).ending = .ok last) :
    ∀ line ∈ lines, (answer line).isOk := by
  induction lines with
  | nil => exact List.forall_mem_nil _
  | cons line lines ih =>
      cases hline : answer line with
      | error error =>
          rw [traverse_cons_of_error hsteady hline] at hending
          simp [Traversal.refused] at hending
      | ok answered =>
          obtain ⟨facts, outcome⟩ := answered
          rw [traverse_cons_of_ok hsteady hline] at hending
          rw [List.forall_mem_cons, hline]
          exact ⟨rfl, ih (Traversal.ending_of_behind hending)⟩

end Traverse

namespace Stage

variable {stage : Stage State} {answer : Text → Answer} {text : Text}

/-- A stage that remembers nothing and writes nothing at the end. -/
structure IsMapper (stage : Stage State) (answer : Text → Answer) : Prop where
  steady : IsSteady stage.step stage.initial answer
  finish : stage.finish = finishEmpty

/-- The report of a run of a mapper that accepts every line. -/
def mapperReport (stage : Stage State) (answer : Text → Answer)
    (lines : List Text) :
    RunReport :=
  let facts := lines.flatMap fun line => (answer line.trim).facts
  ⟨Fact.stream facts, .ok ⟨stage.name, lines.length, facts.length,
    lines.countP fun line => (answer line.trim).isSkipped⟩⟩

theorem run_of_accepted (hmapper : stage.IsMapper answer)
    (haccepted : ∀ line ∈ text.lines, (answer line.trim).isOk) :
    stage.run .unbounded text.encode =
      stage.mapperReport answer text.lines := by
  have htraverse := traverse_of_accepted hmapper.steady
    (List.forall_mem_map.mpr haccepted)
  have hending := congrArg Traversal.ending htraverse
  have hfinish : stage.finish stage.initial =
      .write [] stage.initial stage.initial () := by
    rw [hmapper.finish]
    rfl
  rw [run_encode, reportFrom_write hending hfinish, htraverse, mapperReport,
    List.append_nil, List.flatMap_map, List.countP_map, Nat.zero_add,
    Nat.zero_add, Nat.zero_add]
  rfl

/-- A mapper succeeds when it accepts every line. -/
theorem succeeds_iff_accepted (hmapper : stage.IsMapper answer) :
    (stage.run .unbounded text.encode).Succeeds ↔
      ∀ line ∈ text.lines, (answer line.trim).isOk := by
  constructor
  · intro hsucceeds
    rw [run_encode] at hsucceeds
    obtain ⟨last, hending⟩ := ending_of_succeeds hsucceeds
    have haccepted := accepted_of_ending hmapper.steady hending
    rwa [List.forall_mem_map] at haccepted
  · intro haccepted
    rw [run_of_accepted hmapper haccepted]
    exact ⟨_, rfl⟩

end Stage

end FactStream
