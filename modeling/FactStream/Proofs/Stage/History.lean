import FactStream.Proofs.Stage.Traversal

/-!
# Runs told by the lines read so far

What a stage has done is a matter of the lines it has read.  Once it is said for
every list of lines whether they are accepted, what has been written of them and
what state they leave, a run needs no induction of its own: it goes through if
all of its lines are accepted, and otherwise it ends at the first line that is
not, with what the lines before it have written.
-/

namespace FactStream

/-- For any lines, whether they are accepted, and if so, what has been written of
them, how many of them were skipped and which state they leave. -/
structure History (State : Type) where
  Accepts : List Text → Prop
  written : List Text → List Fact
  skipped : List Text → Nat
  state : List Text → State

namespace Stage

variable {State : Type} {stage : Stage State} {history : History State}
  {Refuses : List Text → Text → StageError → Prop}

/-- The stage does with every next line what the history says: it accepts it, or
it refuses it with an error that `Refuses` allows behind the lines before. -/
structure Follows (stage : Stage State) (history : History State)
    (Refuses : List Text → Text → StageError → Prop) : Prop where
  accepts_nil : history.Accepts []
  accepts_of_concat : ∀ {lines line},
    history.Accepts (lines ++ [line]) → history.Accepts lines
  written_nil : history.written [] = []
  skipped_nil : history.skipped [] = 0
  state_nil : history.state [] = stage.initial
  accept : ∀ {lines line}, history.Accepts (lines ++ [line]) →
    ∃ facts interrupted outcome,
      stage.step (history.state lines) line.trim =
        .write facts interrupted (history.state (lines ++ [line])) outcome ∧
      history.written (lines ++ [line]) = history.written lines ++ facts ∧
      history.skipped (lines ++ [line]) =
        history.skipped lines + outcome.skips
  refuse : ∀ {lines line}, history.Accepts lines →
    ¬ history.Accepts (lines ++ [line]) →
      ∃ error left, stage.step (history.state lines) line.trim =
        .refuse error left ∧ Refuses lines line error
  not_isStream : ∀ {lines line error},
    Refuses lines line error → error.isStream = false

/-- The end of the lines is never refused. -/
def AlwaysFinishes (stage : Stage State) : Prop :=
  ∀ state, ∃ facts interrupted next,
    stage.finish state = .write facts interrupted next ()

namespace Follows

/-- Accepted lines are gone through as the history says.  The induction is on
the lines read, the last one first. -/
theorem traverse_eq (hfollows : stage.Follows history Refuses)
    {lines : List Text} (haccepts : history.Accepts lines) :
    traverse stage.step stage.initial (lines.map Text.trim) =
      ⟨history.written lines, history.skipped lines,
        .ok (history.state lines)⟩ := by
  induction lines using List.reverseRecOn with
  | nil =>
      rw [hfollows.written_nil, hfollows.skipped_nil, hfollows.state_nil]
      rfl
  | append_singleton lines line ih =>
      have hbefore := ih (hfollows.accepts_of_concat haccepts)
      obtain ⟨facts, interrupted, outcome, hstep, hwritten, hskipped⟩ :=
        hfollows.accept haccepts
      rw [List.map_append, List.map_singleton, traverse_append, hbefore,
        Traversal.andThen_ok, traverse_cons_write hstep, traverse_nil, hwritten,
        hskipped]
      simp [Traversal.behind, Traversal.done]

/-- Of lines that are not accepted there is a first one that is refused. -/
theorem exists_refused (hfollows : stage.Follows history Refuses)
    {lines : List Text} (hrefused : ¬ history.Accepts lines) :
    ∃ before line after error, lines = before ++ line :: after ∧
      history.Accepts before ∧ ¬ history.Accepts (before ++ [line]) ∧
      Refuses before line error ∧
      traverse stage.step stage.initial (lines.map Text.trim) =
        ⟨history.written before, history.skipped before,
          .error (before.length + 1, error)⟩ := by
  induction lines using List.reverseRecOn with
  | nil => exact absurd hfollows.accepts_nil hrefused
  | append_singleton lines line ih =>
      by_cases haccepts : history.Accepts lines
      · obtain ⟨error, left, hstep, herror⟩ := hfollows.refuse haccepts hrefused
        refine ⟨lines, line, [], error, rfl, haccepts, hrefused, herror, ?_⟩
        rw [List.map_append, List.map_singleton, traverse_append,
          hfollows.traverse_eq haccepts, Traversal.andThen_ok,
          traverse_cons_refuse hstep]
        simp [Traversal.refused]
      · obtain ⟨before, refused, after, error, rfl, hbefore, hnot, herror,
          htraverse⟩ := ih haccepts
        refine ⟨before, refused, after ++ [line], error, ?_, hbefore, hnot,
          herror, ?_⟩
        · simp
        · rw [List.map_append, traverse_append, htraverse,
            Traversal.andThen_error]

variable {text : Text}

theorem run_of_accepts (hfollows : stage.Follows history Refuses)
    (haccepts : history.Accepts text.lines) {facts : List Fact}
    {interrupted next : State}
    (hfinish : stage.finish (history.state text.lines) =
      .write facts interrupted next ()) :
    stage.run .unbounded text.encode =
      ⟨Fact.stream (history.written text.lines ++ facts),
        .ok ⟨stage.name, text.lines.length,
          (history.written text.lines ++ facts).length,
          history.skipped text.lines⟩⟩ := by
  have htraverse := hfollows.traverse_eq haccepts
  have hending := congrArg Traversal.ending htraverse
  rw [run_encode, reportFrom_write hending hfinish, htraverse, Nat.zero_add,
    Nat.zero_add, Nat.zero_add]

/-- If only the end is refused, no line is named. -/
theorem run_of_finish_refuse (hfollows : stage.Follows history Refuses)
    (haccepts : history.Accepts text.lines) {error : StageError} {left : State}
    (hfinish : stage.finish (history.state text.lines) = .refuse error left) :
    stage.run .unbounded text.encode =
      ⟨Fact.stream (history.written text.lines),
        .error (.ofError error)⟩ := by
  have htraverse := hfollows.traverse_eq haccepts
  have hending := congrArg Traversal.ending htraverse
  rw [run_encode, reportFrom_refuse hending hfinish, htraverse]

/-- A run over lines that are not all accepted ends at the first one that is
not. -/
theorem run_of_not_accepts (hfollows : stage.Follows history Refuses)
    (hrefused : ¬ history.Accepts text.lines) :
    ∃ before line after error, text.lines = before ++ line :: after ∧
      history.Accepts before ∧ ¬ history.Accepts (before ++ [line]) ∧
      Refuses before line error ∧
      stage.run .unbounded text.encode =
        ⟨Fact.stream (history.written before),
          .error ⟨some (before.length + 1), error⟩⟩ := by
  obtain ⟨before, line, after, error, hlines, hbefore, hnot, herror,
    htraverse⟩ := hfollows.exists_refused hrefused
  refine ⟨before, line, after, error, hlines, hbefore, hnot, herror, ?_⟩
  have hending := congrArg Traversal.ending htraverse
  rw [run_encode, reportFrom_error hending, htraverse, Nat.zero_add,
    Failure.atLine_of_not_isStream (hfollows.not_isStream herror)]

/-- A stage that never refuses the end of its lines succeeds exactly on the lines
that it accepts. -/
theorem succeeds_iff_accepts (hfollows : stage.Follows history Refuses)
    (hfinishes : stage.AlwaysFinishes) :
    (stage.run .unbounded text.encode).Succeeds ↔
      history.Accepts text.lines := by
  constructor
  · rintro ⟨summary, hresult⟩
    by_contra hrefused
    obtain ⟨before, line, after, error, -, -, -, -, hrun⟩ :=
      hfollows.run_of_not_accepts hrefused
    rw [hrun] at hresult
    cases hresult
  · intro haccepts
    obtain ⟨facts, interrupted, next, hfinish⟩ :=
      hfinishes (history.state text.lines)
    rw [hfollows.run_of_accepts haccepts hfinish]
    exact ⟨_, rfl⟩

theorem run_of_not_succeeds (hfollows : stage.Follows history Refuses)
    (hfinishes : stage.AlwaysFinishes)
    (hfails : ¬ (stage.run .unbounded text.encode).Succeeds) :
    ∃ before line after error, text.lines = before ++ line :: after ∧
      history.Accepts before ∧ Refuses before line error ∧
      stage.run .unbounded text.encode =
        ⟨Fact.stream (history.written before),
          .error ⟨some (before.length + 1), error⟩⟩ := by
  rw [hfollows.succeeds_iff_accepts hfinishes] at hfails
  obtain ⟨before, line, after, error, hlines, hbefore, -, hrefuses, hrun⟩ :=
    hfollows.run_of_not_accepts hfails
  exact ⟨before, line, after, error, hlines, hbefore, hrefuses, hrun⟩

end Follows

end Stage

end FactStream
