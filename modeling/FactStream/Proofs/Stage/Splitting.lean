import FactStream.Proofs.Stage.Steady
import FactStream.Proofs.Text.Lines

/-!
# Runs over an input in two parts

A mapper remembers nothing, so at the end of a line its run might as well begin
anew: a run over two inputs, one behind the other, is a run over the first and
then a run of its own over the second.  Only the line numbers and the figures
of the second depend on what came before it.
-/

namespace FactStream

/-- The failure as it is behind `lines` more lines. -/
def Failure.behind (lines : Nat) (failure : Failure) : Failure :=
  { failure with line := failure.line.map (lines + ·) }

theorem Failure.behind_atLine (lines line : Nat) (error : StageError) :
    ((ofError error).atLine line).behind lines =
      (ofError error).atLine (lines + line) := by
  cases hstream : error.isStream with
  | true =>
      rw [atLine_of_isStream hstream, atLine_of_isStream hstream]
      rfl
  | false =>
      rw [atLine_of_not_isStream hstream, atLine_of_not_isStream hstream]
      rfl

namespace Summary

/-- The figures of two runs together. -/
def add (first second : Summary) : Summary :=
  ⟨first.stage, first.linesRead + second.linesRead,
    first.linesEmitted + second.linesEmitted,
    first.linesSkipped + second.linesSkipped⟩

end Summary

namespace RunReport

/-- The report of a run that, where the first one ends, goes on as the second
one.  The second one is not begun if the first one fails. -/
def followedBy (first second : RunReport) : RunReport :=
  match first.result with
  | .error _ => first
  | .ok summary =>
      ⟨first.output ++ second.output,
        match second.result with
        | .ok other => .ok (summary.add other)
        | .error failure => .error (failure.behind summary.linesRead)⟩

section FollowedBy

variable {first second : RunReport} {summary : Summary}

theorem followedBy_of_error {failure : Failure}
    (hfirst : first.result = .error failure) :
    first.followedBy second = first := by
  rw [followedBy, hfirst]

theorem followedBy_of_ok {other : Summary} (hfirst : first.result = .ok summary)
    (hsecond : second.result = .ok other) :
    first.followedBy second =
      ⟨first.output ++ second.output, .ok (summary.add other)⟩ := by
  rw [followedBy, hfirst]
  simp only [hsecond]

theorem followedBy_of_ok_of_error {failure : Failure}
    (hfirst : first.result = .ok summary)
    (hsecond : second.result = .error failure) :
    first.followedBy second =
      ⟨first.output ++ second.output,
        .error (failure.behind summary.linesRead)⟩ := by
  rw [followedBy, hfirst]
  simp only [hsecond]

theorem succeeds_followedBy :
    (first.followedBy second).Succeeds ↔ first.Succeeds ∧ second.Succeeds := by
  cases hfirst : first.result with
  | error failure =>
      rw [followedBy_of_error hfirst]
      simp [Succeeds, hfirst]
  | ok summary =>
      cases hsecond : second.result with
      | error failure =>
          rw [followedBy_of_ok_of_error hfirst hsecond]
          simp [Succeeds, hsecond]
      | ok other =>
          rw [followedBy_of_ok hfirst hsecond]
          simp [Succeeds, hfirst, hsecond]

end FollowedBy

end RunReport

section Steady

variable {State Line : Type} {step : State → Line → Reply State Outcome}
  {state : State} {answer : Line → Answer}

theorem ending_of_steady (hsteady : IsSteady step state answer)
    {lines : List Line} {last : State}
    (hending : (traverse step state lines).ending = .ok last) :
    last = state := by
  have haccepted := accepted_of_ending hsteady hending
  rw [traverse_of_accepted hsteady haccepted] at hending
  exact (Except.ok.inj hending).symm

/-- The lines behind are traversed as if there were none in front. -/
theorem traverse_append_of_steady (hsteady : IsSteady step state answer)
    (front rest : List Line) :
    traverse step state (front ++ rest) =
      (traverse step state front).andThen front.length
        fun _ => traverse step state rest := by
  rw [traverse_append, Traversal.andThen, Traversal.andThen]
  cases hending : (traverse step state front).ending with
  | error failure => rfl
  | ok last => rw [ending_of_steady hsteady hending]

end Steady

namespace Stage

variable {State : Type} {stage : Stage State} {answer : Text → Answer}

/-- How a line is answered that is not decoded yet; if it cannot be, that is
its answer. -/
def answerBytes (answer : Text → Answer) (line : Bytes) : Answer :=
  match line.decode? with
  | none => .error (.stream .notUtf8)
  | some text => answer text.trim

theorem IsMapper.steady_readLine (hmapper : stage.IsMapper answer) :
    IsSteady stage.readLine stage.initial (answerBytes answer) := by
  intro line
  rw [readLine, answerBytes]
  cases line.decode? with
  | none => rfl
  | some text => exact hmapper.steady text.trim

theorem reportFrom_finishEmpty (hfinish : stage.finish = finishEmpty)
    {traversal : Traversal State} {state : State}
    (hending : traversal.ending = .ok state) (lines : Nat) :
    stage.reportFrom 0 0 0 lines traversal =
      ⟨Fact.stream traversal.facts, .ok ⟨stage.name, lines,
        traversal.facts.length, traversal.skipped⟩⟩ := by
  have hwrite : stage.finish state = .write [] state state () := by
    rw [hfinish]
    rfl
  rw [reportFrom_write hending hwrite, List.append_nil, Nat.zero_add,
    Nat.zero_add, Nat.zero_add]

theorem reportFrom_andThen (hfinish : stage.finish = finishEmpty)
    (first second : Traversal State) (front rest : Nat) :
    stage.reportFrom 0 0 0 (front + rest) (first.andThen front fun _ => second) =
      (stage.reportFrom 0 0 0 front first).followedBy
        (stage.reportFrom 0 0 0 rest second) := by
  cases hfirst : first.ending with
  | error failure =>
      have hwhole : (first.andThen front fun _ => second) = first := by
        rw [Traversal.andThen, hfirst]
        exact congrArg _ hfirst.symm
      obtain ⟨line, error⟩ := failure
      rw [hwhole, reportFrom_error hfirst, reportFrom_error hfirst]
      exact (RunReport.followedBy_of_error rfl).symm
  | ok state =>
      have hwhole : (first.andThen front fun _ => second) =
          ⟨first.facts ++ second.facts, first.skipped + second.skipped,
            Traversal.shift front second.ending⟩ := by
        rw [Traversal.andThen, hfirst]
      rw [reportFrom_finishEmpty hfinish hfirst, hwhole]
      cases hsecond : second.ending with
      | error failure =>
          obtain ⟨line, error⟩ := failure
          rw [reportFrom_error hsecond,
            RunReport.followedBy_of_ok_of_error rfl rfl,
            reportFrom_error (Traversal.shift_error front line error),
            Failure.behind_atLine, Fact.stream_append, Nat.zero_add,
            Nat.zero_add]
      | ok last =>
          rw [reportFrom_finishEmpty hfinish hsecond,
            RunReport.followedBy_of_ok rfl rfl,
            reportFrom_finishEmpty hfinish (Traversal.shift_ok front last),
            Fact.stream_append, List.length_append]
          rfl

/-- A run of a mapper may begin anew at the end of any line. -/
theorem IsMapper.run_append (hmapper : stage.IsMapper answer) {front : Bytes}
    (hfront : IsTerminated lineFeed front) (rest : Bytes) :
    stage.run .unbounded (front ++ rest) =
      (stage.run .unbounded front).followedBy (stage.run .unbounded rest) := by
  have hlines : Bytes.lines (front ++ rest) =
      Bytes.lines front ++ Bytes.lines rest := terminated_append hfront rest
  rw [run_unbounded, run_unbounded, run_unbounded, hlines, List.length_append,
    traverse_append_of_steady hmapper.steady_readLine,
    reportFrom_andThen hmapper.finish]

/-- A mapper that succeeds has read every line. -/
theorem IsMapper.linesRead_eq (hmapper : stage.IsMapper answer) {input : Bytes}
    {summary : Summary}
    (hresult : (stage.run .unbounded input).result = .ok summary) :
    summary.linesRead = input.lines.length := by
  rw [run_unbounded] at hresult
  obtain ⟨last, hending⟩ := ending_of_succeeds ⟨summary, hresult⟩
  rw [reportFrom_finishEmpty hmapper.finish hending] at hresult
  rw [← Except.ok.inj hresult]

end Stage

end FactStream
