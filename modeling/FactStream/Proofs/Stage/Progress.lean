import FactStream.Proofs.Stage.Traversal
import FactStream.Proofs.Text.Lines
import FactStream.Proofs.Text.Trim

/-!
# How far a run has come

Between two lines a run has read some lines, written some facts and skipped some
lines, and its stage is in some state.  What holds of these at the start and is
maintained by every line that the stage accepts holds wherever the run gets to.
A run ends in one of three ways: a line is refused, the end is refused, or
neither is.
-/

namespace FactStream

/-- What a run gives a stage to read. -/
structure Text.IsFed (line : Text) : Prop where
  trim_eq : line.trim = line
  lineFeed_not_mem : '\n' ∉ line

theorem Text.IsFed.not_beginsBlank {line : Text} (hline : line.IsFed) :
    line.beginsBlank = false := by
  rw [← hline.trim_eq]
  exact beginsBlank_trim line

theorem Text.IsFed.not_endsBlank {line : Text} (hline : line.IsFed) :
    line.endsBlank = false := by
  rw [← hline.trim_eq]
  exact endsBlank_trim line

/-- A line of a stream is fed without the blanks around it. -/
theorem Text.isFed_trim {line : Bytes} {text : Text} (hline : lineFeed ∉ line)
    (hdecode : line.decode? = some text) : text.trim.IsFed where
  trim_eq := trim_trim text
  lineFeed_not_mem := by
    intro hmem
    rw [← Bytes.encode_of_decode? hdecode, lineFeed_mem_encode_iff] at hline
    exact hline (mem_of_mem_trim hmem)

/-- Where a run is: the number of lines it has read, the facts it has written,
the number of lines it has skipped, and the state of its stage. -/
structure Progress (State : Type) where
  read : Nat
  written : List Fact
  skipped : Nat
  state : State

namespace Progress

variable {State : Type}

def start (state : State) : Progress State :=
  ⟨0, [], 0, state⟩

/-- One line further, which wrote `facts` and came out as `outcome`. -/
def advance (progress : Progress State) (facts : List Fact) (outcome : Outcome)
    (state : State) : Progress State :=
  ⟨progress.read + 1, progress.written ++ facts,
    progress.skipped + outcome.skips, state⟩

/-- A line that writes nothing leaves what has been written as it is. -/
theorem written_advance_nil (progress : Progress State) (outcome : Outcome)
    (state : State) :
    (progress.advance [] outcome state).written = progress.written :=
  List.append_nil _

end Progress

section Traverse

variable {State Line : Type} {step : State → Line → Reply State Outcome}

/-- In front of the line that is refused, all lines have been accepted. -/
theorem exists_refused_of_ending {state : State} {lines : List Line}
    {number : Nat} {error : StageError}
    (hending : (traverse step state lines).ending = .error (number, error)) :
    ∃ before line after reached left,
      lines = before ++ line :: after ∧ number = before.length + 1 ∧
      traverse step state before =
        { traverse step state lines with ending := .ok reached } ∧
      step reached line = .refuse error left := by
  induction lines generalizing state number with
  | nil => cases hending
  | cons line lines ih =>
      cases hstep : step state line with
      | refuse refusal left =>
          rw [traverse_cons_refuse hstep] at hending ⊢
          cases hending
          exact ⟨[], line, lines, state, left, rfl, rfl, rfl, hstep⟩
      | write facts interrupted next outcome =>
          rw [traverse_cons_write hstep] at hending ⊢
          cases hrest : (traverse step next lines).ending with
          | ok last =>
              rw [Traversal.behind, hrest] at hending
              cases hending
          | error failure =>
              obtain ⟨place, refusal⟩ := failure
              rw [Traversal.behind, hrest] at hending
              cases hending
              obtain ⟨before, refused, after, reached, left, hlines, hplace,
                hbefore, hrefused⟩ := ih hrest
              refine ⟨line :: before, refused, after, reached, left, ?_, ?_, ?_,
                hrefused⟩
              · rw [hlines, List.cons_append]
              · rw [hplace, List.length_cons, Nat.add_comm]
              · rw [traverse_cons_write hstep, hbefore]
                rfl

end Traverse

namespace Stage

variable {State : Type} {stage : Stage State}

/-- All of `lines` are accepted, and that is where the run is behind them. -/
def Reaches (stage : Stage State) (lines : List Bytes)
    (progress : Progress State) : Prop :=
  progress.read = lines.length ∧
    traverse stage.readLine stage.initial lines =
      ⟨progress.written, progress.skipped, .ok progress.state⟩

/-- Where a run is whose lines have all been accepted. -/
theorem reaches_of_ending {lines : List Bytes} {state : State}
    (hending :
      (traverse stage.readLine stage.initial lines).ending = .ok state) :
    stage.Reaches lines
      ⟨lines.length, (traverse stage.readLine stage.initial lines).facts,
        (traverse stage.readLine stage.initial lines).skipped, state⟩ :=
  ⟨rfl, by rw [← hending]⟩

theorem reaches_nil {progress : Progress State}
    (hreaches : stage.Reaches [] progress) :
    progress = .start stage.initial := by
  obtain ⟨read, written, skipped, state⟩ := progress
  obtain ⟨hread, htraverse⟩ := hreaches
  injection htraverse with hwritten hskipped hstate
  injection hstate with hstate
  simp only at hread hwritten hskipped hstate
  rw [hread, ← hwritten, ← hskipped, ← hstate]
  rfl

/-- What is behind one more line is one line further. -/
theorem reaches_concat {lines : List Bytes} {line : Bytes}
    {progress : Progress State}
    (hreaches : stage.Reaches (lines ++ [line]) progress) :
    ∃ earlier facts interrupted state outcome,
      stage.Reaches lines earlier ∧
      stage.readLine earlier.state line =
        .write facts interrupted state outcome ∧
      progress = earlier.advance facts outcome state := by
  obtain ⟨read, written, skipped, last⟩ := progress
  obtain ⟨hread, htraverse⟩ := hreaches
  rw [traverse_append, Traversal.andThen] at htraverse
  cases hending : (traverse stage.readLine stage.initial lines).ending with
  | error failure =>
      rw [hending] at htraverse
      cases htraverse
  | ok reached =>
      rw [hending] at htraverse
      simp only at htraverse
      cases hline : stage.readLine reached line with
      | refuse error left =>
          rw [traverse_cons_refuse hline] at htraverse
          cases htraverse
      | write facts interrupted next outcome =>
          rw [traverse_cons_write hline, traverse_nil] at htraverse
          cases htraverse
          refine ⟨_, facts, interrupted, last, outcome,
            reaches_of_ending hending, hline, ?_⟩
          rw [List.length_append, List.length_singleton] at hread
          simp only at hread
          rw [hread]
          simp [Progress.advance, Traversal.behind, Traversal.done]

/-- What a stage starts with and keeps with every line that it accepts. -/
structure Maintains (stage : Stage State) (Holds : Progress State → Prop) :
    Prop where
  start : Holds (.start stage.initial)
  step : ∀ {progress line facts interrupted state outcome},
    Holds progress → line.IsFed →
      stage.step progress.state line =
        .write facts interrupted state outcome →
      Holds (progress.advance facts outcome state)

theorem step_of_readLine {state interrupted next : State} {line : Bytes}
    {facts : List Fact} {outcome : Outcome}
    (hreply : stage.readLine state line =
      .write facts interrupted next outcome) :
    ∃ text, line.decode? = some text ∧
      stage.step state text.trim = .write facts interrupted next outcome := by
  rw [readLine] at hreply
  split at hreply
  · cases hreply
  · rename_i text hdecode
    exact ⟨text, hdecode, hreply⟩

/-- What a stage maintains holds wherever its runs get to.  The induction is on
the lines read, the last one first. -/
theorem Maintains.holds {Holds : Progress State → Prop}
    (hmaintains : stage.Maintains Holds) {lines : List Bytes}
    (hlines : ∀ line ∈ lines, lineFeed ∉ line) {progress : Progress State}
    (hreaches : stage.Reaches lines progress) : Holds progress := by
  induction lines using List.reverseRecOn generalizing progress with
  | nil =>
      rw [reaches_nil hreaches]
      exact hmaintains.start
  | append_singleton lines line ih =>
      obtain ⟨earlier, facts, interrupted, state, outcome, hearlier, hreply,
        rfl⟩ := reaches_concat hreaches
      obtain ⟨text, hdecode, hstep⟩ := step_of_readLine hreply
      have hbefore : Holds earlier := ih
        (fun other hother => hlines other (List.mem_append_left _ hother))
        hearlier
      have hfed : text.trim.IsFed := Text.isFed_trim
        (hlines line (List.mem_append_right _ (List.mem_singleton_self line)))
        hdecode
      exact hmaintains.step hbefore hfed hstep

section Run

variable {input : Bytes}

/-- A run that succeeds has come to the end of its input. -/
theorem reaches_of_run_ok {summary : Summary}
    (hresult : (stage.run .unbounded input).result = .ok summary) :
    ∃ progress facts interrupted next,
      stage.Reaches input.lines progress ∧
      stage.finish progress.state = .write facts interrupted next () ∧
      stage.run .unbounded input =
        ⟨Fact.stream (progress.written ++ facts),
          .ok ⟨stage.name, progress.read, (progress.written ++ facts).length,
            progress.skipped⟩⟩ := by
  rw [run_unbounded] at hresult ⊢
  obtain ⟨state, hending⟩ := ending_of_succeeds ⟨summary, hresult⟩
  cases hfinish : stage.finish state with
  | refuse error left =>
      rw [reportFrom_refuse hending hfinish] at hresult
      cases hresult
  | write facts interrupted next answer =>
      refine ⟨_, facts, interrupted, next, reaches_of_ending hending, hfinish,
        ?_⟩
      rw [reportFrom_write hending hfinish, Nat.zero_add, Nat.zero_add,
        Nat.zero_add]

/-- A run that fails has come to a line that its stage refuses, or to the end of
its input, which its stage refuses. -/
theorem reaches_of_run_error {failure : Failure}
    (hresult : (stage.run .unbounded input).result = .error failure) :
    (∃ before line after progress error left,
      input.lines = before ++ line :: after ∧ stage.Reaches before progress ∧
      stage.readLine progress.state line = .refuse error left ∧
      stage.run .unbounded input =
        ⟨Fact.stream progress.written,
          .error ((Failure.ofError error).atLine (before.length + 1))⟩) ∨
    ∃ progress error left,
      stage.Reaches input.lines progress ∧
      stage.finish progress.state = .refuse error left ∧
      stage.run .unbounded input =
        ⟨Fact.stream progress.written, .error (.ofError error)⟩ := by
  rw [run_unbounded] at hresult ⊢
  cases hending :
      (traverse stage.readLine stage.initial input.lines).ending with
  | error refusal =>
      obtain ⟨number, error⟩ := refusal
      obtain ⟨before, line, after, reached, left, hlines, hnumber, hbefore,
        hrefused⟩ := exists_refused_of_ending hending
      left
      refine ⟨before, line, after, ⟨before.length, _, _, reached⟩, error, left,
        hlines, ⟨rfl, hbefore⟩, hrefused, ?_⟩
      rw [reportFrom_error hending, hnumber, Nat.zero_add]
  | ok state =>
      cases hfinish : stage.finish state with
      | refuse error left =>
          right
          refine ⟨_, error, left, reaches_of_ending hending, hfinish, ?_⟩
          rw [reportFrom_refuse hending hfinish]
      | write facts interrupted next answer =>
          rw [reportFrom_write hending hfinish] at hresult
          cases hresult

end Run

end Stage

end FactStream
