import FactStream.Proofs.Fact
import FactStream.Stage.Run

/-!
# Runs with a sink that takes everything

When no write can fail, the sink and the counters of a run follow from what the
stage replies, so a run is described by the facts it writes, the lines it skips
and where it ends.  That description obeys a law for lines put one behind the
other, which is what proofs about stages are by induction on.
-/

namespace FactStream

/-- What a stage makes of its lines: the facts written, the number of lines
skipped, and either the state it is left in or the number of the line that it
refuses, with the error. -/
structure Traversal (State : Type) where
  facts : List Fact
  skipped : Nat
  ending : Except (Nat × StageError) State

namespace Traversal

variable {State : Type}

def done (state : State) : Traversal State :=
  ⟨[], 0, .ok state⟩

def refused (error : StageError) : Traversal State :=
  ⟨[], 0, .error (1, error)⟩

/-- The ending as it is behind `lines` more lines. -/
def shift (lines : Nat) (ending : Except (Nat × StageError) State) :
    Except (Nat × StageError) State :=
  ending.mapError fun failure => (lines + failure.1, failure.2)

/-- The same behind a line that wrote `facts` and came out as `outcome`. -/
def behind (facts : List Fact) (outcome : Outcome)
    (traversal : Traversal State) :
    Traversal State :=
  ⟨facts ++ traversal.facts, outcome.skips + traversal.skipped,
    shift 1 traversal.ending⟩

/-- Goes on after `lines` lines, unless one of them was refused. -/
def andThen (traversal : Traversal State) (lines : Nat)
    (next : State → Traversal State) : Traversal State :=
  match traversal.ending with
  | .error failure => ⟨traversal.facts, traversal.skipped, .error failure⟩
  | .ok state =>
      ⟨traversal.facts ++ (next state).facts,
        traversal.skipped + (next state).skipped,
        shift lines (next state).ending⟩

@[simp]
theorem shift_ok (lines : Nat) (state : State) :
    shift lines (.ok state) = .ok state := rfl

@[simp]
theorem shift_error (lines line : Nat) (error : StageError) :
    shift lines (.error (line, error) : Except _ State) =
      .error (lines + line, error) := rfl

theorem shift_shift (first second : Nat)
    (ending : Except (Nat × StageError) State) :
    shift first (shift second ending) = shift (first + second) ending := by
  cases ending with
  | ok state => rfl
  | error failure => simp [shift, Except.mapError, Nat.add_assoc]

@[simp]
theorem shift_zero (ending : Except (Nat × StageError) State) :
    shift 0 ending = ending := by
  cases ending with
  | ok state => rfl
  | error failure => simp [shift, Except.mapError]

@[simp]
theorem andThen_ok (facts : List Fact) (skipped : Nat) (state : State)
    (lines : Nat) (next : State → Traversal State) :
    andThen ⟨facts, skipped, .ok state⟩ lines next =
      ⟨facts ++ (next state).facts, skipped + (next state).skipped,
        shift lines (next state).ending⟩ := rfl

@[simp]
theorem andThen_error (facts : List Fact) (skipped : Nat)
    (failure : Nat × StageError) (lines : Nat)
    (next : State → Traversal State) :
    andThen ⟨facts, skipped, .error failure⟩ lines next =
      ⟨facts, skipped, .error failure⟩ := rfl

theorem shift_eq_ok {lines : Nat} {state : State}
    {ending : Except (Nat × StageError) State}
    (hending : shift lines ending = .ok state) :
    ending = .ok state := by
  cases ending with
  | ok reached => exact hending
  | error failure => simp [shift, Except.mapError] at hending

theorem ending_of_behind {facts : List Fact} {outcome : Outcome}
    {traversal : Traversal State} {state : State}
    (hending : (traversal.behind facts outcome).ending = .ok state) :
    traversal.ending = .ok state :=
  shift_eq_ok hending

end Traversal

section Traverse

variable {State Line : Type}

/-- Feeds lines to a stage one after the other. -/
def traverse (step : State → Line → Reply State Outcome) :
    State → List Line → Traversal State
  | state, [] => .done state
  | state, line :: lines =>
      match step state line with
      | .refuse error _ => .refused error
      | .write facts _ next outcome =>
          (traverse step next lines).behind facts outcome

variable {step : State → Line → Reply State Outcome}

@[simp]
theorem traverse_nil (state : State) :
    traverse step state [] = .done state := rfl

theorem traverse_cons_refuse {state left : State} {line : Line}
    {error : StageError}
    (hstep : step state line = .refuse error left) (lines : List Line) :
    traverse step state (line :: lines) = .refused error := by
  rw [traverse, hstep]

theorem traverse_cons_write {state interrupted next : State} {line : Line}
    {facts : List Fact} {outcome : Outcome}
    (hstep : step state line = .write facts interrupted next outcome)
    (lines : List Line) :
    traverse step state (line :: lines) =
      (traverse step next lines).behind facts outcome := by
  rw [traverse, hstep]

/-- Lines behind other lines are fed to the state that those have left. -/
theorem traverse_append (state : State) (front rest : List Line) :
    traverse step state (front ++ rest) =
      (traverse step state front).andThen front.length
        fun next => traverse step next rest := by
  induction front generalizing state with
  | nil => simp [Traversal.done, Traversal.andThen]
  | cons line front ih =>
      rw [List.cons_append]
      cases hstep : step state line with
      | refuse error left =>
          rw [traverse_cons_refuse hstep, traverse_cons_refuse hstep]
          rfl
      | write facts interrupted next outcome =>
          rw [traverse_cons_write hstep, traverse_cons_write hstep, ih next]
          cases hending : (traverse step next front).ending with
          | error failure =>
              simp [Traversal.andThen, Traversal.behind, hending,
                Traversal.shift, Except.mapError]
          | ok reached =>
              simp [Traversal.andThen, Traversal.behind, hending,
                Traversal.shift_shift, Nat.add_assoc, Nat.add_comm 1]

/-- Lines that stand for other items are fed as those items. -/
theorem traverse_map {Item : Type} (state : State) (read : Item → Line)
    (items : List Item) :
    traverse step state (items.map read) =
      traverse (fun current item => step current (read item)) state items := by
  induction items generalizing state with
  | nil => rfl
  | cons item items ih =>
      rw [List.map_cons, traverse, traverse]
      cases step state (read item) with
      | refuse error left => rfl
      | write facts interrupted next outcome => simp only [ih]

end Traverse

theorem Sink.writeFacts_unbounded (facts : List Fact) :
    Sink.unbounded.writeFacts facts =
      ⟨Fact.stream facts, facts.length, .unbounded, true⟩ := by
  induction facts with
  | nil => rfl
  | cons fact facts ih =>
      have hfirst : Sink.unbounded.writeFact fact =
          ⟨fact.bytes, 1, .unbounded, true⟩ := rfl
      rw [Sink.writeFacts, hfirst]
      simp only [if_true, ih, Fact.stream_cons, List.length_cons,
        Nat.add_comm 1]

namespace RunReport

/-- The run came to its end. -/
def Succeeds (report : RunReport) : Prop :=
  ∃ summary, report.result = .ok summary

end RunReport

namespace Stage

variable {State : Type}

/-- Reads a line as a run does: decoded and trimmed.  What cannot be decoded
counts as refused, whatever the state. -/
def readLine (stage : Stage State) (state : State) (line : Bytes) :
    Reply State Outcome :=
  match line.decode? with
  | none => .refuse (.stream .notUtf8) state
  | some text => stage.step state text.trim

theorem readLine_encode (stage : Stage State) (state : State) (text : Text) :
    stage.readLine state text.encode = stage.step state text.trim := by
  rw [readLine, Bytes.decode?_encode]

/-- The report of a run that has read, written and skipped as much as the
numbers say and then goes through `lines` more lines as described. -/
def reportFrom (stage : Stage State) (read emitted skipped lines : Nat)
    (traversal : Traversal State) : RunReport :=
  match traversal.ending with
  | .error (line, error) =>
      ⟨Fact.stream traversal.facts,
        .error ((Failure.ofError error).atLine (read + line))⟩
  | .ok state =>
      match stage.finish state with
      | .refuse error _ =>
          ⟨Fact.stream traversal.facts, .error (.ofError error)⟩
      | .write facts _ _ () =>
          ⟨Fact.stream (traversal.facts ++ facts),
            .ok ⟨stage.name, read + lines,
              emitted + (traversal.facts ++ facts).length,
              skipped + traversal.skipped⟩⟩

theorem reportFrom_error {stage : Stage State} {traversal : Traversal State}
    {line : Nat} {error : StageError}
    (hending : traversal.ending = .error (line, error))
    (read emitted skipped lines : Nat) :
    stage.reportFrom read emitted skipped lines traversal =
      ⟨Fact.stream traversal.facts,
        .error ((Failure.ofError error).atLine (read + line))⟩ := by
  rw [reportFrom, hending]

theorem reportFrom_refuse {stage : Stage State} {traversal : Traversal State}
    {state left : State} {error : StageError}
    (hending : traversal.ending = .ok state)
    (hfinish : stage.finish state = .refuse error left)
    (read emitted skipped lines : Nat) :
    stage.reportFrom read emitted skipped lines traversal =
      ⟨Fact.stream traversal.facts, .error (.ofError error)⟩ := by
  rw [reportFrom, hending]
  simp only [hfinish]

theorem reportFrom_write {stage : Stage State} {traversal : Traversal State}
    {state interrupted next : State} {facts : List Fact}
    (hending : traversal.ending = .ok state)
    (hfinish : stage.finish state = .write facts interrupted next ())
    (read emitted skipped lines : Nat) :
    stage.reportFrom read emitted skipped lines traversal =
      ⟨Fact.stream (traversal.facts ++ facts),
        .ok ⟨stage.name, read + lines,
          emitted + (traversal.facts ++ facts).length,
          skipped + traversal.skipped⟩⟩ := by
  rw [reportFrom, hending]
  simp only [hfinish]

theorem ending_of_succeeds {stage : Stage State} {traversal : Traversal State}
    {read emitted skipped lines : Nat}
    (hsucceeds :
      (stage.reportFrom read emitted skipped lines traversal).Succeeds) :
    ∃ state, traversal.ending = .ok state := by
  obtain ⟨summary, hresult⟩ := hsucceeds
  cases hending : traversal.ending with
  | error failure =>
      obtain ⟨line, error⟩ := failure
      simp [reportFrom_error hending] at hresult
  | ok state => exact ⟨state, rfl⟩

theorem reportFrom_behind (stage : Stage State)
    (read emitted skipped lines : Nat)
    (facts : List Fact) (outcome : Outcome) (traversal : Traversal State) :
    stage.reportFrom read emitted skipped (lines + 1)
        (traversal.behind facts outcome) =
      (stage.reportFrom (read + 1) (emitted + facts.length)
        (skipped + outcome.skips) lines traversal).precededBy
          (Fact.stream facts) := by
  cases hending : traversal.ending with
  | error failure =>
      obtain ⟨line, error⟩ := failure
      simp [reportFrom, Traversal.behind, hending, RunReport.precededBy,
        Nat.add_assoc]
  | ok state =>
      cases hfinish : stage.finish state with
      | refuse error left =>
          simp [reportFrom, Traversal.behind, hending, hfinish,
            RunReport.precededBy]
      | write last interrupted next answer =>
          simp [reportFrom, Traversal.behind, hending, hfinish,
            RunReport.precededBy, Nat.add_assoc, Nat.add_comm 1]

theorem runFrom_unbounded (stage : Stage State) (state : State)
    (emitted read skipped : Nat) (lines : List Bytes) :
    stage.runFrom ⟨state, .unbounded, emitted⟩ read skipped lines =
      stage.reportFrom read emitted skipped lines.length
        (traverse stage.readLine state lines) := by
  induction lines generalizing state emitted read skipped with
  | nil =>
      rw [runFrom, conclude, Session.finish, traverse_nil]
      cases hfinish : stage.finish state with
      | refuse error left =>
          simp [Session.perform, reportFrom, Traversal.done, hfinish]
      | write facts interrupted next answer =>
          simp [Session.perform, Sink.writeFacts_unbounded, reportFrom,
            Traversal.done, hfinish]
  | cons line lines ih =>
      rw [runFrom]
      cases hdecode : line.decode? with
      | none =>
          have hrefuse : stage.readLine state line =
              .refuse (.stream .notUtf8) state := by
            rw [readLine, hdecode]
          rw [traverse_cons_refuse hrefuse]
          rfl
      | some text =>
          have hread : stage.readLine state line =
              stage.step state text.trim := by
            rw [readLine, hdecode]
          cases hstep : stage.step state text.trim with
          | refuse error left =>
              rw [traverse_cons_refuse (hread.trans hstep)]
              simp [Session.feed, Session.perform, hstep, reportFrom,
                Traversal.refused]
          | write facts interrupted next outcome =>
              rw [traverse_cons_write (hread.trans hstep), List.length_cons,
                reportFrom_behind, ← ih]
              simp [Session.feed, Session.perform, Sink.writeFacts_unbounded,
                hstep]

/-- The report of a run with a sink that takes everything. -/
theorem run_unbounded (stage : Stage State) (input : Bytes) :
    stage.run .unbounded input =
      stage.reportFrom 0 0 0 input.lines.length
        (traverse stage.readLine stage.initial input.lines) :=
  runFrom_unbounded stage stage.initial 0 0 0 input.lines

/-- On a text, a run feeds the stage the trimmed lines of the text. -/
theorem run_encode (stage : Stage State) (text : Text) :
    stage.run .unbounded text.encode =
      stage.reportFrom 0 0 0 text.lines.length
        (traverse stage.step stage.initial (text.lines.map Text.trim)) := by
  rw [run_unbounded, Text.lines_encode, List.length_map, traverse_map,
    traverse_map]
  simp only [readLine_encode]

end Stage

end FactStream
