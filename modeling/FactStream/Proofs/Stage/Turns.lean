import FactStream.Proofs.Stage.Calls

/-!
# Calls with a sink each

A writer may fail at any point of a call and take everything at the next one.  A
stage that is driven by hand is therefore given a sink with every call; a sink
that goes on from call to call is a case of it.  How the calls are responded to
is a matter of the state alone, so a session whose state is the initial one
cannot be told from a fresh one, and a stage whose states mirror those of
another is responded to, and runs, as that one.
-/

namespace FactStream

variable {State Other Answer : Type}

/-- A call, and the sink for what it writes. -/
structure Turn where
  call : Call
  sink : Sink
  deriving DecidableEq, Repr

namespace Session

/-- The same session with another sink. -/
def into (session : Session State) (sink : Sink) : Session State :=
  { session with sink }

/-- Carries out calls one after the other, whether they fail or not, each with
its sink. -/
def takeTurns (stage : Stage State) (session : Session State) :
    List Turn → Transcript State
  | [] => ⟨[], session⟩
  | turn :: turns =>
      (((session.into turn.sink).call stage turn.call).2.takeTurns stage
        turns).behind ((session.into turn.sink).exchange stage turn.call)

section Turns

variable (stage : Stage State) (session : Session State)

theorem takeTurns_concat (turns : List Turn) (turn : Turn) :
    session.takeTurns stage (turns ++ [turn]) =
      ⟨(session.takeTurns stage turns).exchanges ++
          [((session.takeTurns stage turns).last.into turn.sink).exchange stage
            turn.call],
        (((session.takeTurns stage turns).last.into turn.sink).call stage
          turn.call).2⟩ := by
  induction turns generalizing session with
  | nil => rfl
  | cons first turns ih =>
      rw [List.cons_append, takeTurns, ih]
      rfl

/-- A sink that goes on from call to call is at every call what the calls before
have left of it. -/
theorem exists_takeTurns_eq_drive (calls : List Call) :
    ∃ turns, turns.map Turn.call = calls ∧
      session.takeTurns stage turns = session.drive stage calls := by
  induction calls generalizing session with
  | nil => exact ⟨[], rfl, rfl⟩
  | cons call calls ih =>
      obtain ⟨turns, hcalls, hdrive⟩ := ih (session.call stage call).2
      refine ⟨⟨call, session.sink⟩ :: turns, ?_, ?_⟩
      · rw [List.map_cons, hcalls]
      · rw [drive_cons, ← hdrive]
        rfl

end Turns

section States

/-- How often a session has written before is not seen in a response. -/
theorem perform_congr (state : State) (sink : Sink) (first second : Nat)
    (reply : Reply State Answer) :
    (perform ⟨state, sink, first⟩ reply).1 =
        (perform ⟨state, sink, second⟩ reply).1 ∧
      (perform ⟨state, sink, first⟩ reply).2.state =
        (perform ⟨state, sink, second⟩ reply).2.state := by
  cases reply with
  | refuse error left => exact ⟨rfl, rfl⟩
  | write facts interrupted next answer =>
      rw [perform, perform]
      cases (sink.writeFacts facts).complete <;> exact ⟨rfl, rfl⟩

theorem call_congr (stage : Stage State) (state : State) (sink : Sink)
    (first second : Nat) (call : Call) :
    (Session.call stage ⟨state, sink, first⟩ call).1 =
        (Session.call stage ⟨state, sink, second⟩ call).1 ∧
      (Session.call stage ⟨state, sink, first⟩ call).2.state =
        (Session.call stage ⟨state, sink, second⟩ call).2.state := by
  cases call with
  | line text =>
      obtain ⟨hresponse, hstate⟩ :=
        perform_congr state sink first second (stage.step state text)
      exact ⟨congrArg (Response.map some) hresponse, hstate⟩
  | finish =>
      obtain ⟨hresponse, hstate⟩ :=
        perform_congr state sink first second (stage.finish state)
      exact ⟨congrArg (Response.map fun _ => none) hresponse, hstate⟩

/-- From the same state the same turns are responded to alike. -/
theorem exchanges_takeTurns_congr (stage : Stage State)
    {first second : Session State} (hstate : first.state = second.state)
    (turns : List Turn) :
    (first.takeTurns stage turns).exchanges =
      (second.takeTurns stage turns).exchanges := by
  induction turns generalizing first second with
  | nil => rfl
  | cons turn turns ih =>
      obtain ⟨state, _, count⟩ := first
      obtain ⟨_, _, otherCount⟩ := second
      cases hstate
      obtain ⟨hresponse, hnext⟩ :=
        call_congr stage state turn.sink count otherCount turn.call
      exact congrArg₂ List.cons (congrArg (Exchange.mk turn.call) hresponse)
        (ih hnext)

/-- The session is in the initial state, and no calls, however they are written
out, are responded to otherwise than in a fresh one. -/
structure IsAsNew (stage : Stage State) (session : Session State) : Prop where
  state : session.state = stage.initial
  exchanges : ∀ turns, (session.takeTurns stage turns).exchanges =
    ((start stage .unbounded).takeTurns stage turns).exchanges

theorem isAsNew_of_state {stage : Stage State} {session : Session State}
    (hstate : session.state = stage.initial) : session.IsAsNew stage :=
  ⟨hstate, exchanges_takeTurns_congr stage hstate⟩

end States

end Session

namespace Reply

/-- Whatever fails, be it the stage or a write, leaves the state `left`. -/
def FailsInto (left : State) : Reply State Answer → Prop
  | refuse _ state => state = left
  | write facts interrupted _ _ => facts = [] ∨ interrupted = left

def map (mirror : State → Other) : Reply State Answer → Reply Other Answer
  | refuse error state => .refuse error (mirror state)
  | write facts interrupted state answer =>
      .write facts (mirror interrupted) (mirror state) answer

end Reply

namespace Session

theorem succeeded_exchange_line (stage : Stage State) (session : Session State)
    (text : Text) : (session.exchange stage (.line text)).succeeded =
      (session.perform (stage.step session.state text)).1.result.isOk :=
  Except.isOk_map some

theorem state_perform_of_failed {session : Session State} {left : State}
    {reply : Reply State Answer} (hreply : reply.FailsInto left)
    (hfails : (session.perform reply).1.result.isOk = false) :
    (session.perform reply).2.state = left := by
  cases reply with
  | refuse error state => exact hreply
  | write facts interrupted next answer =>
      rw [perform] at hfails ⊢
      cases hcomplete : (session.sink.writeFacts facts).complete with
      | true =>
          simp only [hcomplete, if_true] at hfails
          cases hfails
      | false =>
          rcases hreply with rfl | rfl
          · cases hcomplete
          · simp

/-- A call that succeeds leaves the state that goes with its answer. -/
theorem exists_write_of_succeeded {session : Session State}
    {reply : Reply State Answer}
    (hok : (session.perform reply).1.result.isOk) :
    ∃ facts interrupted answer, reply =
      .write facts interrupted (session.perform reply).2.state answer := by
  cases reply with
  | refuse error state => cases hok
  | write facts interrupted next answer =>
      rw [perform] at hok ⊢
      cases hcomplete : (session.sink.writeFacts facts).complete with
      | true =>
          simp only [if_true]
          exact ⟨facts, interrupted, answer, rfl⟩
      | false =>
          simp only [hcomplete, Bool.false_eq_true, if_false] at hok
          cases hok

/-- The session with its state mirrored. -/
def map (mirror : State → Other) (session : Session State) : Session Other :=
  ⟨mirror session.state, session.sink, session.emitted⟩

theorem perform_map (mirror : State → Other) (session : Session State)
    (reply : Reply State Answer) :
    (session.map mirror).perform (reply.map mirror) =
      ((session.perform reply).1, (session.perform reply).2.map mirror) := by
  cases reply with
  | refuse error state => rfl
  | write facts interrupted next answer =>
      rw [Reply.map, perform, perform, map]
      cases (session.sink.writeFacts facts).complete <;> rfl

end Session

/-- A stage that does in the mirrored states what the other does in its own. -/
structure Stage.Mirrors (image : Stage Other) (stage : Stage State)
    (mirror : State → Other) : Prop where
  initial : image.initial = mirror stage.initial
  step : ∀ state line,
    image.step (mirror state) line = (stage.step state line).map mirror
  finish : ∀ state,
    image.finish (mirror state) = (stage.finish state).map mirror

namespace Stage.Mirrors

variable {image : Stage Other} {stage : Stage State} {mirror : State → Other}

theorem feed_map (hmirrors : image.Mirrors stage mirror)
    (session : Session State) (text : Text) :
    (session.map mirror).feed image text =
      ((session.feed stage text).1,
        (session.feed stage text).2.map mirror) := by
  rw [Session.feed, Session.feed, ← Session.perform_map, ← hmirrors.step]
  rfl

theorem finish_map (hmirrors : image.Mirrors stage mirror)
    (session : Session State) :
    (session.map mirror).finish image =
      ((session.finish stage).1, (session.finish stage).2.map mirror) := by
  rw [Session.finish, Session.finish, ← Session.perform_map,
    ← hmirrors.finish]
  rfl

theorem call_map (hmirrors : image.Mirrors stage mirror)
    (session : Session State) (call : Call) :
    (session.map mirror).call image call =
      ((session.call stage call).1,
        (session.call stage call).2.map mirror) := by
  cases call with
  | line text =>
      rw [Session.call, hmirrors.feed_map]
      rfl
  | finish =>
      rw [Session.call, hmirrors.finish_map]
      rfl

theorem takeTurns_map (hmirrors : image.Mirrors stage mirror)
    (session : Session State) (turns : List Turn) :
    (session.map mirror).takeTurns image turns =
      ⟨(session.takeTurns stage turns).exchanges,
        (session.takeTurns stage turns).last.map mirror⟩ := by
  induction turns generalizing session with
  | nil => rfl
  | cons turn turns ih =>
      have hcall := hmirrors.call_map (session.into turn.sink) turn.call
      change ((session.map mirror).into turn.sink).call image turn.call = _
        at hcall
      rw [Session.takeTurns, Session.exchange, hcall, ih]
      rfl

theorem runFrom_map (hmirrors : image.Mirrors stage mirror)
    (hname : image.name = stage.name) (session : Session State)
    (read skipped : Nat) (lines : List Bytes) :
    image.runFrom (session.map mirror) read skipped lines =
      stage.runFrom session read skipped lines := by
  induction lines generalizing session read skipped with
  | nil =>
      rw [runFrom, runFrom, conclude, conclude, hmirrors.finish_map, hname]
      rfl
  | cons line lines ih =>
      rw [runFrom, runFrom]
      cases line.decode? with
      | none => rfl
      | some text =>
          simp only [hmirrors.feed_map, ih]

/-- A run cannot tell a stage from one that mirrors it. -/
theorem run_eq (hmirrors : image.Mirrors stage mirror)
    (hname : image.name = stage.name) (sink : Sink) (input : Bytes) :
    image.run sink input = stage.run sink input := by
  have hstart : (Session.start stage sink).map mirror =
      Session.start image sink := by
    rw [Session.map, Session.start, Session.start, hmirrors.initial]
  rw [run, run, ← hstart, hmirrors.runFrom_map hname]

end Stage.Mirrors

end FactStream
