import FactStream.Proofs.Except
import FactStream.Proofs.Stage.Traversal

/-!
# Stages driven by hand

A stage may be given lines and told of their end in any order, and a call that
fails does not stop the next one.  What comes of it is a transcript: every call
with the response to it, and the session that is left.  If a failing call leaves
the session as it was, it can be struck out of the sequence, and nobody who
looks at the rest can tell.
-/

namespace FactStream

variable {State : Type}

/-- A line, which is neither trimmed nor split, or the word that there are no
more. -/
inductive Call where
  | line (text : Text)
  | finish
  deriving DecidableEq, Repr

/-- A call with the response to it; only lines have an outcome. -/
structure Exchange where
  call : Call
  response : Response (Option Outcome)

namespace Exchange

def succeeded (exchange : Exchange) : Bool :=
  exchange.response.result.isOk

end Exchange

structure Transcript (State : Type) where
  exchanges : List Exchange
  last : Session State

namespace Transcript

/-- The exchanges whose calls have not failed. -/
def kept (transcript : Transcript State) : List Exchange :=
  transcript.exchanges.filter Exchange.succeeded

/-- The same behind another exchange. -/
def behind (exchange : Exchange) (transcript : Transcript State) :
    Transcript State :=
  ⟨exchange :: transcript.exchanges, transcript.last⟩

theorem kept_behind_of_succeeded {exchange : Exchange}
    (hok : exchange.succeeded) (transcript : Transcript State) :
    (transcript.behind exchange).kept = exchange :: transcript.kept :=
  List.filter_cons_of_pos hok

theorem kept_behind_of_failed {exchange : Exchange}
    (hfails : exchange.succeeded = false) (transcript : Transcript State) :
    (transcript.behind exchange).kept = transcript.kept :=
  List.filter_cons_of_neg (by simp [hfails])

end Transcript

/-- The same response with another answer. -/
def Response.map {Answer Other : Type} (f : Answer → Other)
    (response : Response Answer) : Response Other :=
  ⟨response.written, response.result.map f⟩

namespace Session

/-- Carries out one call. -/
def call (stage : Stage State) (session : Session State) :
    Call → Response (Option Outcome) × Session State
  | .line text => ((session.feed stage text).1.map some,
      (session.feed stage text).2)
  | .finish => ((session.finish stage).1.map fun _ => none,
      (session.finish stage).2)

/-- A call with the response to it in this session. -/
def exchange (stage : Stage State) (session : Session State) (call : Call) :
    Exchange :=
  ⟨call, (session.call stage call).1⟩

/-- Carries out calls one after the other, whether they fail or not. -/
def drive (stage : Stage State) (session : Session State) :
    List Call → Transcript State
  | [] => ⟨[], session⟩
  | call :: calls =>
      ((session.call stage call).2.drive stage calls).behind
        (session.exchange stage call)

theorem drive_cons (stage : Stage State) (session : Session State) (call : Call)
    (calls : List Call) :
    session.drive stage (call :: calls) =
      ((session.call stage call).2.drive stage calls).behind
        (session.exchange stage call) := rfl

end Session

namespace Stage

/-- Whatever the stage refuses leaves its state as it was. -/
structure KeepsState (stage : Stage State) : Prop where
  step : ∀ {state line error left},
    stage.step state line = .refuse error left → left = state
  finish : ∀ {state error left},
    stage.finish state = .refuse error left → left = state

/-- Failing calls write nothing, and without them the calls are responded to as
they were and leave the same session. -/
def ForgetsFailures (stage : Stage State) : Prop :=
  ∀ calls : List Call,
    let transcript := (Session.start stage .unbounded).drive stage calls
    (∀ exchange ∈ transcript.exchanges,
      exchange.succeeded = false → exchange.response.written = []) ∧
    (Session.start stage .unbounded).drive stage
        (transcript.kept.map Exchange.call) =
      ⟨transcript.kept, transcript.last⟩

end Stage

namespace Session

variable {Answer : Type} {stage : Stage State} {session : Session State}

/-- With a sink that takes everything only a refusal fails, and one that keeps
the state changes nothing. -/
theorem perform_cases (hsink : session.sink = .unbounded)
    {reply : Reply State Answer}
    (hkeeps : ∀ {error left}, reply = .refuse error left → left = session.state) :
    ((session.perform reply).1.result.isOk ∧
      (session.perform reply).2.sink = .unbounded) ∨
    ((session.perform reply).1.result.isOk = false ∧
      (session.perform reply).1.written = [] ∧
      (session.perform reply).2 = session) := by
  cases reply with
  | refuse error left =>
      right
      rw [perform, hkeeps rfl]
      exact ⟨rfl, rfl, rfl⟩
  | write facts interrupted next answer =>
      left
      rw [perform, hsink, Sink.writeFacts_unbounded]
      exact ⟨rfl, rfl⟩

theorem call_cases (hkeeps : stage.KeepsState)
    (hsink : session.sink = .unbounded) (call : Call) :
    ((session.exchange stage call).succeeded ∧
      (session.call stage call).2.sink = .unbounded) ∨
    ((session.exchange stage call).succeeded = false ∧
      (session.exchange stage call).response.written = [] ∧
      (session.call stage call).2 = session) := by
  cases call with
  | line text =>
      simp only [exchange, Exchange.succeeded, Session.call, Response.map,
        Except.isOk_map]
      exact perform_cases hsink hkeeps.step
  | finish =>
      simp only [exchange, Exchange.succeeded, Session.call, Response.map,
        Except.isOk_map]
      exact perform_cases hsink hkeeps.finish

/-- The induction is on the calls: one that fails is followed by the others in
the same session, and one that succeeds is the first of those kept. -/
theorem drive_kept (hkeeps : stage.KeepsState)
    (hsink : session.sink = .unbounded) (calls : List Call) :
    (∀ exchange ∈ (session.drive stage calls).exchanges,
      exchange.succeeded = false → exchange.response.written = []) ∧
    session.drive stage
        ((session.drive stage calls).kept.map Exchange.call) =
      ⟨(session.drive stage calls).kept, (session.drive stage calls).last⟩ := by
  induction calls generalizing session with
  | nil => exact ⟨List.forall_mem_nil _, rfl⟩
  | cons call calls ih =>
      rw [drive_cons]
      rcases call_cases hkeeps hsink call with
        ⟨hok, hnext⟩ | ⟨hfails, hwritten, hsame⟩
      · obtain ⟨hsilent, hrest⟩ := ih hnext
        rw [Transcript.kept_behind_of_succeeded hok, List.map_cons]
        refine ⟨List.forall_mem_cons.mpr ⟨fun hfails => ?_, hsilent⟩,
          congrArg (Transcript.behind (session.exchange stage call)) hrest⟩
        exact absurd (hok.symm.trans hfails) Bool.noConfusion
      · obtain ⟨hsilent, hrest⟩ := ih hsink
        rw [hsame, Transcript.kept_behind_of_failed hfails, hrest]
        exact ⟨List.forall_mem_cons.mpr ⟨fun _ => hwritten, hsilent⟩, rfl⟩

end Session

/-- A stage that keeps its state when it refuses something forgets failures. -/
theorem Stage.KeepsState.forgetsFailures {stage : Stage State}
    (hkeeps : stage.KeepsState) : stage.ForgetsFailures :=
  fun calls => Session.drive_kept hkeeps rfl calls

end FactStream
