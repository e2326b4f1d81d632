import FactStream.Stage.Sink

/-!
# Sessions

A session is a stage at work: its state, the sink it writes to and the number
of facts written so far.  Every call, also a failing one, leaves a session from
which the next call goes on.
-/

namespace FactStream

structure Session (State : Type) where
  state : State
  sink : Sink
  emitted : Nat

/-- What a call to a session wrote, and how it ended. -/
structure Response (Answer : Type) where
  written : Bytes
  result : Except StageError Answer

namespace Session

variable {State Answer : Type}

def start (stage : Stage State) (sink : Sink) : Session State :=
  ⟨stage.initial, sink, 0⟩

/-- Carries out a reply: the facts go to the sink, and a write that fails is
the failure of the call. -/
def perform (session : Session State) :
    Reply State Answer → Response Answer × Session State
  | .refuse error state => (⟨[], .error error⟩, { session with state })
  | .write facts interrupted state answer =>
      let delivery := session.sink.writeFacts facts
      let emitted := session.emitted + delivery.delivered
      if delivery.complete then
        (⟨delivery.accepted, .ok answer⟩, ⟨state, delivery.sink, emitted⟩)
      else
        (⟨delivery.accepted, .error (.stream .outputFull)⟩,
          ⟨interrupted, delivery.sink, emitted⟩)

/-- Gives the stage a line, which is neither trimmed nor split. -/
def feed (stage : Stage State) (session : Session State) (line : Text) :
    Response Outcome × Session State :=
  session.perform (stage.step session.state line)

/-- Tells the stage that its lines have ended. -/
def finish (stage : Stage State) (session : Session State) :
    Response Unit × Session State :=
  session.perform (stage.finish session.state)

/-- Writes a fact on behalf of the stage, whose state does not change. -/
def emit (session : Session State) (fact : Fact) :
    Response Unit × Session State :=
  session.perform (.write [fact] session.state session.state ())

end Session

end FactStream
