import FactStream.Stage.Run

/-!
# Stages that run alike

Two stages may remember different things and still reply alike.  As long as
their states stay related, they write the same facts and come to the same end,
whatever the sink takes.
-/

namespace FactStream

variable {Left Right Answer : Type} {Related : Left → Right → Prop}

/-- Both refuse with the same error, or both write the same facts with the same
answer and go on from related states.  Whatever goes wrong ends a run, so the
states behind it need not be related. -/
inductive Reply.Alike (Related : Left → Right → Prop) :
    Reply Left Answer → Reply Right Answer → Prop
  | refuse (error : StageError) (left : Left) (right : Right) :
      Alike Related (.refuse error left) (.refuse error right)
  | write (facts : List Fact) (interrupted : Left) (otherInterrupted : Right)
      {left : Left} {right : Right} {answer : Answer}
      (hrelated : Related left right) :
      Alike Related (.write facts interrupted left answer)
        (.write facts otherInterrupted right answer)

/-- Of replies that are alike the same is written, with the same result, and if
that is an answer, the two sessions go on alike. -/
theorem Session.perform_of_alike {reply : Reply Left Answer}
    {other : Reply Right Answer} (halike : reply.Alike Related other)
    (left : Left) (right : Right) (sink : Sink) (emitted : Nat) :
    ∃ response next otherNext,
      Session.perform ⟨left, sink, emitted⟩ reply = (response, next) ∧
      Session.perform ⟨right, sink, emitted⟩ other = (response, otherNext) ∧
      (response.result.isOk → Related next.state otherNext.state ∧
        next.sink = otherNext.sink ∧ next.emitted = otherNext.emitted) := by
  cases halike with
  | refuse error left right =>
      exact ⟨_, _, _, rfl, rfl, fun hok => Bool.noConfusion hok⟩
  | write facts interrupted otherInterrupted hrelated =>
      rw [perform, perform]
      cases (sink.writeFacts facts).complete with
      | false => exact ⟨_, _, _, rfl, rfl, fun hok => Bool.noConfusion hok⟩
      | true => exact ⟨_, _, _, rfl, rfl, fun _ => ⟨hrelated, rfl, rfl⟩⟩

namespace Stage

variable {first : Stage Left} {second : Stage Right} {Given : Text → Prop}

/-- Related states are replied in alike, to the end of the input and to every
line that is given. -/
structure RepliesLike (first : Stage Left) (second : Stage Right)
    (Related : Left → Right → Prop) (Given : Text → Prop) : Prop where
  name : first.name = second.name
  step : ∀ {left right line}, Related left right → Given line →
    (first.step left line).Alike Related (second.step right line)
  finish : ∀ {left right}, Related left right →
    (first.finish left).Alike Related (second.finish right)

theorem conclude_of_alike (hlike : first.RepliesLike second Related Given)
    {left : Left} {right : Right} (hrelated : Related left right) (sink : Sink)
    (emitted read skipped : Nat) :
    first.conclude ⟨left, sink, emitted⟩ read skipped =
      second.conclude ⟨right, sink, emitted⟩ read skipped := by
  obtain ⟨response, next, otherNext, hnext, hother, hgo⟩ :=
    Session.perform_of_alike (hlike.finish hrelated) left right sink emitted
  rw [conclude, conclude, Session.finish, Session.finish, hnext, hother,
    hlike.name]
  obtain ⟨written, _ | answer⟩ := response
  · rfl
  · obtain ⟨-, -, hemitted⟩ := hgo rfl
    simp only [hemitted]

/-- A line that is replied to alike is passed if the rest of the input is read
alike from any related states. -/
theorem runFrom_cons_of_alike {left : Left} {right : Right} {text : Text}
    (halike : (first.step left text.trim).Alike Related
      (second.step right text.trim))
    {lines : List Bytes}
    (hrest : ∀ left right sink emitted read skipped, Related left right →
      first.runFrom ⟨left, sink, emitted⟩ read skipped lines =
        second.runFrom ⟨right, sink, emitted⟩ read skipped lines)
    (sink : Sink) (emitted read skipped : Nat) :
    first.runFrom ⟨left, sink, emitted⟩ read skipped (text.encode :: lines) =
      second.runFrom ⟨right, sink, emitted⟩ read skipped
        (text.encode :: lines) := by
  obtain ⟨response, next, otherNext, hnext, hother, hgo⟩ :=
    Session.perform_of_alike halike left right sink emitted
  rw [runFrom, runFrom, Bytes.decode?_encode]
  simp only [Session.feed, hnext, hother]
  obtain ⟨written, _ | outcome⟩ := response
  · rfl
  · obtain ⟨hrelated, hsink, hemitted⟩ := hgo rfl
    obtain ⟨state, sink, emitted⟩ := next
    obtain ⟨otherState, _, _⟩ := otherNext
    cases hsink
    cases hemitted
    simp only [hrest _ _ _ _ _ _ hrelated]

/-- Stages that reply alike run alike. -/
theorem runFrom_of_alike (hlike : first.RepliesLike second Related Given)
    {lines : List Text} (hlines : ∀ line ∈ lines, Given line.trim)
    {left : Left} {right : Right} (hrelated : Related left right) (sink : Sink)
    (emitted read skipped : Nat) :
    first.runFrom ⟨left, sink, emitted⟩ read skipped (lines.map Text.encode) =
      second.runFrom ⟨right, sink, emitted⟩ read skipped
        (lines.map Text.encode) := by
  induction lines generalizing left right sink emitted read skipped with
  | nil => exact conclude_of_alike hlike hrelated sink emitted read skipped
  | cons line lines ih =>
      rw [List.forall_mem_cons] at hlines
      exact runFrom_cons_of_alike (hlike.step hrelated hlines.1)
        (fun left right sink emitted read skipped hrelated =>
          ih hlines.2 hrelated sink emitted read skipped)
        sink emitted read skipped

end Stage

end FactStream
