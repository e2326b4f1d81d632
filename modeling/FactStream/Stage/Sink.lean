import FactStream.Stage.Reply

/-!
# Sinks

Facts are written to a sink.  A sink may be bounded: it takes as many bytes as
it has room for, in the middle of a fact if need be, and then no more.
-/

namespace FactStream

/-- The number of bytes that are still accepted, none if there is no bound. -/
structure Sink where
  room : Option Nat
  deriving DecidableEq, Repr

/-- What came of writing some facts: the bytes that were accepted, the number
of facts that were accepted whole, what is left of the sink, and whether that
was all of them. -/
structure Delivery where
  accepted : Bytes
  delivered : Nat
  sink : Sink
  complete : Bool
  deriving DecidableEq, Repr

namespace Sink

def unbounded : Sink := ⟨none⟩

def bounded (room : Nat) : Sink := ⟨some room⟩

/-- Writes one fact, or as much of it as there is room for. -/
def writeFact (sink : Sink) (fact : Fact) : Delivery :=
  match sink.room with
  | none => ⟨fact.bytes, 1, sink, true⟩
  | some room =>
      if fact.bytes.length ≤ room then
        ⟨fact.bytes, 1, bounded (room - fact.bytes.length), true⟩
      else
        ⟨fact.bytes.take room, 0, bounded 0, false⟩

/-- Writes facts in order up to the first that is not accepted whole. -/
def writeFacts (sink : Sink) : List Fact → Delivery
  | [] => ⟨[], 0, sink, true⟩
  | fact :: facts =>
      let first := sink.writeFact fact
      if first.complete then
        let others := first.sink.writeFacts facts
        ⟨first.accepted ++ others.accepted, first.delivered + others.delivered,
          others.sink, others.complete⟩
      else
        first

end Sink

end FactStream
