import FactStream.Proofs.Join.Grouping
import FactStream.Proofs.Stage.Turns

/-!
# A joiner with two registers

The key and the bucket of a group may be kept in registers of their own.  Each
of them then has to be given up by itself, and a bucket that stayed behind when
its key is gone would let rows into the group of another key.  A joiner with two
registers is responded to as the one that holds its group in one piece, so what
is said of the registers is said of the joiner that runs.
-/

namespace FactStream

structure JoinRegisters where
  key : Option Text
  bucket : JoinBucket
  deriving DecidableEq, Repr

namespace JoinRegisters

def cleared : JoinRegisters := ⟨none, .empty⟩

def push (registers : JoinRegisters) (row : JoinRow) : JoinRegisters :=
  { registers with bucket := registers.bucket.push row.tag row.content }

/-- Gives up the key and, if there was one, the bucket as well, whatever comes
of it, and goes on with what `proceed` makes of the registers that are left. -/
def flush {Answer : Type} (registers : JoinRegisters)
    (proceed : JoinRegisters → JoinRegisters) (answer : Answer) :
    Reply JoinRegisters Answer :=
  match registers.key with
  | none => .pass (proceed registers) answer
  | some key =>
      match registers.bucket.pair key with
      | .error error => .refuse error cleared
      | .ok sides =>
          .write (JoinGroup.product sides.1 sides.2) cleared (proceed cleared)
            answer

/-- The registers that take a row of a key that is new to them. -/
def begin (row : JoinRow) (registers : JoinRegisters) : JoinRegisters :=
  push { registers with key := some row.key } row

def receive (registers : JoinRegisters) (row : JoinRow) :
    Reply JoinRegisters Outcome :=
  if registers.key = some row.key then .pass (registers.push row) .consumed
  else registers.flush (begin row) .consumed

def step (registers : JoinRegisters) (line : Text) :
    Reply JoinRegisters Outcome :=
  match JoinRow.ofLine? line with
  | none => .pass registers .skipped
  | some row => registers.receive row

def finish (registers : JoinRegisters) : Reply JoinRegisters Unit :=
  registers.flush id ()

def stage : Stage JoinRegisters :=
  ⟨"join".toList, cleared, step, finish⟩

/-- What a joiner holds, in two registers. -/
def ofJoiner (joiner : Joiner) : JoinRegisters :=
  ⟨joiner.key?, joiner.bucket⟩

theorem flush_ofJoiner {Answer : Type}
    {proceed : JoinRegisters → JoinRegisters} {next : Joiner}
    (hnext : proceed cleared = ofJoiner next) (joiner : Joiner)
    (answer : Answer) :
    (ofJoiner joiner).flush proceed answer =
      (joiner.flush next answer).map ofJoiner := by
  obtain ⟨_ | group⟩ := joiner
  · change Reply.pass (proceed cleared) answer = _
    rw [hnext]
    rfl
  · change (match group.bucket.pair group.key with
      | .error error => Reply.refuse error cleared
      | .ok sides => .write (JoinGroup.product sides.1 sides.2) cleared
          (proceed cleared) answer) = _
    rw [Joiner.flush]
    simp only [JoinGroup.facts]
    cases group.bucket.pair group.key with
    | error error => rfl
    | ok sides =>
        rw [hnext]
        rfl

theorem receive_ofJoiner (joiner : Joiner) (row : JoinRow) :
    (ofJoiner joiner).receive row =
      (joiner.receive (some row)).map ofJoiner := by
  have hbegin : begin row cleared = ofJoiner ⟨some (.start row)⟩ := rfl
  obtain ⟨_ | group⟩ := joiner
  · have hnone : (ofJoiner ⟨none⟩).key ≠ some row.key := nofun
    rw [receive, if_neg hnone]
    exact flush_ofJoiner hbegin ⟨none⟩ Outcome.consumed
  · by_cases hkey : group.key = row.key
    · have hsame : (ofJoiner ⟨some group⟩).key = some row.key :=
        congrArg some hkey
      rw [receive, if_pos hsame, Joiner.receive]
      simp only [if_pos hkey]
      rfl
    · have hother : (ofJoiner ⟨some group⟩).key ≠ some row.key :=
        fun heq => hkey (Option.some_inj.mp heq)
      rw [receive, if_neg hother, Joiner.receive]
      simp only [if_neg hkey]
      exact flush_ofJoiner hbegin ⟨some group⟩ Outcome.consumed

theorem step_ofJoiner (joiner : Joiner) (line : Text) :
    (ofJoiner joiner).step line = (joiner.step line).map ofJoiner := by
  rw [step, Joiner.step_eq_receive]
  cases JoinRow.ofLine? line with
  | none => rfl
  | some row => exact receive_ofJoiner joiner row

theorem mirrors_joiner : stage.Mirrors Joiner.stage ofJoiner where
  initial := rfl
  step := step_ofJoiner
  finish := fun joiner => flush_ofJoiner rfl joiner ()

end JoinRegisters

end FactStream
