import FactStream.Join.Stage

/-!
# What the joiner does with a row

The joiner holds one group at a time.  A row goes into the group of its key, and
under another key it ends the group held and begins one of its own.  Lines that
are no rows are skipped and do not end a group.
-/

namespace FactStream

namespace JoinBucket

theorem pushSide_of_not_mem {tag : Text} {sides : List JoinSide}
    (htag : tag ∉ sides.map JoinSide.tag) (content : Text) :
    pushSide tag content sides = sides ++ [⟨tag, [content]⟩] := by
  induction sides with
  | nil => rfl
  | cons side sides ih =>
      rw [List.map_cons, List.mem_cons, not_or] at htag
      rw [pushSide, if_neg (Ne.symm htag.1), ih htag.2, List.cons_append]

/-- The bucket with some rows added in their order. -/
def pushAll (bucket : JoinBucket) (rows : List JoinRow) : JoinBucket :=
  rows.foldl (fun current row => current.push row.tag row.content) bucket

theorem pushAll_append (bucket : JoinBucket) (front rest : List JoinRow) :
    bucket.pushAll (front ++ rest) = (bucket.pushAll front).pushAll rest :=
  List.foldl_append

end JoinBucket

namespace JoinGroup

/-- All rows of a key. -/
def collect (key : Text) (rows : List JoinRow) : JoinGroup :=
  ⟨key, JoinBucket.empty.pushAll rows⟩

theorem push_collect (key : Text) (rows : List JoinRow) (row : JoinRow) :
    (collect key rows).push row = collect key (rows ++ [row]) := by
  rw [collect, collect, JoinBucket.pushAll_append]
  rfl

end JoinGroup

namespace Joiner

/-- What the joiner does with a line once it has been read as a row, or not. -/
def receive (joiner : Joiner) : Option JoinRow → Reply Joiner Outcome
  | none => .pass joiner .skipped
  | some row =>
      match joiner.group with
      | some group =>
          if group.key = row.key then .pass ⟨some (group.push row)⟩ .consumed
          else joiner.flush ⟨some (.start row)⟩ .consumed
      | none => .pass ⟨some (.start row)⟩ .consumed

theorem step_eq_receive (joiner : Joiner) (line : Text) :
    joiner.step line = joiner.receive (JoinRow.ofLine? line) := by
  rw [step]
  cases JoinRow.ofLine? line <;> rfl

theorem flush_of_facts {Answer : Type} {group : JoinGroup} {facts : List Fact}
    (hfacts : group.facts = .ok facts) (next : Joiner) (answer : Answer) :
    flush ⟨some group⟩ next answer = .write facts idle next answer := by
  rw [flush]
  simp only [hfacts]

theorem flush_of_facts_error {Answer : Type} {group : JoinGroup}
    {error : StageError} (hfacts : group.facts = .error error) (next : Joiner)
    (answer : Answer) :
    flush ⟨some group⟩ next answer = .refuse error idle := by
  rw [flush]
  simp only [hfacts]

end Joiner

end FactStream
