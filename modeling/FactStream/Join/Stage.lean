import FactStream.Join.Bucket
import FactStream.Stage.Run

/-!
# Joining two datasets

Rows are facts of three fields: a join key, a content and the tag of the
dataset it comes from.  Rows of one key stand together, so one group is held at
a time; when the next one begins, or the input ends, every content of the first
side is paired with every content of the second.
-/

namespace FactStream

structure JoinRow where
  key : Text
  content : Text
  tag : Text
  deriving DecidableEq, Repr

namespace JoinRow

/-- Reads a row.  The key is taken as it is, the other two are trimmed. -/
def ofLine? (line : Text) : Option JoinRow :=
  match Fact.fields line with
  | [key, content, tag] => some ⟨key, content.trim, tag.trim⟩
  | _ => none

end JoinRow

/-- The rows of one key that have arrived so far. -/
structure JoinGroup where
  key : Text
  bucket : JoinBucket
  deriving DecidableEq, Repr

namespace JoinGroup

def start (row : JoinRow) : JoinGroup :=
  ⟨row.key, JoinBucket.empty.push row.tag row.content⟩

def push (group : JoinGroup) (row : JoinRow) : JoinGroup :=
  { group with bucket := group.bucket.push row.tag row.content }

/-- Every left content with every right content, in this order. -/
def product (left right : List Text) : List Fact :=
  left.flatMap fun content => right.map fun other => ⟨content, other⟩

def facts (group : JoinGroup) : Except StageError (List Fact) :=
  (group.bucket.pair group.key).map fun sides => product sides.1 sides.2

end JoinGroup

/-- The group that is being collected, if any. -/
structure Joiner where
  group : Option JoinGroup
  deriving DecidableEq, Repr

namespace Joiner

def idle : Joiner := ⟨none⟩

def key? (joiner : Joiner) : Option Text :=
  joiner.group.map JoinGroup.key

def bucket (joiner : Joiner) : JoinBucket :=
  (joiner.group.map JoinGroup.bucket).getD .empty

/-- Ends the group held, if any, and goes on as `next` with `answer`.  The
group is given up whatever comes of it. -/
def flush {Answer : Type} (joiner next : Joiner) (answer : Answer) :
    Reply Joiner Answer :=
  match joiner.group with
  | none => .pass next answer
  | some group =>
      match group.facts with
      | .error error => .refuse error idle
      | .ok facts => .write facts idle next answer

def step (joiner : Joiner) (line : Text) : Reply Joiner Outcome :=
  match JoinRow.ofLine? line with
  | none => .pass joiner .skipped
  | some row =>
      match joiner.group with
      | some group =>
          if group.key = row.key then
            .pass ⟨some (group.push row)⟩ .consumed
          else
            joiner.flush ⟨some (.start row)⟩ .consumed
      | none => .pass ⟨some (.start row)⟩ .consumed

def finish (joiner : Joiner) : Reply Joiner Unit :=
  joiner.flush idle ()

def stage : Stage Joiner :=
  ⟨"join".toList, idle, step, finish⟩

end Joiner

end FactStream
