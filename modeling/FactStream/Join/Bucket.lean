import FactStream.Failure

/-!
# Join buckets

A bucket collects the rows of one join key, side by side: one side for every
dataset tag, in the order in which the tags were first seen, each with its
contents in the order of arrival.
-/

namespace FactStream

structure JoinSide where
  tag : Text
  contents : List Text
  deriving DecidableEq, Repr

structure JoinBucket where
  sides : List JoinSide
  deriving DecidableEq, Repr

namespace JoinBucket

def empty : JoinBucket := ⟨[]⟩

/-- Adds to the side of the tag; a tag not seen before gets the last side. -/
def pushSide (tag content : Text) : List JoinSide → List JoinSide
  | [] => [⟨tag, [content]⟩]
  | side :: sides =>
      if side.tag = tag then
        ⟨side.tag, side.contents ++ [content]⟩ :: sides
      else
        side :: pushSide tag content sides

def push (bucket : JoinBucket) (tag content : Text) : JoinBucket :=
  ⟨pushSide tag content bucket.sides⟩

def tags (bucket : JoinBucket) : List Text :=
  bucket.sides.map JoinSide.tag

/-- The contents of the two sides; with any other number of sides there is no
join. -/
def pair (bucket : JoinBucket) (key : Text) :
    Except StageError (List Text × List Text) :=
  match bucket.sides with
  | [left, right] => .ok (left.contents, right.contents)
  | _ => .error (.joinArity key bucket.tags)

end JoinBucket

end FactStream
