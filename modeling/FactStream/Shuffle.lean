import FactStream.Stage.Run

/-!
# Shuffling between stages

Between two stages facts are sorted by key, so that the facts of one key stand
together.  The sort is stable: facts of one key keep their order.
-/

namespace FactStream

namespace Shuffle

/-- The text before the first tab. -/
def keyOfLine (line : Text) : Text :=
  line.takeWhile fun character => character != '\t'

def sortLines (lines : List Text) : List Text :=
  lines.mergeSort fun left right => !decide (keyOfLine right < keyOfLine left)

/-- What is done to the lines before a stage reads them: they are sorted, and
then a text is put in front of each. -/
structure Preparation where
  sorted : Bool
  label : Option Text
  deriving DecidableEq, Repr

namespace Preparation

def prepareLines (preparation : Preparation) (lines : List Text) : List Text :=
  let lines := if preparation.sorted then sortLines lines else lines
  match preparation.label with
  | some label => lines.map (label ++ ·)
  | none => lines

def prepare (preparation : Preparation) (text : Text) : Text :=
  if preparation.sorted || preparation.label.isSome then
    Text.ofLines (preparation.prepareLines text.lines)
  else
    text

/-- Bytes that are not text are left for the stage to refuse. -/
def prepareBytes (preparation : Preparation) (bytes : Bytes) : Bytes :=
  match bytes.decode? with
  | some text => (preparation.prepare text).encode
  | none => bytes

end Preparation

end Shuffle

end FactStream
