import FactStream.Text.Utf8

/-!
# Lines

A line is what a line feed ends; a last piece that no line feed ends is a
line too, unless it is empty.  The same cut serves bytes and characters.
-/

namespace FactStream

/-- The pieces of a list that `terminator` ends, and the last one if it is
not empty. -/
def terminated {Item : Type} [BEq Item] (terminator : Item) :
    List Item → List (List Item)
  | [] => []
  | item :: items =>
      if item == terminator then
        [] :: terminated terminator items
      else
        match terminated terminator items with
        | [] => [[item]]
        | piece :: pieces => (item :: piece) :: pieces

def lineFeed : UInt8 := 10

namespace Bytes

/-- The lines of a stream, not yet decoded. -/
def lines (bytes : Bytes) : List Bytes :=
  terminated lineFeed bytes

end Bytes

namespace Text

def lines (text : Text) : List Text :=
  terminated '\n' text

/-- Every line, each ended by a line feed. -/
def ofLines (lines : List Text) : Text :=
  lines.flatMap (· ++ ['\n'])

end Text

end FactStream
