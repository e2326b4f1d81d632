import FactStream.Record
import FactStream.Stage.Run

/-!
# Tagging lines that match

Every line in which the pattern is found, or in one field of which it is found,
is written under one key.  What a pattern is does not matter here: any test of
texts will do.
-/

namespace FactStream

structure PatternTagger where
  found : Text → Bool
  field : Option Nat

namespace PatternTagger

def defaultPattern : Text := "Al".toList

/-- The key that all tagged lines share. -/
def tagKey : Text := ['1']

/-- The text to search: the line, or one of its fields. -/
def searched (tagger : PatternTagger) (line : Text) : Except StageError Text :=
  match tagger.field with
  | some index => (Record.mk line).field index
  | none => .ok line

def step (tagger : PatternTagger) (state : Unit) (line : Text) :
    Reply Unit Outcome :=
  match tagger.searched line with
  | .error error => .refuse error state
  | .ok text =>
      if tagger.found text then
        .write [⟨tagKey, line⟩] state state .consumed
      else
        .pass state .consumed

def stage (tagger : PatternTagger) : Stage Unit :=
  ⟨"pattern-tag".toList, (), tagger.step, Stage.finishEmpty⟩

end PatternTagger

end FactStream
