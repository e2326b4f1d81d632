import FactStream.Record
import FactStream.Stage.Run

/-!
# Preparing a dataset for a join

Every record that has the join column becomes a row of the join: its key, the
line itself and the tag of the dataset.  Shorter records are dropped.
-/

namespace FactStream

structure JoinKeyExtractor where
  column : Nat
  tag : Text
  deriving DecidableEq, Repr

namespace JoinKeyExtractor

def defaultTag : Text := "d1".toList

def row? (extractor : JoinKeyExtractor) (line : Text) : Option Fact :=
  ((Record.mk line).get? extractor.column).map fun field =>
    ⟨field.trim, line ++ '\t' :: extractor.tag⟩

def step (extractor : JoinKeyExtractor) (state : Unit) (line : Text) :
    Reply Unit Outcome :=
  match extractor.row? line with
  | none => .pass state .skipped
  | some row => .write [row] state state .consumed

def stage (extractor : JoinKeyExtractor) : Stage Unit :=
  ⟨"join-key".toList, (), extractor.step, Stage.finishEmpty⟩

end JoinKeyExtractor

end FactStream
