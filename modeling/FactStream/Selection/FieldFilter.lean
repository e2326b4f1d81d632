import FactStream.Selection.Column
import FactStream.Stage.Run

/-!
# Filtering records by a field

Records whose matched field equals the target give their projected field as a
key, to be counted once.  A record with a field that is exactly the header
token is a header row: it says where the named columns are and is not itself
filtered.
-/

namespace FactStream

structure FieldFilter where
  target : Text
  matched : Column
  projected : Column
  deriving DecidableEq, Repr

namespace FieldFilter

def headerToken : Text := "Interconne".toList

def defaultMatchColumn : Nat := 10

def defaultProjectColumn : Nat := 9

/-- The positions that header rows have given the two columns. -/
structure Positions where
  matched : Option Nat
  projected : Option Nat
  deriving DecidableEq, Repr

def unresolved : Positions := ⟨none, none⟩

/-- Takes the positions from a header row, first that of the matched column. -/
def readHeader (filter : FieldFilter) (positions : Positions)
    (header : Record) : Reply Positions Outcome :=
  match filter.matched.resolve positions.matched header with
  | .error error => .refuse error positions
  | .ok matched =>
      match filter.projected.resolve positions.projected header with
      | .error error => .refuse error { positions with matched }
      | .ok projected => .pass ⟨matched, projected⟩ .consumed

/-- The projected field as a key; a blank one is put in single quotes, so that
it is not lost where lines are trimmed. -/
def keyOfField (field : Text) : Text :=
  if field.isBlankText then '\'' :: field ++ ['\''] else field

def countOnce (key : Text) : Fact := ⟨key, ['1']⟩

/-- The facts that a data record gives. -/
def select (filter : FieldFilter) (positions : Positions) (record : Record) :
    Except StageError (List Fact) := do
  let matched ← filter.matched.locate positions.matched
  let projected ← filter.projected.locate positions.projected
  record.require [matched, projected]
  let field ← record.field matched
  if field.trim = filter.target then
    let detection ← record.field projected
    return [countOnce (keyOfField detection)]
  else
    return []

def step (filter : FieldFilter) (positions : Positions) (line : Text) :
    Reply Positions Outcome :=
  let record : Record := ⟨line⟩
  if record.containsField headerToken then
    filter.readHeader positions record
  else
    match filter.select positions record with
    | .error error => .refuse error positions
    | .ok facts => .write facts positions positions .consumed

def stage (filter : FieldFilter) : Stage Positions :=
  ⟨"field-filter".toList, unresolved, filter.step, Stage.finishEmpty⟩

end FieldFilter

end FactStream
