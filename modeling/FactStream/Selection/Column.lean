import FactStream.Record

/-!
# Columns

A column is chosen by its index or by its name.  A name means whatever column
the nearest header row before the record gives that name to.
-/

namespace FactStream

inductive Column where
  | index (position : Nat)
  | named (name : Text)
  deriving DecidableEq, Repr

namespace Column

/-- The column of that index, unless a name is given. -/
def ofOptions (index : Nat) (name : Option Text) : Column :=
  match name with
  | some name => named name
  | none => .index index

/-- The position that a header row gives the column, after the position
`known` so far.  An index needs none. -/
def resolve (column : Column) (known : Option Nat) (header : Record) :
    Except StageError (Option Nat) :=
  match column with
  | index _ => .ok known
  | named name =>
      match header.position? name with
      | some position => .ok (some position)
      | none => .error (.configuration (.columnNotInHeader name header.line))

/-- Where the column is found in a record. -/
def locate (column : Column) (known : Option Nat) : Except StageError Nat :=
  match column, known with
  | index position, _ => .ok position
  | named _, some position => .ok position
  | named name, none => .error (.configuration (.columnBeforeHeader name))

end Column

end FactStream
