import FactStream.Failure

/-!
# Records

A record is a line of comma-separated fields.  There is no quoting, so every
comma divides, and a record always has at least one field.
-/

namespace FactStream

structure Record where
  line : Text
  deriving DecidableEq, Repr

namespace Record

def fields (record : Record) : List Text :=
  record.line.splitOn ','

def size (record : Record) : Nat :=
  record.fields.length

/-- A record is never empty: a line without a comma is one field. -/
theorem fields_ne_nil (record : Record) : record.fields ≠ [] :=
  List.splitOn_ne_nil ',' record.line

def isEmpty (record : Record) : Bool :=
  record.fields.isEmpty

def get? (record : Record) (index : Nat) : Option Text :=
  record.fields[index]?

def field (record : Record) (index : Nat) : Except StageError Text :=
  match record.get? index with
  | some field => .ok field
  | none => .error (.malformedRecord index record.size)

/-- Succeeds if there is a field at every index; otherwise the largest index
is the one reported. -/
def require (record : Record) (indices : List Nat) : Except StageError Unit :=
  match indices.max? with
  | some index => (record.field index).map fun _ => ()
  | none => .ok ()

/-- Whether a field is exactly `token`. -/
def containsField (record : Record) (token : Text) : Bool :=
  record.fields.contains token

/-- The first index whose field, trimmed, is `name`. -/
def position? (record : Record) (name : Text) : Option Nat :=
  record.fields.findIdx? fun field => field.trim == name

end Record

end FactStream
