import FactStream.Proofs.Text.Split
import FactStream.Proofs.Text.Trim
import FactStream.Record

/-!
# Fields of a record

A field is a piece of the line of its record, so what the line is free of its
fields are free of too.
-/

namespace FactStream.Record

variable {record : Record} {field : Text}

theorem mem_line_of_mem_field (hfield : field ∈ record.fields)
    {character : Char}
    (hmem : character ∈ field) : character ∈ record.line :=
  Text.mem_of_mem_piece hfield hmem

theorem mem_line_of_get? {index : Nat} (hfield : record.get? index = some field)
    {character : Char} (hmem : character ∈ field) : character ∈ record.line :=
  mem_line_of_mem_field (List.mem_of_getElem? hfield) hmem

theorem get?_eq_none_iff {index : Nat} :
    record.get? index = none ↔ record.size ≤ index :=
  List.getElem?_eq_none_iff

theorem size_eq_count (record : Record) :
    record.size = record.line.count ',' + 1 :=
  Text.length_splitOn record.line

theorem isSome_position?_iff {name : Text} :
    (record.position? name).isSome ↔
      ∃ field ∈ record.fields, field.trim = name := by
  simp [position?]

theorem position?_eq_none_iff {name : Text} :
    record.position? name = none ↔
      ∀ field ∈ record.fields, field.trim ≠ name := by
  simp [position?]

/-- Blanks around a line do not make or unmake fields. -/
theorem size_trim (line : Text) : (mk line.trim).size = (mk line).size := by
  rw [size_eq_count, size_eq_count, Text.count_trim (by decide)]

theorem field_of_get? {index : Nat} (hfield : record.get? index = some field) :
    record.field index = .ok field := by
  rw [Record.field, hfield]

theorem field_of_size_le {index : Nat} (hsize : record.size ≤ index) :
    record.field index = .error (.malformedRecord index record.size) := by
  rw [Record.field, get?_eq_none_iff.mpr hsize]

theorem require_of_lt {indices : List Nat} {largest : Nat}
    (hmax : indices.max? = some largest)
    (hsize : largest < record.size) : record.require indices = .ok () := by
  cases hfield : record.get? largest with
  | none => exact absurd (get?_eq_none_iff.mp hfield) (Nat.not_le.mpr hsize)
  | some field =>
      rw [require, hmax]
      simp only [field_of_get? hfield]
      rfl

theorem require_of_le {indices : List Nat} {largest : Nat}
    (hmax : indices.max? = some largest)
    (hsize : record.size ≤ largest) :
    record.require indices = .error (.malformedRecord largest record.size) := by
  rw [require, hmax]
  simp only [field_of_size_le hsize]
  rfl

end FactStream.Record
