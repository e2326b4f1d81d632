import FactStream.Proofs.Fact
import FactStream.Proofs.Record

/-!
# Fields of a line

A line is cut into its fields at every separator and at nothing else, so the
fields with separators between them are the line again.  A record is read by
position or by name: what it answers to several positions at once, and to a
name, is told by its fields one by one.  A fact shows its key and its value as
long as neither holds a tab.
-/

namespace FactStream

namespace Record

variable {record : Record} {index : Nat} {indices : List Nat} {name : Text}

theorem isOk_field_iff : (record.field index).isOk ↔ index < record.size := by
  rcases Nat.lt_or_ge index record.size with hlt | hge
  · have hfield : record.get? index = some record.fields[index] :=
      List.getElem?_eq_getElem hlt
    rw [field_of_get? hfield]
    exact iff_of_true rfl hlt
  · rw [field_of_size_le hge]
    exact iff_of_false nofun (Nat.not_lt.mpr hge)

/-- The largest index is asked for on behalf of all. -/
theorem require_cases (record : Record) (indices : List Nat) :
    ((∀ index ∈ indices, index < record.size) ∧
      record.require indices = .ok ()) ∨
    ∃ largest ∈ indices, (∀ index ∈ indices, index ≤ largest) ∧
      record.size ≤ largest ∧
      record.require indices = .error (.malformedRecord largest record.size) := by
  cases hmax : indices.max? with
  | none =>
      left
      rw [List.max?_eq_none_iff] at hmax
      subst hmax
      exact ⟨List.forall_mem_nil _, rfl⟩
  | some largest =>
      obtain ⟨hmem, hlargest⟩ := List.max?_eq_some_iff.mp hmax
      rcases Nat.lt_or_ge largest record.size with hlt | hge
      · left
        exact ⟨fun index hindex => (hlargest index hindex).trans_lt hlt,
          require_of_lt hmax hlt⟩
      · right
        exact ⟨largest, hmem, hlargest, hge, require_of_le hmax hge⟩

theorem isOk_require_iff :
    (record.require indices).isOk ↔
      ∀ index ∈ indices, (record.field index).isOk := by
  simp only [isOk_field_iff]
  rcases record.require_cases indices with
    ⟨hall, hrequire⟩ | ⟨largest, hmem, -, hsize, hrequire⟩
  · rw [hrequire]
    exact iff_of_true rfl hall
  · rw [hrequire]
    refine iff_of_false nofun fun hall => ?_
    exact absurd (hall largest hmem) (Nat.not_lt.mpr hsize)

/-- A name is found at the first field that it is, once blanks are trimmed. -/
theorem position?_eq_some_iff :
    record.position? name = some index ↔
      (∃ field, record.get? index = some field ∧ field.trim = name) ∧
        ∀ earlier < index, ∀ field, record.get? earlier = some field →
          field.trim ≠ name := by
  rw [position?, List.findIdx?_eq_some_iff_getElem]
  constructor
  · rintro ⟨hlt, hname, hfirst⟩
    refine ⟨⟨_, List.getElem?_eq_getElem hlt, eq_of_beq hname⟩, ?_⟩
    intro earlier hearlier field hfield htrim
    obtain ⟨hbound, rfl⟩ := List.getElem?_eq_some_iff.mp hfield
    exact hfirst earlier hearlier (beq_iff_eq.mpr htrim)
  · rintro ⟨⟨field, hfield, hname⟩, hfirst⟩
    obtain ⟨hlt, rfl⟩ := List.getElem?_eq_some_iff.mp hfield
    refine ⟨hlt, beq_iff_eq.mpr hname, fun earlier hearlier htrim => ?_⟩
    exact hfirst earlier hearlier _
      (List.getElem?_eq_getElem (hearlier.trans hlt)) (eq_of_beq htrim)

end Record

/-- A fact is read back in two fields if it is framed by its one tab. -/
theorem Fact.fields_text_eq_iff (fact : Fact) :
    fields fact.text = [fact.key, fact.value] ↔
      '\t' ∉ fact.key ∧ '\t' ∉ fact.value := by
  constructor
  · intro hfields
    have hpieces : ∀ piece ∈ [fact.key, fact.value], '\t' ∉ piece := by
      rw [← hfields]
      exact fun _ => Text.separator_not_mem
    simpa using hpieces
  · rintro ⟨hkey, hvalue⟩
    rw [fields_text fact hkey, fields_of_not_mem hvalue]

/-- The fields of a line are what stands between its commas, and whatever is
asked of a record is answered from them; the same holds of tabs and facts. -/
theorem fields_show_their_line (line : Text) :
    let record : Record := ⟨line⟩
    ([','].intercalate record.fields = line ∧
      (∀ field ∈ record.fields, ',' ∉ field) ∧
      record.size = line.count ',' + 1 ∧
      record.isEmpty = false) ∧
    (∀ index, (record.field index).isOk ↔ index < record.size) ∧
    (∀ indices,
      ((record.require indices).isOk ↔
        ∀ index ∈ indices, (record.field index).isOk) ∧
      (¬ (record.require indices).isOk →
        ∃ largest ∈ indices, (∀ index ∈ indices, index ≤ largest) ∧
          record.require indices =
            .error (.malformedRecord largest record.size))) ∧
    (∀ name,
      (∀ index, record.position? name = some index ↔
        (∃ field, record.get? index = some field ∧ field.trim = name) ∧
          ∀ earlier < index, ∀ field, record.get? earlier = some field →
            field.trim ≠ name) ∧
      (record.position? name = none ↔
        ∀ field ∈ record.fields, field.trim ≠ name)) ∧
    ['\t'].intercalate (Fact.fields line) = line ∧
    ∀ fact : Fact, Fact.fields fact.text = [fact.key, fact.value] ↔
      '\t' ∉ fact.key ∧ '\t' ∉ fact.value := by
  intro record
  refine ⟨⟨List.intercalate_splitOn ',', fun _ => Text.separator_not_mem,
      record.size_eq_count, List.isEmpty_eq_false_iff.mpr record.fields_ne_nil⟩,
    fun _ => Record.isOk_field_iff,
    fun indices => ⟨Record.isOk_require_iff, fun hfails => ?_⟩,
    fun _ => ⟨fun _ => Record.position?_eq_some_iff,
      Record.position?_eq_none_iff⟩,
    List.intercalate_splitOn '\t', Fact.fields_text_eq_iff⟩
  rcases record.require_cases indices with
    ⟨-, hrequire⟩ | ⟨largest, hmem, hlargest, -, hrequire⟩
  · rw [hrequire] at hfails
    exact absurd rfl hfails
  · exact ⟨largest, hmem, hlargest, hrequire⟩

end FactStream
