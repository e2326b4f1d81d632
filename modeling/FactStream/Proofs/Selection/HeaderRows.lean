import FactStream.Proofs.Selection.FieldFilter

/-!
# Columns under header rows

Header rows may stand anywhere among the records, and a named column is where
the nearest header row before a record has its name.  So whether a filter admits
a record, and what it writes of it, is a matter of the record and of that header
row alone.
-/

namespace FactStream

/-- A header row has the header token as a field, exactly. -/
def Record.IsHeader (record : Record) : Prop :=
  FieldFilter.headerToken ∈ record.fields

instance Record.isHeaderDecidable (record : Record) :
    Decidable record.IsHeader :=
  inferInstanceAs (Decidable (_ ∈ _))

theorem Record.containsField_headerToken (record : Record) :
    record.containsField FieldFilter.headerToken ↔ record.IsHeader := by
  rw [containsField, List.contains_iff_mem, IsHeader]

/-- A record and the nearest header row before it, if there is one. -/
structure HeadedRecord where
  header? : Option Record
  record : Record
  deriving DecidableEq, Repr

/-- The last header row among some records. -/
def nearestHeader? (records : List Record) : Option Record :=
  (records.filter fun record => record.IsHeader).getLast?

/-- Every record with the nearest header row before it. -/
def underHeaders (records : List Record) : List HeadedRecord :=
  records.zipIdx.map fun (record, index) =>
    ⟨nearestHeader? (records.take index), record⟩

theorem nearestHeader?_concat (records : List Record) (record : Record) :
    nearestHeader? (records ++ [record]) =
      if record.IsHeader then some record else nearestHeader? records := by
  rw [nearestHeader?, List.filter_append]
  by_cases hheader : record.IsHeader
  · simp [hheader]
  · simp [hheader, nearestHeader?]

theorem underHeaders_concat (records : List Record) (record : Record) :
    underHeaders (records ++ [record]) =
      underHeaders records ++ [⟨nearestHeader? records, record⟩] := by
  rw [underHeaders, List.zipIdx_append, List.map_append]
  congr 1
  · apply List.map_congr_left
    rintro ⟨other, index⟩ hmem
    have hindex : index ≤ records.length :=
      Nat.le_of_lt (List.snd_lt_of_mem_zipIdx hmem)
    simp [List.take_append_of_le_length hindex]
  · simp

theorem mem_iff_exists_underHeaders {records : List Record} {record : Record} :
    record ∈ records ↔ ∃ headed ∈ underHeaders records, headed.record = record := by
  have hrecords : (underHeaders records).map HeadedRecord.record = records := by
    rw [underHeaders, List.map_map]
    exact List.zipIdx_map_fst 0 records
  rw [← List.mem_map, hrecords]

namespace Column

/-- The name by which the column is chosen, if it is. -/
def name? : Column → Option Text
  | index _ => none
  | named name => some name

/-- Where the column is under a header row: at its index, or at the first
position that has its name there, blanks around it aside. -/
def place? (column : Column) (header? : Option Record) : Option Nat :=
  match column with
  | index position => some position
  | named name => header?.bind fun header =>
      header.fields.findIdx? fun field => field.trim == name

/-- The position that a filter knows of the column behind a header row. -/
def known? (column : Column) (header? : Option Record) : Option Nat :=
  match column with
  | index _ => none
  | named name => header?.bind fun header => header.position? name

end Column

namespace Column

variable {column : Column} {name : Text} {header? : Option Record}
  {header : Record} {known : Option Nat}

theorem name?_eq_some_iff : column.name? = some name ↔ column = .named name := by
  cases column <;> simp [name?]

theorem locate_known? {position : Nat}
    (hplace : column.place? header? = some position) :
    column.locate (column.known? header?) = .ok position := by
  cases column with
  | index index =>
      cases hplace
      rfl
  | named name =>
      have hknown : known? (.named name) header? = some position := hplace
      rw [hknown]
      rfl

theorem locate_of_no_header (hname : column.name? = some name) :
    column.locate (column.known? none) =
      .error (.configuration (.columnBeforeHeader name)) := by
  rw [name?_eq_some_iff.mp hname]
  rfl

theorem locate_of_no_name (hname : column.name? = none) :
    ∃ position, column.locate known = .ok position := by
  cases column with
  | index index => exact ⟨index, rfl⟩
  | named name => cases hname

theorem resolve_of_found
    (hfound : ∀ name ∈ column.name?, (header.position? name).isSome) :
    column.resolve (column.known? header?) header =
      .ok (column.known? (some header)) := by
  cases column with
  | index index => rfl
  | named name =>
      obtain ⟨position, hposition⟩ := Option.isSome_iff_exists.mp (hfound name rfl)
      rw [resolve, known?]
      simp [hposition]

theorem resolve_of_missing (hname : column.name? = some name)
    (hmissing : header.position? name = none) :
    column.resolve known header =
      .error (.configuration (.columnNotInHeader name header.line)) := by
  rw [name?_eq_some_iff.mp hname, resolve, hmissing]

theorem isSome_place? (hfound : ∀ name ∈ column.name?,
    ∃ header ∈ header?, (header.position? name).isSome) :
    (column.place? header?).isSome := by
  cases column with
  | index index => rfl
  | named name =>
      obtain ⟨header, rfl, hposition⟩ := hfound name rfl
      exact hposition

end Column

namespace FieldFilter

/-- The names that the filter is configured with, that of the matched column
first. -/
def names (filter : FieldFilter) : List Text :=
  filter.matched.name?.toList ++ filter.projected.name?.toList

/-- What a record must be for a filter to go on: a header row has every name, a
record of data stands under a header row if there are names, and it is long
enough to have both columns. -/
structure Admits (filter : FieldFilter) (headed : HeadedRecord) : Prop where
  names_found : headed.record.IsHeader → ∀ name ∈ filter.names,
    ∃ field ∈ headed.record.fields, field.trim = name
  header_before : ¬ headed.record.IsHeader → filter.names ≠ [] →
    headed.header?.isSome
  long_enough : ¬ headed.record.IsHeader →
    ∀ matched ∈ filter.matched.place? headed.header?,
    ∀ projected ∈ filter.projected.place? headed.header?,
      max matched projected < headed.record.size

instance admitsDecidable (filter : FieldFilter) (headed : HeadedRecord) :
    Decidable (filter.Admits headed) :=
  decidable_of_iff
    ((headed.record.IsHeader → ∀ name ∈ filter.names,
        ∃ field ∈ headed.record.fields, field.trim = name) ∧
      (¬ headed.record.IsHeader → filter.names ≠ [] →
        headed.header?.isSome) ∧
      (¬ headed.record.IsHeader →
        ∀ matched ∈ filter.matched.place? headed.header?,
        ∀ projected ∈ filter.projected.place? headed.header?,
          max matched projected < headed.record.size))
    ⟨fun hall => ⟨hall.1, hall.2.1, hall.2.2⟩,
      fun hadmits =>
        ⟨hadmits.names_found, hadmits.header_before, hadmits.long_enough⟩⟩

/-- How a record that is not admitted is refused: under the first name that a
header row lacks, under the first name if there is no header row, or as too short
for the further column. -/
inductive Violates (filter : FieldFilter) (headed : HeadedRecord) :
    StageError → Prop
  | nameMissing {name : Text} (hheader : headed.record.IsHeader)
      (hname : (filter.names.find? fun name =>
        ∀ field ∈ headed.record.fields, field.trim ≠ name) = some name) :
      Violates filter headed
        (.configuration (.columnNotInHeader name headed.record.line))
  | noHeader {name : Text} (hdata : ¬ headed.record.IsHeader)
      (hname : filter.names.head? = some name)
      (hheader : headed.header? = none) :
      Violates filter headed (.configuration (.columnBeforeHeader name))
  | tooShort {matched projected : Nat} (hdata : ¬ headed.record.IsHeader)
      (hmatched : filter.matched.place? headed.header? = some matched)
      (hprojected : filter.projected.place? headed.header? = some projected)
      (hshort : headed.record.size ≤ max matched projected) :
      Violates filter headed
        (.malformedRecord (max matched projected) headed.record.size)

/-- A field as it is written: as it is, or in single quotes if it is blank. -/
def writtenField (field : Text) : Text :=
  if field.trim = [] then '\'' :: field ++ ['\''] else field

/-- The key that a record of data gives, if its matched field is the target. -/
def selected? (filter : FieldFilter) (headed : HeadedRecord) : Option Text :=
  if headed.record.IsHeader then none
  else
    (filter.matched.place? headed.header?).bind fun matched =>
      (filter.projected.place? headed.header?).bind fun projected =>
        if (headed.record.get? matched).map Text.trim = some filter.target then
          (headed.record.get? projected).map writtenField
        else none

theorem keyOfField_eq_writtenField (field : Text) :
    keyOfField field = writtenField field := by
  have hblank : field.isBlankText ↔ field.trim = [] := by
    rw [Text.isBlankText, List.all_eq_true, Text.trim_eq_nil_iff]
  simp only [keyOfField, writtenField, hblank]

/-- What the filter knows behind a header row. -/
def positionsUnder (filter : FieldFilter) (header? : Option Record) :
    Positions :=
  ⟨filter.matched.known? header?, filter.projected.known? header?⟩

section Step

variable {filter : FieldFilter} {header? : Option Record} {header record : Record}
  {name : Text}

theorem forall_mem_names {Holds : Text → Prop} :
    (∀ name ∈ filter.names, Holds name) ↔
      (∀ name ∈ filter.matched.name?, Holds name) ∧
        ∀ name ∈ filter.projected.name?, Holds name := by
  simp [names, or_imp, forall_and]

theorem readHeader_of_found
    (hfound : ∀ name ∈ filter.names, (header.position? name).isSome) :
    filter.readHeader (filter.positionsUnder header?) header =
      .pass (filter.positionsUnder (some header)) .consumed := by
  rw [forall_mem_names] at hfound
  rw [readHeader, positionsUnder, Column.resolve_of_found hfound.1]
  simp only [Column.resolve_of_found hfound.2]
  rfl

/-- The matched column is looked for first, so it is its name that is missed if
both are missing. -/
theorem readHeader_of_missing
    (hname : (filter.names.find? fun name =>
      ∀ field ∈ header.fields, field.trim ≠ name) = some name) :
    ∃ left, filter.readHeader (filter.positionsUnder header?) header =
      .refuse (.configuration (.columnNotInHeader name header.line)) left := by
  simp only [← Record.position?_eq_none_iff] at hname
  rw [names, List.find?_append, Option.or_eq_some_iff] at hname
  rw [readHeader, positionsUnder]
  rcases hname with hmatched | ⟨hmatched, hprojected⟩
  · have hmem := List.mem_of_find?_eq_some hmatched
    have hmissing : header.position? name = none := by
      simpa using List.find?_some hmatched
    rw [Column.resolve_of_missing (by simpa using hmem) hmissing]
    exact ⟨_, rfl⟩
  · have hfound : ∀ name ∈ filter.matched.name?,
        (header.position? name).isSome := by
      intro name hmem
      simpa [Option.isSome_iff_ne_none] using
        List.find?_eq_none.mp hmatched name (by simpa using hmem)
    have hmem := List.mem_of_find?_eq_some hprojected
    have hmissing : header.position? name = none := by
      simpa using List.find?_some hprojected
    rw [Column.resolve_of_found hfound]
    simp only [Column.resolve_of_missing (by simpa using hmem) hmissing]
    exact ⟨_, rfl⟩

theorem exists_places (hheader : filter.names ≠ [] → header?.isSome)
    (hfound : ∀ header ∈ header?, ∀ name ∈ filter.names,
      (header.position? name).isSome) :
    ∃ matched projected, filter.matched.place? header? = some matched ∧
      filter.projected.place? header? = some projected := by
  have hnames : ∀ name ∈ filter.names,
      ∃ header ∈ header?, (header.position? name).isSome := by
    intro name hname
    obtain ⟨header, hsome⟩ :=
      Option.isSome_iff_exists.mp (hheader (List.ne_nil_of_mem hname))
    exact ⟨header, hsome, hfound header hsome name hname⟩
  rw [forall_mem_names] at hnames
  obtain ⟨matched, hmatched⟩ :=
    Option.isSome_iff_exists.mp (Column.isSome_place? hnames.1)
  obtain ⟨projected, hprojected⟩ :=
    Option.isSome_iff_exists.mp (Column.isSome_place? hnames.2)
  exact ⟨matched, projected, hmatched, hprojected⟩

theorem select_of_no_header (hname : filter.names.head? = some name)
    (record : Record) :
    filter.select (filter.positionsUnder none) record =
      .error (.configuration (.columnBeforeHeader name)) := by
  rw [names, List.head?_append, Option.or_eq_some_iff] at hname
  rw [select, positionsUnder]
  rcases hname with hmatched | ⟨hmatched, hprojected⟩
  · rw [Column.locate_of_no_header (by simpa using hmatched)]
    rfl
  · obtain ⟨matched, hlocate⟩ := Column.locate_of_no_name (by simpa using hmatched)
    rw [hlocate, Column.locate_of_no_header (by simpa using hprojected)]
    rfl

theorem step_of_isHeader (hheader : record.IsHeader) (positions : Positions) :
    filter.step positions record.line = filter.readHeader positions record := by
  rw [step]
  exact if_pos (record.containsField_headerToken.mpr hheader)

theorem step_of_not_isHeader (hdata : ¬ record.IsHeader)
    (positions : Positions) :
    filter.step positions record.line =
      match filter.select positions record with
      | .error error => .refuse error positions
      | .ok facts => .write facts positions positions .consumed := by
  rw [step]
  exact if_neg (mt record.containsField_headerToken.mp hdata)

variable {headed : HeadedRecord}

/-- What is selected of a record of data, once it is known where the columns
are. -/
theorem selected?_of_places {matched projected : Nat}
    (hdata : ¬ headed.record.IsHeader)
    (hmatched : filter.matched.place? headed.header? = some matched)
    (hprojected : filter.projected.place? headed.header? = some projected) :
    (filter.selected? headed).toList.map countOnce =
      if (headed.record.get? matched).map Text.trim = some filter.target then
        ((headed.record.get? projected).map keyOfField).toList.map countOnce
      else [] := by
  have hkey : keyOfField = writtenField := funext keyOfField_eq_writtenField
  rw [selected?, if_neg hdata, hmatched, hprojected, hkey]
  simp only [Option.bind_some]
  split <;> rfl

/-- The filter writes what it selects of a record that it admits, and looks for
the columns in a new header row from then on. -/
theorem step_of_admits (hadmits : filter.Admits headed)
    (hfound : ∀ header ∈ headed.header?, ∀ name ∈ filter.names,
      (header.position? name).isSome) :
    ∃ interrupted, filter.step (filter.positionsUnder headed.header?)
        headed.record.line =
      .write ((filter.selected? headed).toList.map countOnce) interrupted
        (filter.positionsUnder (if headed.record.IsHeader then
          some headed.record else headed.header?)) .consumed := by
  by_cases hheader : headed.record.IsHeader
  · have hnames : ∀ name ∈ filter.names,
        (headed.record.position? name).isSome := fun name hname =>
      Record.isSome_position?_iff.mpr (hadmits.names_found hheader name hname)
    rw [step_of_isHeader hheader, readHeader_of_found hnames, selected?,
      if_pos hheader, if_pos hheader]
    exact ⟨_, rfl⟩
  · obtain ⟨matched, projected, hmatched, hprojected⟩ :=
      exists_places (hadmits.header_before hheader) hfound
    have hsize := hadmits.long_enough hheader matched hmatched projected
      hprojected
    rw [step_of_not_isHeader hheader, select_of_located
      (Column.locate_known? hmatched) (Column.locate_known? hprojected),
      if_pos hsize, selected?_of_places hheader hmatched hprojected,
      if_neg hheader]
    exact ⟨_, rfl⟩

/-- A header row is only not admitted for a name that it lacks. -/
theorem exists_missing_name (hrefused : ¬ filter.Admits headed)
    (hheader : headed.record.IsHeader) :
    ∃ name, (filter.names.find? fun name =>
      ∀ field ∈ headed.record.fields, field.trim ≠ name) = some name := by
  rw [← Option.isSome_iff_exists, List.find?_isSome]
  by_contra hnone
  apply hrefused
  refine ⟨fun _ name hname => ?_, fun hdata => absurd hheader hdata,
    fun hdata => absurd hheader hdata⟩
  by_contra hlacks
  exact hnone ⟨name, hname, decide_eq_true fun field hfield heq =>
    hlacks ⟨field, hfield, heq⟩⟩

/-- A record of data is only not admitted, once it is known where the columns
are, for being too short. -/
theorem size_le_of_not_admits {matched projected : Nat}
    (hrefused : ¬ filter.Admits headed) (hdata : ¬ headed.record.IsHeader)
    (hunder : filter.names ≠ [] → headed.header?.isSome)
    (hmatched : filter.matched.place? headed.header? = some matched)
    (hprojected : filter.projected.place? headed.header? = some projected) :
    headed.record.size ≤ max matched projected := by
  by_contra hlong
  apply hrefused
  refine ⟨fun hheader => absurd hheader hdata, fun _ => hunder, ?_⟩
  rw [hmatched, hprojected]
  rintro _ _ ⟨rfl⟩ _ ⟨rfl⟩
  exact Nat.not_le.mp hlong

theorem step_of_not_admits (hrefused : ¬ filter.Admits headed)
    (hfound : ∀ header ∈ headed.header?, ∀ name ∈ filter.names,
      (header.position? name).isSome) :
    ∃ error left, filter.step (filter.positionsUnder headed.header?)
        headed.record.line = .refuse error left ∧
      filter.Violates headed error := by
  by_cases hheader : headed.record.IsHeader
  · obtain ⟨name, hname⟩ := exists_missing_name hrefused hheader
    obtain ⟨left, hread⟩ := readHeader_of_missing hname
    rw [step_of_isHeader hheader, hread]
    exact ⟨_, left, rfl, .nameMissing hheader hname⟩
  · rw [step_of_not_isHeader hheader]
    by_cases hunder : filter.names ≠ [] → headed.header?.isSome
    · obtain ⟨matched, projected, hmatched, hprojected⟩ :=
        exists_places hunder hfound
      have hshort : headed.record.size ≤ max matched projected :=
        size_le_of_not_admits hrefused hheader hunder hmatched hprojected
      rw [select_of_located (Column.locate_known? hmatched)
        (Column.locate_known? hprojected), if_neg (Nat.not_lt.mpr hshort)]
      exact ⟨_, _, rfl, .tooShort hheader hmatched hprojected hshort⟩
    · rw [Classical.not_imp, Option.not_isSome_iff_eq_none] at hunder
      obtain ⟨hnames, hnone⟩ := hunder
      obtain ⟨name, hname⟩ :=
        Option.isSome_iff_exists.mp (List.isSome_head?.mpr hnames)
      rw [hnone, select_of_no_header hname]
      exact ⟨_, _, rfl, .noHeader hheader hname hnone⟩

end Step

end FieldFilter

end FactStream
