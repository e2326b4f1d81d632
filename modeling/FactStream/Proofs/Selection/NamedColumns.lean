import FactStream.Proofs.Selection.MatchingRecords
import FactStream.Proofs.Stage.Alike

/-!
# Named columns that stay in place

A header row gives every named column a position, and the next one may give it
another.  If all header rows give the same positions and the first record is one
of them, the names are only another way to write these positions: a filter with
the positions as indices runs in the same way, also where it fails.
-/

namespace FactStream

/-- Where a column is in a header row, it is found from then on. -/
theorem Column.resolve_of_place? {column : Column} {header : Record}
    {position : Nat} (hplace : column.place? (some header) = some position)
    (known : Option Nat) :
    ∃ resolved, column.resolve known header = .ok resolved ∧
      column.locate resolved = .ok position := by
  cases column with
  | index index =>
      cases hplace
      exact ⟨known, rfl, rfl⟩
  | named name =>
      have hposition : header.position? name = some position := hplace
      refine ⟨some position, ?_, rfl⟩
      rw [resolve, hposition]

namespace FieldFilter

/-- The positions at which the filter finds its columns. -/
structure Locates (filter : FieldFilter) (matched projected : Nat)
    (positions : Positions) : Prop where
  matched : filter.matched.locate positions.matched = .ok matched
  projected : filter.projected.locate positions.projected = .ok projected

/-- If the record is a header row, it has the columns at these positions. -/
structure Places (filter : FieldFilter) (matched projected : Nat)
    (record : Record) : Prop where
  matched : record.IsHeader →
    filter.matched.place? (some record) = some matched
  projected : record.IsHeader →
    filter.projected.place? (some record) = some projected

instance placesDecidable (filter : FieldFilter) (matched projected : Nat)
    (record : Record) : Decidable (filter.Places matched projected record) :=
  decidable_of_iff
    ((record.IsHeader → filter.matched.place? (some record) = some matched) ∧
      (record.IsHeader →
        filter.projected.place? (some record) = some projected))
    ⟨fun ⟨hmatched, hprojected⟩ => ⟨hmatched, hprojected⟩,
      fun ⟨hmatched, hprojected⟩ => ⟨hmatched, hprojected⟩⟩

section Step

variable {filter other : FieldFilter} {matched projected : Nat}
  {positions otherPositions : Positions} {record : Record}

theorem places_atIndices (target : Text) (matched projected : Nat)
    (record : Record) :
    (atIndices target matched projected).Places matched projected record :=
  ⟨fun _ => rfl, fun _ => rfl⟩

/-- Whatever the filter knew before, a header row tells it where its columns
are. -/
theorem readHeader_of_places (hplaces : filter.Places matched projected record)
    (hheader : record.IsHeader) (positions : Positions) :
    ∃ next, filter.readHeader positions record = .pass next .consumed ∧
      filter.Locates matched projected next := by
  obtain ⟨known, hmatched, hlocate⟩ :=
    Column.resolve_of_place? (hplaces.matched hheader) positions.matched
  obtain ⟨otherKnown, hprojected, hotherLocate⟩ :=
    Column.resolve_of_place? (hplaces.projected hheader) positions.projected
  refine ⟨⟨known, otherKnown⟩, ?_, ⟨hlocate, hotherLocate⟩⟩
  rw [readHeader, hmatched]
  simp only [hprojected]

/-- Filters with one target that find their columns at the same positions. -/
def LocatesLike (filter other : FieldFilter) (matched projected : Nat)
    (positions otherPositions : Positions) : Prop :=
  filter.Locates matched projected positions ∧
    other.Locates matched projected otherPositions

theorem step_alike_of_isHeader (hheader : record.IsHeader)
    (hplaces : filter.Places matched projected record)
    (hother : other.Places matched projected record)
    (positions otherPositions : Positions) :
    (filter.stage.step positions record.line).Alike
      (filter.LocatesLike other matched projected)
      (other.stage.step otherPositions record.line) := by
  obtain ⟨next, hnext, hlocates⟩ := readHeader_of_places hplaces hheader positions
  obtain ⟨otherNext, hotherNext, hotherLocates⟩ :=
    readHeader_of_places hother hheader otherPositions
  have hstep := (step_of_isHeader hheader positions).trans hnext
  have hotherStep := (step_of_isHeader hheader otherPositions).trans hotherNext
  change (filter.step _ _).Alike _ (other.step _ _)
  rw [hstep, hotherStep]
  exact .write [] next otherNext ⟨hlocates, hotherLocates⟩

theorem step_alike_of_not_isHeader (hdata : ¬ record.IsHeader)
    (htarget : filter.target = other.target)
    (hlocates :
      filter.LocatesLike other matched projected positions otherPositions) :
    (filter.stage.step positions record.line).Alike
      (filter.LocatesLike other matched projected)
      (other.stage.step otherPositions record.line) := by
  have hselect :
      filter.select positions record = other.select otherPositions record := by
    rw [select_of_located hlocates.1.matched hlocates.1.projected,
      select_of_located hlocates.2.matched hlocates.2.projected, htarget]
  change (filter.step _ _).Alike _ (other.step _ _)
  rw [step_of_not_isHeader hdata, step_of_not_isHeader hdata, hselect]
  cases other.select otherPositions record with
  | error error => exact .refuse error positions otherPositions
  | ok facts => exact .write facts positions otherPositions hlocates

end Step

variable {filter : FieldFilter} {matched projected : Nat}

/-- Once the columns are located, header rows that leave them in place do not
tell the filter from one with indices. -/
theorem repliesLike_atIndices (filter : FieldFilter) (matched projected : Nat) :
    filter.stage.RepliesLike (atIndices filter.target matched projected).stage
      (filter.LocatesLike (atIndices filter.target matched projected) matched
        projected)
      (fun line => filter.Places matched projected ⟨line⟩) where
  name := rfl
  step := by
    intro positions otherPositions line hlocates hplaces
    by_cases hheader : (Record.mk line).IsHeader
    · exact step_alike_of_isHeader hheader hplaces (places_atIndices ..)
        positions otherPositions
    · exact step_alike_of_not_isHeader hheader rfl hlocates
  finish hlocates := .write [] _ _ hlocates

/-- A filter with named columns runs as the filter with their positions as
indices, on a text whose first line is a header row and whose header rows all
have the names, each first at the same position.  The same is written, and the
end is the same summary or the same failure, whatever the sink takes. -/
theorem run_of_columns_that_stay (filter : FieldFilter) (matched projected : Nat)
    (sink : Sink) {text : Text}
    (hfirst : ∃ first ∈ (recordsOf text.lines).head?, first.IsHeader)
    (hplaces : ∀ record ∈ recordsOf text.lines,
      filter.Places matched projected record) :
    filter.stage.run sink text.encode =
      (atIndices filter.target matched projected).stage.run sink text.encode := by
  rw [recordsOf, List.forall_mem_map] at hplaces
  rw [Stage.run, Stage.run, Text.lines_encode]
  cases hlines : text.lines with
  | nil => simp [hlines, recordsOf] at hfirst
  | cons line lines =>
      have hheader : (Record.mk line.trim).IsHeader := by
        simpa [hlines, recordsOf] using hfirst
      rw [hlines, List.forall_mem_cons] at hplaces
      -- The first line locates the columns, whatever the filters start from.
      apply Stage.runFrom_cons_of_alike
        (step_alike_of_isHeader hheader hplaces.1 (places_atIndices ..) _ _)
      intro positions otherPositions sink emitted read skipped hlocates
      exact Stage.runFrom_of_alike
        (repliesLike_atIndices filter matched projected) hplaces.2 hlocates sink
        emitted read skipped

theorem run_of_columns_that_stay_until_short_record :
    let filter : FieldFilter := ⟨"t".toList, .named "A".toList, .index 2⟩
    let text : Text :=
      "x, A ,Interconne,A\nx, t ,y\nB,A,A,Interconne\nw,t,\nu,t".toList
    (∃ first ∈ (recordsOf text.lines).head?, first.IsHeader) ∧
    (∀ record ∈ recordsOf text.lines, filter.Places 1 2 record) ∧
    (filter.stage.run .unbounded text.encode).output =
      Text.encode "y\t1\n''\t1\n".toList ∧
    (filter.stage.run .unbounded text.encode).result =
      .error ⟨some 5, .malformedRecord 2 2⟩ := by
  intro filter text
  have hfirst : ∃ first ∈ (recordsOf text.lines).head?, first.IsHeader :=
    ⟨_, rfl, by decide⟩
  have hplaces : ∀ record ∈ recordsOf text.lines, filter.Places 1 2 record := by
    decide +kernel
  refine ⟨hfirst, hplaces, ?_⟩
  rw [filter.run_of_columns_that_stay 1 2 .unbounded hfirst hplaces]
  exact ⟨by rfl, by rfl⟩

end FieldFilter

end FactStream
