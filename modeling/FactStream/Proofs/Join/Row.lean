import FactStream.Join.Key
import FactStream.Join.Stage
import FactStream.Proofs.Fact
import FactStream.Proofs.Record
import FactStream.Proofs.Stage.Steady

/-!
# Rows of a join

A row is written with three fields and read from the trimmed line.  Its key and
its content come from a trimmed line without tabs, so they are read as they
were, and of its tag only the blanks around it are lost.
-/

namespace FactStream

namespace JoinRow

/-- The row as it is written. -/
def fact (row : JoinRow) : Fact :=
  ⟨row.key, row.content ++ '\t' :: row.tag⟩

/-- The row as it is read. -/
def received (row : JoinRow) : JoinRow :=
  { row with tag := row.tag.trim }

/-- A tag that can be told from others once it is trimmed and that leaves the
row on one line, with three fields. -/
structure IsTag (tag : Text) : Prop where
  trim_ne_nil : tag.trim ≠ []
  tab_not_mem : '\t' ∉ tag
  lineFeed_not_mem : '\n' ∉ tag

/-- A row that survives being written and read. -/
structure IsFramed (row : JoinRow) : Prop where
  isKey : row.key.IsKey
  trim_content : row.content.trim = row.content
  tab_not_mem_content : '\t' ∉ row.content
  lineFeed_not_mem_content : '\n' ∉ row.content
  isTag : IsTag row.tag

variable {row : JoinRow}

theorem lineFeed_not_mem_fact (hframed : row.IsFramed) :
    '\n' ∉ row.fact.text := by
  apply Fact.lineFeed_not_mem_text row.fact hframed.isKey.lineFeed_not_mem
  simp [fact, hframed.lineFeed_not_mem_content, hframed.isTag.lineFeed_not_mem]

theorem trimEnd_value (htag : row.tag.trim ≠ []) :
    row.fact.value.trimEnd = row.content ++ '\t' :: row.tag.trimEnd := by
  have htab : Text.trimEnd ('\t' :: row.tag) = '\t' :: row.tag.trimEnd :=
    Text.trimEnd_append ['\t'] (Text.trimEnd_ne_nil htag)
  rw [fact, Text.trimEnd_append row.content (by simp [htab]), htab]

/-- Trimming the line of a row trims the end of its tag, as long as the line
neither begins nor ends with blank fields. -/
theorem trim_fact (hne : row.key ≠ []) (hbegin : row.key.beginsBlank = false)
    (htag : row.tag.trim ≠ []) :
    row.fact.text.trim =
      row.key ++ '\t' :: (row.content ++ '\t' :: row.tag.trimEnd) := by
  have hvalue := trimEnd_value htag
  rw [Fact.trim_text row.fact hne hbegin (by simp [hvalue]), hvalue, Fact.text,
    fact]

/-- A row that was written is read. -/
theorem ofLine?_trim_fact (hframed : row.IsFramed) :
    ofLine? row.fact.text.trim = some row.received := by
  have htab : '\t' ∉ row.tag.trimEnd := fun hmem =>
    hframed.isTag.tab_not_mem ((Text.trimEnd_isPrefix row.tag).subset hmem)
  have hfields :
      Fact.fields (row.key ++ '\t' :: (row.content ++ '\t' :: row.tag.trimEnd)) =
        [row.key, row.content, row.tag.trimEnd] := by
    rw [Fact.fields,
      List.splitOn_append_cons_self_of_not_mem hframed.isKey.tab_not_mem,
      List.splitOn_append_cons_self_of_not_mem hframed.tab_not_mem_content,
      List.splitOn_eq_singleton htab]
  rw [trim_fact hframed.isKey.ne_nil hframed.isKey.not_beginsBlank
    hframed.isTag.trim_ne_nil, ofLine?, hfields]
  simp only [hframed.trim_content, Text.trim_trimEnd, received]

end JoinRow

namespace JoinKeyExtractor

/-- The join key of a line, if it is long enough. -/
def joinKey? (column : Nat) (line : Text) : Option Text :=
  ((Record.mk line).get? column).map Text.trim

/-- The row that a line becomes. -/
def joinRow? (extractor : JoinKeyExtractor) (line : Text) : Option JoinRow :=
  (joinKey? extractor.column line).map fun key => ⟨key, line, extractor.tag⟩

/-- The rows that lines become. -/
def rows (extractor : JoinKeyExtractor) (lines : List Text) : List JoinRow :=
  lines.filterMap extractor.joinRow?

variable (extractor : JoinKeyExtractor)

theorem row?_eq (line : Text) :
    extractor.row? line = (extractor.joinRow? line).map JoinRow.fact := by
  rw [row?, joinRow?, joinKey?, Option.map_map, Option.map_map]
  rfl

/-- How the extractor answers a line, long enough or not. -/
def answer (line : Text) : Answer :=
  match extractor.row? line with
  | none => .ok ([], .skipped)
  | some row => .ok ([row], .consumed)

theorem isMapper_stage : extractor.stage.IsMapper extractor.answer := by
  constructor
  · intro line
    change extractor.step () line = _
    rw [step, answer]
    cases extractor.row? line <;> rfl
  · rfl

theorem isOk_answer (line : Text) : (extractor.answer line).isOk := by
  rw [answer]
  cases extractor.row? line <;> rfl

theorem facts_answer (line : Text) :
    (extractor.answer line).facts = (extractor.row? line).toList := by
  rw [answer]
  cases extractor.row? line <;> rfl

/-- Extraction never fails. -/
theorem run_succeeds (text : Text) :
    (extractor.stage.run .unbounded text.encode).Succeeds := by
  rw [Stage.succeeds_iff_accepted extractor.isMapper_stage]
  intro line _
  exact extractor.isOk_answer line.trim

/-- Extraction writes the rows of the trimmed lines. -/
theorem output_run (text : Text) :
    (extractor.stage.run .unbounded text.encode).output =
      Fact.stream
        ((extractor.rows (text.lines.map Text.trim)).map JoinRow.fact) := by
  rw [Stage.run_of_accepted extractor.isMapper_stage
    fun line _ => extractor.isOk_answer line.trim]
  simp only [Stage.mapperReport, facts_answer, row?_eq]
  rw [rows, List.map_filterMap, List.filterMap_map,
    List.filterMap_eq_flatMap_toList]
  rfl

theorem mem_rows {lines : List Text} {row : JoinRow} :
    row ∈ extractor.rows lines ↔
      row.content ∈ lines ∧
        joinKey? extractor.column row.content = some row.key ∧
        row.tag = extractor.tag := by
  rw [rows, List.mem_filterMap]
  constructor
  · rintro ⟨line, hline, hrow⟩
    obtain ⟨key, hkey, rfl⟩ := Option.map_eq_some_iff.mp hrow
    exact ⟨hline, hkey, rfl⟩
  · rintro ⟨hline, hkey, htag⟩
    refine ⟨row.content, hline, ?_⟩
    rw [joinRow?, hkey, ← htag]
    rfl

/-- The contents under a key are the lines that have it, in their order. -/
theorem map_content_filter_rows (lines : List Text) (key : Text) :
    ((extractor.rows lines).filter fun row => row.key = key).map
        JoinRow.content =
      lines.filter fun line => joinKey? extractor.column line = some key := by
  induction lines with
  | nil => rfl
  | cons line lines ih =>
      rw [rows] at ih ⊢
      cases hkey : joinKey? extractor.column line with
      | none =>
          rw [List.filterMap_cons_none (by rw [joinRow?, hkey]; rfl), ih,
            List.filter_cons_of_neg (by simp [hkey])]
      | some found =>
          rw [List.filterMap_cons_some (by rw [joinRow?, hkey]; rfl)]
          by_cases hfound : found = key
          · rw [List.filter_cons_of_pos (by simpa using hfound), List.map_cons,
              ih, List.filter_cons_of_pos (by simp [hkey, hfound])]
          · rw [List.filter_cons_of_neg (by simpa using hfound), ih,
              List.filter_cons_of_neg (by simp [hkey, hfound])]

/-- The rows of trimmed lines without tabs survive being written and read, if
none of their keys is empty. -/
theorem isFramed_of_mem_rows {text : Text} (htag : JoinRow.IsTag extractor.tag)
    (htab : ∀ line ∈ text.lines, '\t' ∉ line)
    (hkeys : ∀ line ∈ text.lines,
      joinKey? extractor.column line.trim ≠ some []) :
    ∀ row ∈ extractor.rows (text.lines.map Text.trim), row.IsFramed := by
  intro row hrow
  obtain ⟨hcontent, hkey, hrowTag⟩ := extractor.mem_rows.mp hrow
  obtain ⟨line, hline, hline_eq⟩ := List.mem_map.mp hcontent
  obtain ⟨field, hfield, hfield_eq⟩ := Option.map_eq_some_iff.mp hkey
  have hmem_of_key : ∀ character ∈ row.key, character ∈ row.content := by
    intro character hmem
    rw [← hfield_eq] at hmem
    exact Record.mem_line_of_get? hfield (Text.mem_of_mem_trim hmem)
  have hmem_of_content : ∀ character ∈ row.content, character ∈ line := by
    intro character hmem
    rw [← hline_eq] at hmem
    exact Text.mem_of_mem_trim hmem
  have htab_content : '\t' ∉ row.content :=
    fun hmem => htab line hline (hmem_of_content _ hmem)
  have hfeed_content : '\n' ∉ row.content := fun hmem =>
    Text.lineFeed_not_mem_of_mem_lines hline (hmem_of_content _ hmem)
  refine ⟨⟨?_, ?_, ?_, ?_⟩, ?_, htab_content, hfeed_content, ?_⟩
  · intro hnil
    rw [← hline_eq, hnil] at hkey
    exact hkeys line hline hkey
  · rw [← hfield_eq]
    exact Text.beginsBlank_trim field
  · exact fun hmem => htab_content (hmem_of_key _ hmem)
  · exact fun hmem => hfeed_content (hmem_of_key _ hmem)
  · rw [← hline_eq, Text.trim_trim]
  · rwa [hrowTag]

end JoinKeyExtractor

end FactStream
