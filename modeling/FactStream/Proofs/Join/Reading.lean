import FactStream.Proofs.Join.Row
import FactStream.Proofs.Text.Split

/-!
# What is read of the rows that are written

A row is written without escapes, so whether it is read back depends on what is
in its fields.  It is lost when the blanks at an end of its line take a field
with them, and it is another row, or none, when there is a tab or a line feed
within a field.  A row whose fields are free of both is read as it was.
-/

namespace FactStream

namespace JoinRow

/-- What the joiner reads from a line of a stream, if it does not skip it. -/
def reading? (line : Bytes) : Option JoinRow :=
  line.decode?.bind fun text => ofLine? text.trim

/-- All rows that the joiner reads from a stream. -/
def readings (input : Bytes) : List JoinRow :=
  input.lines.filterMap reading?

/-- The row under another tag. -/
def withTag (row : JoinRow) (tag : Text) : JoinRow :=
  { row with tag := tag }

/-- The row without the blanks at the end of its line. -/
def trimEnd (row : JoinRow) : JoinRow :=
  row.withTag row.tag.trimEnd

theorem readings_encode (text : Text) :
    readings text.encode =
      text.lines.filterMap fun line => ofLine? line.trim :=
  Text.filterMap_lines_encode ofLine? text

/-- A line is read as a row when it is made up of three fields. -/
theorem ofLine?_eq_some_iff {line : Text} {row : JoinRow} :
    ofLine? line = some row ↔
      ∃ content tag : Text,
        line = row.key ++ '\t' :: (content ++ '\t' :: tag) ∧
        ('\t' ∉ row.key ∧ '\t' ∉ content ∧ '\t' ∉ tag) ∧
        content.trim = row.content ∧ tag.trim = row.tag := by
  have hfields (key content tag : Text) :
      Fact.fields line = [key, content, tag] ↔
        ('\t' ∉ key ∧ '\t' ∉ content ∧ '\t' ∉ tag) ∧
          key ++ '\t' :: (content ++ '\t' :: tag) = line := by
    rw [Fact.fields, Text.splitOn_eq_iff (List.cons_ne_nil _ _)]
    simp
  constructor
  · intro hread
    rw [ofLine?] at hread
    split at hread
    · rename_i key content tag hline
      obtain ⟨htabs, hline⟩ := (hfields key content tag).mp hline
      rw [← Option.some.inj hread]
      exact ⟨content, tag, hline.symm, htabs, rfl, rfl⟩
    · exact absurd hread (Option.some_ne_none row).symm
  · rintro ⟨content, tag, hline, htabs, hcontent, htag⟩
    rw [ofLine?, (hfields row.key content tag).mpr ⟨htabs, hline.symm⟩]
    simp only [hcontent, htag]

/-- The key of a row that is read from a trimmed line begins visibly. -/
theorem key_of_ofLine?_trim {line : Text} {found : JoinRow}
    (hread : ofLine? line.trim = some found) :
    found.key ≠ [] ∧ found.key.beginsBlank = false := by
  obtain ⟨content, tag, hline, -⟩ := ofLine?_eq_some_iff.mp hread
  have hbegin := Text.beginsBlank_trim line
  rw [hline] at hbegin
  refine ⟨?_, Text.beginsBlank_of_prefix (List.prefix_append _ _) hbegin⟩
  intro hnil
  rw [hnil] at hbegin
  exact Bool.noConfusion hbegin

theorem tab_not_mem_tag {line : Text} {found : JoinRow}
    (hread : ofLine? line = some found) : '\t' ∉ found.tag := by
  obtain ⟨content, tag, -, ⟨-, -, htag⟩, -, htrim⟩ :=
    ofLine?_eq_some_iff.mp hread
  rw [← htrim]
  exact fun hmem => htag (Text.mem_of_mem_trim hmem)

/-- A row is read only where there is a tab between visible characters. -/
theorem tab_mem_trim_of_ofLine? {line text : Text} {found : JoinRow}
    (hline : line <:+: text) (hread : ofLine? line.trim = some found) :
    '\t' ∈ text.trim := by
  obtain ⟨hne, hbegin⟩ := key_of_ofLine?_trim hread
  obtain ⟨content, tag, hfields, ⟨hkey, -⟩, -⟩ := ofLine?_eq_some_iff.mp hread
  have hrest_trim : Text.trim (content ++ '\t' :: tag) ≠ [] := by
    intro hnil
    have htrim : line.trim = found.key.trim := by
      rw [← Text.trim_trim line, hfields,
        Text.trim_append_blank _ (Text.forall_isBlank_cons rfl hnil)]
    have htab : '\t' ∈ line.trim := by simp [hfields]
    exact hkey (Text.mem_of_mem_trim (htrim ▸ htab))
  have hwithin : found.key ++ '\t' :: (content ++ '\t' :: tag) <:+: text :=
    hfields ▸ (Text.trim_isInfix line).trans hline
  exact Text.mem_trim_of_isInfix hwithin
    (Text.trim_ne_nil_of_beginsBlank hne hbegin) hrest_trim

theorem exists_line_of_mem_readings {text : Text} {found : JoinRow}
    (hfound : found ∈ readings text.encode) :
    ∃ line : Text, line <:+: text ∧ ofLine? line.trim = some found := by
  rw [readings_encode, List.mem_filterMap] at hfound
  obtain ⟨line, hline, hread⟩ := hfound
  exact ⟨line, isInfix_of_mem_terminated hline, hread⟩

/-- Nothing is read from blank lines. -/
theorem readings_encode_of_blank {text : Text} (hblank : text.trim = []) :
    readings text.encode = [] := by
  apply List.eq_nil_iff_forall_not_mem.mpr
  intro found hfound
  obtain ⟨line, hline, hread⟩ := exists_line_of_mem_readings hfound
  have htab := tab_mem_trim_of_ofLine? hline hread
  rw [hblank] at htab
  exact List.not_mem_nil htab

variable {row found : JoinRow}

/-- Without a visible tag the second of its tabs is trimmed away with it, and the
row is not read. -/
theorem trim_tag_ne_nil_of_ofLine? (hkey : '\t' ∉ row.key)
    (hcontent : '\t' ∉ row.content)
    (hread : ofLine? row.fact.text.trim = some found) : row.tag.trim ≠ [] := by
  intro hnil
  obtain ⟨content, tag, hfields, -⟩ := ofLine?_eq_some_iff.mp hread
  have htrim : row.fact.text.trim =
      Text.trim (row.key ++ '\t' :: row.content) := by
    have htext : row.fact.text =
        (row.key ++ '\t' :: row.content) ++ '\t' :: row.tag := by
      simp [fact, Fact.text]
    rw [htext, Text.trim_append_blank _ (Text.forall_isBlank_cons rfl hnil)]
  have hone : List.count '\t' (row.key ++ '\t' :: row.content) = 1 := by
    simp [List.count_eq_zero_of_not_mem, hkey, hcontent]
  have htwo : 2 ≤ List.count '\t' row.fact.text.trim := by
    rw [hfields]
    simp
    omega
  have hle : List.count '\t' row.fact.text.trim ≤ 1 := by
    rw [htrim, ← hone]
    exact (Text.trim_isInfix _).sublist.count_le '\t'
  exact absurd (htwo.trans hle) (by decide)

/-- A row that is read under its key and with its content has fields that can
be told apart. -/
theorem isFramed_of_ofLine? (hkey : '\n' ∉ row.key)
    (hcontent : '\n' ∉ row.content) (htag : '\n' ∉ row.tag)
    (hread : ofLine? row.fact.text.trim = some found)
    (hfound_key : found.key = row.key)
    (hfound_content : found.content = row.content) :
    found = row.received ∧ row.trimEnd.IsFramed := by
  obtain ⟨hne, hbegin⟩ := key_of_ofLine?_trim hread
  obtain ⟨content, tag, hfields, ⟨htab_key, htab_content, htab_tag⟩,
    hcontent_trim, -⟩ := ofLine?_eq_some_iff.mp hread
  rw [hfound_key] at hne hbegin htab_key hfields
  rw [hfound_content] at hcontent_trim
  have htab_row : '\t' ∉ row.content := fun hmem =>
    htab_content (Text.mem_of_mem_trim (hcontent_trim ▸ hmem))
  have htag_ne := trim_tag_ne_nil_of_ofLine? htab_key htab_row hread
  rw [trim_fact hne hbegin htag_ne] at hfields hread
  have htab_end : '\t' ∉ row.tag.trimEnd := by
    have hcount := congrArg (List.count '\t') hfields
    rw [← List.count_eq_zero]
    simpa [List.count_eq_zero_of_not_mem, htab_key, htab_row, htab_content,
      htab_tag] using hcount
  have hreceived : ofLine?
      (row.key ++ '\t' :: (row.content ++ '\t' :: row.tag.trimEnd)) =
        some ⟨row.key, row.content.trim, row.tag.trim⟩ :=
    ofLine?_eq_some_iff.mpr ⟨row.content, row.tag.trimEnd, rfl,
      ⟨htab_key, htab_row, htab_end⟩, rfl, Text.trim_trimEnd row.tag⟩
  have hfound := Option.some.inj (hread.symm.trans hreceived)
  have hcontent_eq : row.content.trim = row.content := by
    rw [← hfound_content, hfound, Text.trim_trim]
  refine ⟨by rw [hfound, hcontent_eq, received], ?_⟩
  exact ⟨⟨hne, hbegin, htab_key, hkey⟩, hcontent_eq, htab_row, hcontent,
    by rwa [trimEnd, withTag, Text.trim_trimEnd], htab_end,
    fun hmem => htag ((Text.trimEnd_isPrefix row.tag).subset hmem)⟩

@[simp]
theorem received_trimEnd (row : JoinRow) :
    row.trimEnd.received = row.received := by
  simp only [received, trimEnd, withTag, Text.trim_trimEnd]

/-- Whatever blanks are at its end, a row is read as the row without them. -/
theorem ofLine?_trim_fact_of_trimEnd (hframed : row.trimEnd.IsFramed) :
    ofLine? row.fact.text.trim = some row.received := by
  obtain ⟨blanks, htag, hblanks⟩ := Text.exists_trimEnd_append row.tag
  have htext : row.fact.text = row.trimEnd.fact.text ++ blanks := by
    simp [fact, Fact.text, trimEnd, withTag, htag]
  rw [htext, Text.trim_append_blank _ hblanks, ofLine?_trim_fact hframed,
    received_trimEnd]

section FirstLine

/-! The tag of a row may go on behind a line feed: `first` is what is on the line
of the row, and `rest` is what the lines behind it have of the tag. -/

variable {first rest : Text}

/-- What is read of a row is what is read of its first line and of the lines
that its tag goes on with. -/
theorem readings_fact (hkey : '\n' ∉ row.key) (hcontent : '\n' ∉ row.content)
    (htag : row.tag ++ ['\n'] = first ++ '\n' :: rest)
    (hfirst : '\n' ∉ first) :
    readings row.fact.bytes =
      (ofLine? (row.withTag first).fact.text.trim).toList ++
        readings rest.encode := by
  have hline : row.fact.line =
      (row.withTag first).fact.text ++ '\n' :: rest := by
    simp [Fact.line, fact, Fact.text, withTag, htag]
  have hfeed : '\n' ∉ (row.withTag first).fact.text := by
    apply Fact.lineFeed_not_mem_text _ hkey
    simp [fact, withTag, hcontent, hfirst]
  rw [Fact.bytes, hline, readings_encode, readings_encode, Text.lines,
    terminated_append_terminator hfeed, List.filterMap_cons]
  cases ofLine? (row.withTag first).fact.text.trim <;> rfl

theorem trim_tag_eq (htag : row.tag ++ ['\n'] = first ++ '\n' :: rest) :
    row.tag.trim = Text.trim (first ++ '\n' :: rest) := by
  rw [← htag,
    Text.trim_append_blank row.tag (List.forall_mem_singleton.mpr rfl)]

theorem trimEnd_tag_eq (htag : row.tag ++ ['\n'] = first ++ '\n' :: rest) :
    row.tag.trimEnd = Text.trimEnd (first ++ '\n' :: rest) := by
  rw [← htag,
    Text.trimEnd_append_blank row.tag (List.forall_mem_singleton.mpr rfl)]

/-- Blank lines behind the line of a row are blanks at its end. -/
theorem trimEnd_withTag (htag : row.tag ++ ['\n'] = first ++ '\n' :: rest)
    (hrest : rest.trim = []) : (row.withTag first).trimEnd = row.trimEnd := by
  have hfeed : Text.isBlank '\n' := rfl
  simp only [trimEnd, withTag, trimEnd_tag_eq htag,
    Text.trimEnd_append_blank first (Text.forall_isBlank_cons hfeed hrest)]

/-- The lines behind the line of a row are blank if no line feed is left in its
tag. -/
theorem trim_rest_of_trimEnd
    (htag : row.tag ++ ['\n'] = first ++ '\n' :: rest)
    (hfeed : '\n' ∉ row.tag.trimEnd) : rest.trim = [] := by
  by_contra hne
  have hend : Text.trimEnd ('\n' :: rest) = '\n' :: rest.trimEnd :=
    Text.trimEnd_append ['\n'] (Text.trimEnd_ne_nil hne)
  rw [trimEnd_tag_eq htag, Text.trimEnd_append first (by simp [hend]), hend]
    at hfeed
  exact hfeed (List.mem_append_right first List.mem_cons_self)

/-- The lines behind the line of a row are blank if the whole tag is on that
line. -/
theorem trim_rest_of_trim (htag : row.tag ++ ['\n'] = first ++ '\n' :: rest)
    (hfirst : '\n' ∉ first) (hne : first.trim ≠ [])
    (htrim : row.tag.trim = first.trim) : rest.trim = [] := by
  by_contra hrest
  have hfeed : '\n' ∈ row.tag.trim := by
    rw [trim_tag_eq htag]
    exact Text.mem_trim_of_isInfix List.infix_rfl hne hrest
  rw [htrim] at hfeed
  exact hfirst (Text.mem_of_mem_trim hfeed)

/-- A row is not read under its own tag from the lines behind its first one: the
tag would have the tab that is in front of it there. -/
theorem received_not_mem_readings
    (htag : row.tag ++ ['\n'] = first ++ '\n' :: rest) :
    row.received ∉ readings rest.encode := by
  intro hmem
  obtain ⟨line, hline, hread⟩ := exists_line_of_mem_readings hmem
  have hwithin : line <:+: first ++ '\n' :: rest :=
    hline.trans ⟨first ++ ['\n'], [], by simp⟩
  have htab := tab_mem_trim_of_ofLine? hwithin hread
  rw [← trim_tag_eq htag] at htab
  exact tab_not_mem_tag hread htab

end FirstLine

/-- A row is read as it was written, and nothing else is, exactly when its
fields can be told apart once the blanks at its end are gone. -/
theorem readings_fact_eq_iff (hkey : '\n' ∉ row.key)
    (hcontent : '\n' ∉ row.content) :
    readings row.fact.bytes = [row.received] ↔ row.trimEnd.IsFramed := by
  have hended : '\n' ∈ row.tag ++ ['\n'] := List.mem_concat_self
  obtain ⟨first, rest, htag, hfirst⟩ := List.eq_append_cons_of_mem hended
  rw [readings_fact hkey hcontent htag hfirst]
  constructor
  · intro hreadings
    cases hread : ofLine? (row.withTag first).fact.text.trim with
    | none =>
        rw [hread, Option.toList_none, List.nil_append] at hreadings
        have hmem : row.received ∈ readings (Text.encode rest) := by
          simp [hreadings]
        exact absurd hmem (received_not_mem_readings htag)
    | some found =>
        rw [hread, Option.toList_some, List.singleton_append,
          List.cons_eq_cons] at hreadings
        obtain ⟨hreceived, hframed⟩ : found = (row.withTag first).received ∧
            (row.withTag first).trimEnd.IsFramed :=
          isFramed_of_ofLine? hkey hcontent hfirst hread
            (by rw [hreadings.1]; rfl) (by rw [hreadings.1]; rfl)
        have htrim : row.tag.trim = Text.trim first :=
          congrArg JoinRow.tag (hreadings.1.symm.trans hreceived)
        have hne : Text.trim first ≠ [] := by
          rw [← Text.trim_trimEnd]
          exact hframed.isTag.trim_ne_nil
        rwa [← trimEnd_withTag htag (trim_rest_of_trim htag hfirst hne htrim)]
  · intro hframed
    have hrest := trim_rest_of_trimEnd htag hframed.isTag.lineFeed_not_mem
    have hrow := trimEnd_withTag htag hrest
    have hreceived : (row.withTag first).received = row.received :=
      calc
        (row.withTag first).received =
            (row.withTag first).trimEnd.received := (received_trimEnd _).symm
        _ = row.trimEnd.received := by rw [hrow]
        _ = row.received := received_trimEnd row
    rw [← hrow] at hframed
    rw [ofLine?_trim_fact_of_trimEnd hframed, hreceived,
      readings_encode_of_blank hrest, Option.toList_some, List.append_nil]

end JoinRow

namespace JoinKeyExtractor

variable (extractor : JoinKeyExtractor)

/-- A line that has the join column is written as one row.  The joiner reads it
back under the trimmed join field, with the line and the trimmed tag, exactly
when the join field is not blank, the line has no tab and the tag is visible,
with neither a tab nor a line feed in front of its last visible character. -/
theorem readings_written_row_eq_iff {line field : Text}
    (hline : line.trim = line) (hfeed : '\n' ∉ line)
    (hfield : (Record.mk line).get? extractor.column = some field) :
    ∃ row : Fact,
      extractor.stage.step () line = .write [row] () () .consumed ∧
        (JoinRow.readings row.bytes =
            [⟨field.trim, line, extractor.tag.trim⟩] ↔
          field.trim ≠ [] ∧ '\t' ∉ line ∧
            JoinRow.IsTag extractor.tag.trimEnd) := by
  have hmem_line : ∀ character ∈ field.trim, character ∈ line :=
    fun character hmem =>
      Record.mem_line_of_get? hfield (Text.mem_of_mem_trim hmem)
  have hfeed_key : '\n' ∉ field.trim := fun hmem => hfeed (hmem_line _ hmem)
  let row : JoinRow := ⟨field.trim, line, extractor.tag⟩
  have hreadings : JoinRow.readings row.fact.bytes = [row.received] ↔
      row.trimEnd.IsFramed := JoinRow.readings_fact_eq_iff hfeed_key hfeed
  refine ⟨row.fact, ?_, hreadings.trans ⟨?_, ?_⟩⟩
  · change extractor.step () line = _
    rw [step, row?, hfield]
    rfl
  · intro hframed
    exact ⟨hframed.isKey.ne_nil, hframed.tab_not_mem_content, hframed.isTag⟩
  · rintro ⟨hne, htab, htag⟩
    have htab_key : '\t' ∉ field.trim := fun hmem => htab (hmem_line _ hmem)
    exact ⟨⟨hne, Text.beginsBlank_trim field, htab_key, hfeed_key⟩, hline, htab,
      hfeed, htag⟩

theorem readings_written_row_eq_iff_on_padded_tag :
    ∃ row : Fact,
      (JoinKeyExtractor.mk 1 " d1\n".toList).stage.step () "7, a".toList =
          .write [row] () () .consumed ∧
        JoinRow.readings row.bytes =
          [⟨"a".toList, "7, a".toList, "d1".toList⟩] := by
  have hfield :
      (Record.mk "7, a".toList).get? 1 = some " a".toList := by decide
  obtain ⟨row, hwritten, hreadings⟩ :=
    (JoinKeyExtractor.mk 1 " d1\n".toList).readings_written_row_eq_iff
      (by decide) (by decide) hfield
  refine ⟨row, hwritten, hreadings.mpr ⟨by decide, by decide, ?_⟩⟩
  exact ⟨by decide, by decide, by decide⟩

/-- An empty join field goes with the blanks in front of the line, and a tab
within the line then makes up for it: the row is read under another key. -/
theorem not_every_row_is_read_back :
    ¬ ∀ (extractor : JoinKeyExtractor) (line field : Text),
      line.trim = line → '\n' ∉ line →
      (Record.mk line).get? extractor.column = some field →
        ∃ row : Fact,
          extractor.stage.step () line = .write [row] () () .consumed ∧
            JoinRow.readings row.bytes =
              [⟨field.trim, line, extractor.tag.trim⟩] := by
  intro hall
  obtain ⟨row, hwritten, hreadings⟩ :=
    hall ⟨0, "d1".toList⟩ ",x\ty".toList [] (by decide) (by decide) (by decide)
  have hrow : row = ⟨[], ",x\ty\td1".toList⟩ := by
    injection hwritten with hfacts
    exact (List.singleton_inj.mp hfacts).symm
  have hread : JoinRow.readings (Fact.mk [] ",x\ty\td1".toList).bytes =
      [⟨",x".toList, "y".toList, "d1".toList⟩] := by
    rw [Fact.bytes, JoinRow.readings_encode]
    decide
  rw [hrow, hread] at hreadings
  exact absurd hreadings (by decide)

end JoinKeyExtractor

end FactStream
