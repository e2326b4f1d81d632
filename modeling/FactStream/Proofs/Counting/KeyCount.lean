import FactStream.Proofs.Fact
import FactStream.Proofs.Text.Numeral
import FactStream.Proofs.Text.Split

/-!
# Count lines

A key with its count is written as a fact and read from a trimmed line.  What is
read from a trimmed line never has an empty key, and what was written under a
proper key, with a count in range, is read as it was.
-/

namespace FactStream.KeyCount

/-- A count that survives being written and read. -/
structure IsFramed (total : KeyCount) : Prop where
  isKey : total.key.IsKey
  inRange : Count.inRange total.count

instance isFramedDecidable (total : KeyCount) : Decidable total.IsFramed :=
  decidable_of_iff (total.key.IsKey ∧ Count.inRange total.count)
    ⟨fun ⟨hkey, hrange⟩ => ⟨hkey, hrange⟩, fun ⟨hkey, hrange⟩ => ⟨hkey, hrange⟩⟩

theorem ofLine_of_fields {line key count : Text} {others : List Text}
    (hfields : Fact.fields line = key :: count :: others) :
    ofLine line = (Count.read count).map (KeyCount.mk key) := by
  rw [ofLine, hfields]

theorem tab_not_mem_ofInt (count : Int) : '\t' ∉ Numeral.ofInt count :=
  fun hmem => Bool.noConfusion (Numeral.isBlank_of_mem_ofInt hmem)

theorem lineFeed_not_mem_ofInt (count : Int) : '\n' ∉ Numeral.ofInt count :=
  fun hmem => Bool.noConfusion (Numeral.isBlank_of_mem_ofInt hmem)

theorem lineFeed_not_mem_fact {total : KeyCount} (hkey : total.key.IsKey) :
    '\n' ∉ total.fact.text :=
  Fact.lineFeed_not_mem_text total.fact hkey.lineFeed_not_mem
    (lineFeed_not_mem_ofInt total.count)

theorem trim_fact {total : KeyCount} (hkey : total.key.IsKey) :
    total.fact.text.trim = total.fact.text := by
  have hvalue : total.fact.value.trimEnd = total.fact.value :=
    Text.trimEnd_eq_self (Numeral.endsBlank_ofInt total.count)
  have hne : total.fact.value ≠ [] := Numeral.ofInt_ne_nil total.count
  rw [Fact.trim_text total.fact hkey.ne_nil hkey.not_beginsBlank
    (by rwa [hvalue]), hvalue]

theorem fields_fact {total : KeyCount} (htab : '\t' ∉ total.key) :
    Fact.fields total.fact.text = [total.key, Numeral.ofInt total.count] := by
  rw [Fact.fields_text total.fact htab]
  exact congrArg (total.key :: ·)
    (Fact.fields_of_not_mem (tab_not_mem_ofInt total.count))

/-- A count that was written is read. -/
theorem ofLine_fact {total : KeyCount} (hframed : total.IsFramed) :
    ofLine total.fact.text = .ok total := by
  rw [ofLine_of_fields (fields_fact hframed.isKey.tab_not_mem),
    Count.read_ofInt hframed.inRange]
  rfl

theorem ofLine_trim_fact {total : KeyCount} (hframed : total.IsFramed) :
    ofLine total.fact.text.trim = .ok total := by
  rw [trim_fact hframed.isKey, ofLine_fact hframed]

theorem key_of_map_read {key count : Text} {total : KeyCount}
    (hread : (Count.read count).map (KeyCount.mk key) = .ok total) :
    total.key = key := by
  cases hcount : Count.read count with
  | error error => simp [hcount, Except.map] at hread
  | ok value =>
      simp only [hcount, Except.map, Except.ok.injEq] at hread
      rw [← hread]

/-- What a line is read as has the key that stands before its first tab, or
the label if there is none. -/
theorem key_of_ofLine {line : Text} {total : KeyCount}
    (hread : ofLine line = .ok total) :
    total.key = emptyKeyLabel ∨ ∃ rest, line = total.key ++ '\t' :: rest := by
  have hline : ['\t'].intercalate (Fact.fields line) = line :=
    List.intercalate_splitOn '\t'
  rw [ofLine] at hread
  split at hread
  · rename_i key count others hfields
    right
    rw [hfields, List.intercalate_cons_cons, List.append_assoc] at hline
    rw [key_of_map_read hread]
    exact ⟨_, hline.symm⟩
  · exact .inl (key_of_map_read hread)

/-- A line without a blank in front gives no empty key. -/
theorem key_ne_nil_of_ofLine {line : Text} {total : KeyCount}
    (hbegin : line.beginsBlank = false) (hread : ofLine line = .ok total) :
    total.key ≠ [] := by
  intro hnil
  rcases key_of_ofLine hread with hlabel | ⟨rest, hline⟩
  · rw [hnil] at hlabel
    exact absurd hlabel (by decide)
  · rw [hline, hnil] at hbegin
    exact Bool.noConfusion hbegin

/-- A line without a blank in front gives no key with one. -/
theorem beginsBlank_key_of_ofLine {line : Text} {total : KeyCount}
    (hbegin : line.beginsBlank = false) (hread : ofLine line = .ok total) :
    total.key.beginsBlank = false := by
  rcases key_of_ofLine hread with hlabel | ⟨rest, hline⟩
  · rw [hlabel]
    decide
  · rw [hline] at hbegin
    exact Text.beginsBlank_of_prefix (List.prefix_append _ _) hbegin

/-- The key of a line ends before its first tab. -/
theorem tab_not_mem_key_of_ofLine {line : Text} {total : KeyCount}
    (hread : ofLine line = .ok total) : '\t' ∉ total.key := by
  have hpieces : ∀ piece ∈ Fact.fields line, '\t' ∉ piece :=
    fun _ => Text.separator_not_mem
  rw [ofLine] at hread
  split at hread
  · rename_i key count others hfields
    rw [key_of_map_read hread]
    exact hpieces key (by simp [hfields])
  · rw [key_of_map_read hread]
    decide

/-- A line that is no count is refused for the text that should be the count,
and for what the numeral in it is refused for. -/
theorem exists_read_of_ofLine {line : Text} {error : StageError}
    (hread : ofLine line = .error error) :
    ∃ text, Count.read text = .error error := by
  rw [ofLine] at hread
  split at hread
  · exact ⟨_, Except.map_eq_error_iff.mp hread⟩
  · exact ⟨_, Except.map_eq_error_iff.mp hread⟩

theorem invalidCount_of_ofLine {line : Text} {error : StageError}
    (hread : ofLine line = .error error) :
    ∃ value fault, error = .invalidCount value fault := by
  obtain ⟨value, hvalue⟩ := exists_read_of_ofLine hread
  obtain ⟨fault, herror, -⟩ := Count.invalidCount_of_read hvalue
  exact ⟨value, fault, herror⟩

theorem lineFeed_not_mem_key_of_ofLine {line : Text} {total : KeyCount}
    (hfeed : '\n' ∉ line) (hread : ofLine line = .ok total) :
    '\n' ∉ total.key := by
  rcases key_of_ofLine hread with hlabel | ⟨rest, hline⟩
  · rw [hlabel]
    decide
  · rw [hline] at hfeed
    exact fun hmem => hfeed (List.mem_append_left _ hmem)

theorem inRange_of_ofLine {line : Text} {total : KeyCount}
    (hread : ofLine line = .ok total) : Count.inRange total.count := by
  rw [ofLine] at hread
  split at hread
  · obtain ⟨count, hcount, rfl⟩ := Except.map_eq_ok_iff.mp hread
    exact Count.inRange_of_read hcount
  · obtain ⟨count, hcount, rfl⟩ := Except.map_eq_ok_iff.mp hread
    exact Count.inRange_of_read hcount

/-- What is read from a line without a blank in front can be written and read
again. -/
theorem isFramed_of_ofLine {line : Text} {total : KeyCount}
    (hbegin : line.beginsBlank = false) (hfeed : '\n' ∉ line)
    (hread : ofLine line = .ok total) : total.IsFramed where
  isKey :=
    { ne_nil := key_ne_nil_of_ofLine hbegin hread
      not_beginsBlank := beginsBlank_key_of_ofLine hbegin hread
      tab_not_mem := tab_not_mem_key_of_ofLine hread
      lineFeed_not_mem := lineFeed_not_mem_key_of_ofLine hfeed hread }
  inRange := inRange_of_ofLine hread

/-- What the counters read from a line of a stream, if they can. -/
def reading? (line : Bytes) : Option KeyCount :=
  line.decode?.bind fun text => (ofLine text.trim).toOption

/-- All that the counters read from a stream, up to its end. -/
def readings (input : Bytes) : List KeyCount :=
  input.lines.filterMap reading?

theorem readings_encode (text : Text) :
    readings text.encode =
      text.lines.filterMap fun line => (ofLine line.trim).toOption :=
  Text.filterMap_lines_encode (fun line => (ofLine line).toOption) text

theorem reading?_of_decode? {line : Bytes} {text : Text}
    (hdecode : line.decode? = some text) :
    reading? line = (ofLine text.trim).toOption := by
  rw [reading?, hdecode]
  rfl

theorem reading?_eq_some {line : Bytes} {total : KeyCount}
    (hreading : reading? line = some total) :
    ∃ text, line.decode? = some text ∧ ofLine text.trim = .ok total := by
  cases hdecode : line.decode? with
  | none => simp [reading?, hdecode] at hreading
  | some text =>
      rw [reading?_of_decode? hdecode] at hreading
      cases hread : ofLine text.trim with
      | error error => simp [hread, Except.toOption] at hreading
      | ok other =>
          simp only [hread, Except.toOption, Option.some.injEq] at hreading
          exact ⟨text, rfl, by rw [hread, hreading]⟩

/-- What is read of the lines of a stream of facts, one after the other. -/
theorem map_reading?_lines_stream {facts : List Fact}
    (hfeed : ∀ fact ∈ facts, '\n' ∉ fact.text) :
    (Fact.stream facts).lines.map reading? =
      facts.map fun fact => (ofLine fact.text.trim).toOption := by
  rw [Fact.lines_stream hfeed, List.map_map]
  apply List.map_congr_left
  intro fact _
  exact reading?_of_decode? (Bytes.decode?_encode fact.text)

/-- A sum is in range, or it is refused under its key. -/
theorem add_cases (total : KeyCount) (count : Int) :
    (Count.inRange (total.count + count) ∧
      total.add count = .ok ⟨total.key, total.count + count⟩) ∨
    total.add count = .error (.countOverflow total.key) := by
  rw [add, Count.add?]
  by_cases hrange : Count.inRange (total.count + count)
  · left
    rw [if_pos hrange]
    exact ⟨hrange, rfl⟩
  · right
    rw [if_neg hrange]

theorem add_of_inRange {total : KeyCount} {count : Int}
    (hrange : Count.inRange (total.count + count)) :
    total.add count = .ok ⟨total.key, total.count + count⟩ := by
  rw [add, Count.add?, if_pos hrange]

theorem add_of_not_inRange {total : KeyCount} {count : Int}
    (hrange : ¬ Count.inRange (total.count + count)) :
    total.add count = .error (.countOverflow total.key) := by
  rw [add, Count.add?, if_neg hrange]

end FactStream.KeyCount
