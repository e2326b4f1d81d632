import FactStream.Proofs.Join.JoinedRuns
import FactStream.Proofs.Join.Row

/-!
# Joining two texts

Two texts are extracted under different tags, shuffled together and joined.
The shuffle keeps the rows of a key in the order of the texts, so every group
has the lines of the first text on its left side and those of the second on its
right, and the result is the inner join of the two on their join keys.
-/

namespace FactStream.EquiJoin

open JoinKeyExtractor Shuffle

/-- The join keys that occur in a text. -/
def joinKeys (column : Nat) (text : Text) : List Text :=
  (text.lines.map Text.trim).filterMap (joinKey? column)

/-- The trimmed lines of a text that have a join key, in their order. -/
def linesOf (column : Nat) (text key : Text) : List Text :=
  (text.lines.map Text.trim).filter fun line => joinKey? column line = some key

/-- A text without tabs in which no join key is empty. -/
structure IsJoinable (column : Nat) (text : Text) : Prop where
  tab_not_mem : ∀ line ∈ text.lines, '\t' ∉ line
  key_ne_nil : ∀ key ∈ joinKeys column text, key ≠ []

/-- Every line of the left text with every line of the right text under the
same key, key by key. -/
def innerJoin (left right : Text → List Text) (keys : List Text) : List Fact :=
  keys.flatMap fun key =>
    (left key).flatMap fun line => (right key).map fun other => ⟨line, other⟩

/-- The run of an extractor over a text. -/
def extraction (extractor : JoinKeyExtractor) (text : Text) : RunReport :=
  extractor.stage.run .unbounded text.encode

/-- The run of the joiner over both extractions, the left one first, once they
have been shuffled. -/
def joinRun (left right : JoinKeyExtractor) (leftText rightText : Text) :
    RunReport :=
  Joiner.stage.run .unbounded
    (byKey.prepareBytes
      ((extraction left leftText).output ++
        (extraction right rightText).output))

section Rows

variable {rows : List JoinRow}

/-- The lines of rows, sorted by their keys. -/
def sortedLines (rows : List JoinRow) : List Text :=
  (sortBy JoinRow.key rows).map fun row => row.fact.text

private theorem isFramed_of_mem_sortBy (hframed : ∀ row ∈ rows, row.IsFramed) :
    ∀ row ∈ sortBy JoinRow.key rows, row.IsFramed := fun row hrow =>
  hframed row ((sortBy_perm JoinRow.key rows).mem_iff.mp hrow)

theorem prepareBytes_rows (hframed : ∀ row ∈ rows, row.IsFramed) :
    byKey.prepareBytes (Fact.stream (rows.map JoinRow.fact)) =
      (Text.ofLines (sortedLines rows)).encode := by
  have hprepare : byKey.prepareBytes (Fact.stream (rows.map JoinRow.fact)) =
      Fact.stream ((sortBy JoinRow.key rows).map JoinRow.fact) :=
    prepareBytes_stream (fun row hrow => (hframed row hrow).isKey.tab_not_mem)
      fun row hrow => JoinRow.lineFeed_not_mem_fact (hframed row hrow)
  rw [hprepare, Fact.stream_eq_encode, List.map_map]
  rfl

theorem lines_sortedLines (hframed : ∀ row ∈ rows, row.IsFramed) :
    (Text.ofLines (sortedLines rows)).lines = sortedLines rows :=
  Text.lines_ofLines (List.forall_mem_map.mpr fun row hrow =>
    JoinRow.lineFeed_not_mem_fact (isFramed_of_mem_sortBy hframed row hrow))

/-- The joiner reads rows as they were written, apart from the blanks around
their tags. -/
theorem map_toJoinRow_sortedLines (hframed : ∀ row ∈ rows, row.IsFramed) :
    (placedRows 1 (sortedLines rows)).map PlacedRow.toJoinRow =
      (sortBy JoinRow.key rows).map JoinRow.received := by
  rw [map_toJoinRow_placedRows, sortedLines, List.filterMap_map,
    ← List.filterMap_eq_map]
  apply List.filterMap_congr
  intro row hrow
  exact JoinRow.ofLine?_trim_fact (isFramed_of_mem_sortBy hframed row hrow)

theorem countNoRows_sortedLines (hframed : ∀ row ∈ rows, row.IsFramed) :
    countNoRows (sortedLines rows) = 0 := by
  rw [countNoRows, List.countP_eq_zero, sortedLines, List.forall_mem_map]
  intro row hrow
  rw [JoinRow.ofLine?_trim_fact (isFramed_of_mem_sortBy hframed row hrow)]
  exact Bool.false_ne_true

theorem map_key_sortedLines (hframed : ∀ row ∈ rows, row.IsFramed) :
    ((placedRows 1 (sortedLines rows)).map fun placed => placed.key) =
      (sortBy JoinRow.key rows).map JoinRow.key := by
  have hkeys := congrArg (List.map JoinRow.key)
    (map_toJoinRow_sortedLines hframed)
  rwa [List.map_map, List.map_map] at hkeys

theorem keysTogether_sortedLines (hframed : ∀ row ∈ rows, row.IsFramed) :
    KeysTogether (sortedLines rows) := by
  rw [KeysTogether, map_key_sortedLines hframed]
  exact contiguous_map_sortBy JoinRow.key rows

theorem rowKeys_sortedLines (hframed : ∀ row ∈ rows, row.IsFramed) :
    rowKeys (sortedLines rows) = ascending (rows.map JoinRow.key) := by
  rw [rowKeys, map_key_sortedLines hframed, eraseDups_map_sortBy]

/-- The rows of a key come as they were before they were sorted. -/
theorem map_toJoinRow_rowsUnder (hframed : ∀ row ∈ rows, row.IsFramed)
    (key : Text) :
    (rowsUnder key (sortedLines rows)).map PlacedRow.toJoinRow =
      (rows.filter fun row => row.key = key).map JoinRow.received := by
  have hread := congrArg (List.filter fun row : JoinRow => row.key = key)
    (map_toJoinRow_sortedLines hframed)
  rw [List.filter_map, List.filter_map] at hread
  rw [← filter_sortBy JoinRow.key]
  exact hread

end Rows

section Extraction

variable (extractor : JoinKeyExtractor) (text : Text)

/-- The rows that a text becomes. -/
def rowsOf : List JoinRow :=
  extractor.rows (text.lines.map Text.trim)

/-- The rows under a key, as they are read. -/
def groupOf (key : Text) : List JoinRow :=
  ((rowsOf extractor text).filter fun row => row.key = key).map JoinRow.received

theorem isFramed_of_mem_rowsOf (htag : JoinRow.IsTag extractor.tag)
    (htext : IsJoinable extractor.column text) :
    ∀ row ∈ rowsOf extractor text, row.IsFramed := by
  apply extractor.isFramed_of_mem_rows htag htext.tab_not_mem
  intro line hline hkey
  apply htext.key_ne_nil [] _ rfl
  exact List.mem_filterMap.mpr ⟨line.trim, List.mem_map_of_mem hline, hkey⟩

theorem map_key_rowsOf :
    (rowsOf extractor text).map JoinRow.key =
      joinKeys extractor.column text := by
  rw [rowsOf, JoinKeyExtractor.rows, List.map_filterMap, joinKeys]
  apply List.filterMap_congr
  intro line _
  rw [joinRow?]
  cases joinKey? extractor.column line <;> rfl

theorem map_content_groupOf (key : Text) :
    (groupOf extractor text key).map JoinRow.content =
      linesOf extractor.column text key := by
  rw [linesOf, ← extractor.map_content_filter_rows, groupOf, List.map_map]
  rfl

theorem groupOf_ne_nil {key : Text}
    (hkey : key ∈ joinKeys extractor.column text) :
    groupOf extractor text key ≠ [] := by
  rw [← map_key_rowsOf] at hkey
  obtain ⟨row, hrow, rfl⟩ := List.mem_map.mp hkey
  have hkept : row ∈ (rowsOf extractor text).filter
      fun other => other.key = row.key :=
    List.mem_filter.mpr ⟨hrow, decide_eq_true rfl⟩
  exact List.ne_nil_of_mem (List.mem_map_of_mem hkept)

theorem tag_of_mem_groupOf {key : Text} {row : JoinRow}
    (hrow : row ∈ groupOf extractor text key) :
    row.tag = extractor.tag.trim := by
  obtain ⟨written, hwritten, rfl⟩ := List.mem_map.mp hrow
  obtain ⟨-, -, htag⟩ := extractor.mem_rows.mp (List.mem_filter.mp hwritten).1
  rw [JoinRow.received, htag]

/-- All rows of a text have its tag, or none of them has. -/
theorem filter_tag_groupOf (key tag : Text) :
    ((groupOf extractor text key).filter fun row => row.tag = tag) =
      if extractor.tag.trim = tag then groupOf extractor text key else [] := by
  by_cases htag : extractor.tag.trim = tag
  · rw [if_pos htag, List.filter_eq_self]
    intro row hrow
    exact decide_eq_true ((tag_of_mem_groupOf extractor text hrow).trans htag)
  · rw [if_neg htag, List.filter_eq_nil_iff]
    intro row hrow
    rw [tag_of_mem_groupOf extractor text hrow]
    simpa using htag

end Extraction

section Join

variable {left right : JoinKeyExtractor} {leftText rightText : Text}

theorem output_extractions :
    (extraction left leftText).output ++ (extraction right rightText).output =
      Fact.stream
        ((rowsOf left leftText ++ rowsOf right rightText).map JoinRow.fact) := by
  rw [extraction, extraction, output_run, output_run, List.map_append,
    Fact.stream_append]
  rfl

/-- The lines that the joiner reads. -/
def shuffledLines (left right : JoinKeyExtractor) (leftText rightText : Text) :
    List Text :=
  sortedLines (rowsOf left leftText ++ rowsOf right rightText)

theorem isFramed_of_mem_rows (hleftTag : JoinRow.IsTag left.tag)
    (hrightTag : JoinRow.IsTag right.tag)
    (hleft : IsJoinable left.column leftText)
    (hright : IsJoinable right.column rightText) :
    ∀ row ∈ rowsOf left leftText ++ rowsOf right rightText, row.IsFramed :=
  List.forall_mem_append.mpr
    ⟨isFramed_of_mem_rowsOf left leftText hleftTag hleft,
      isFramed_of_mem_rowsOf right rightText hrightTag hright⟩

/-- The rows of a key, those of the left text first. -/
theorem map_toJoinRow_shuffledLines
    (hframed : ∀ row ∈ rowsOf left leftText ++ rowsOf right rightText,
      row.IsFramed) (key : Text) :
    (rowsUnder key (shuffledLines left right leftText rightText)).map
        PlacedRow.toJoinRow =
      groupOf left leftText key ++ groupOf right rightText key := by
  rw [shuffledLines, map_toJoinRow_rowsUnder hframed, List.filter_append,
    List.map_append]
  rfl

/-- Every key of both texts has the two tags, the left one first. -/
theorem tagsOf_rowsUnder
    (hframed : ∀ row ∈ rowsOf left leftText ++ rowsOf right rightText,
      row.IsFramed)
    (htags : left.tag.trim ≠ right.tag.trim) {key : Text}
    (hleft : key ∈ joinKeys left.column leftText)
    (hright : key ∈ joinKeys right.column rightText) :
    tagsOf (rowsUnder key (shuffledLines left right leftText rightText)) =
      [left.tag.trim, right.tag.trim] := by
  have hlefts : ∀ tag ∈ (groupOf left leftText key).map JoinRow.tag,
      tag = left.tag.trim :=
    List.forall_mem_map.mpr fun _ => tag_of_mem_groupOf left leftText
  have hrights : ∀ tag ∈ (groupOf right rightText key).map JoinRow.tag,
      tag = right.tag.trim :=
    List.forall_mem_map.mpr fun _ => tag_of_mem_groupOf right rightText
  have hleft_ne : (groupOf left leftText key).map JoinRow.tag ≠ [] := by
    simpa using groupOf_ne_nil left leftText hleft
  have hright_ne : (groupOf right rightText key).map JoinRow.tag ≠ [] := by
    simpa using groupOf_ne_nil right rightText hright
  have hother : left.tag.trim ∉ (groupOf right rightText key).map JoinRow.tag :=
    fun hmem => htags (hrights _ hmem)
  rw [tagsOf_eq, map_toJoinRow_shuffledLines hframed, List.map_append,
    Text.eraseDups_append_of_eq hleft_ne hlefts hother,
    Text.eraseDups_of_eq hright_ne hrights]

theorem pairsOf_rowsUnder
    (hframed : ∀ row ∈ rowsOf left leftText ++ rowsOf right rightText,
      row.IsFramed)
    (htags : left.tag.trim ≠ right.tag.trim) {key : Text}
    (hleft : key ∈ joinKeys left.column leftText)
    (hright : key ∈ joinKeys right.column rightText) :
    pairsOf (rowsUnder key (shuffledLines left right leftText rightText)) =
      (linesOf left.column leftText key).flatMap fun line =>
        (linesOf right.column rightText key).map fun other => ⟨line, other⟩ := by
  rw [pairsOf, tagsOf_rowsUnder hframed htags hleft hright]
  simp only [contentsOf_eq, map_toJoinRow_shuffledLines hframed,
    List.filter_append, filter_tag_groupOf, htags, htags.symm, if_true,
    if_false, List.append_nil, List.nil_append, map_content_groupOf]

theorem rowKeys_shuffledLines
    (hframed : ∀ row ∈ rowsOf left leftText ++ rowsOf right rightText,
      row.IsFramed)
    (hsame : ∀ key, key ∈ joinKeys left.column leftText ↔
      key ∈ joinKeys right.column rightText) :
    rowKeys (shuffledLines left right leftText rightText) =
      ascending (joinKeys left.column leftText) := by
  rw [shuffledLines, rowKeys_sortedLines hframed]
  apply ascending_congr
  intro key
  rw [List.map_append, map_key_rowsOf, map_key_rowsOf, List.mem_append, ← hsame,
    or_self]

theorem rowRuns_shuffledLines
    (hframed : ∀ row ∈ rowsOf left leftText ++ rowsOf right rightText,
      row.IsFramed)
    (hsame : ∀ key, key ∈ joinKeys left.column leftText ↔
      key ∈ joinKeys right.column rightText) :
    rowRuns (shuffledLines left right leftText rightText) =
      (ascending (joinKeys left.column leftText)).map fun key =>
        rowsUnder key (shuffledLines left right leftText rightText) := by
  have htogether : KeysTogether (shuffledLines left right leftText rightText) :=
    keysTogether_sortedLines hframed
  rw [rowRuns_of_keysTogether htogether, rowKeys_shuffledLines hframed hsame]

/-- Every key of the texts has one run, with the tags of both. -/
theorem haveTwoTags_shuffledLines
    (hframed : ∀ row ∈ rowsOf left leftText ++ rowsOf right rightText,
      row.IsFramed)
    (htags : left.tag.trim ≠ right.tag.trim)
    (hsame : ∀ key, key ∈ joinKeys left.column leftText ↔
      key ∈ joinKeys right.column rightText) :
    Joiner.HaveTwoTags
      (rowRuns (shuffledLines left right leftText rightText)) := by
  rw [rowRuns_shuffledLines hframed hsame, Joiner.HaveTwoTags,
    List.forall_mem_map]
  intro key hkey
  have hleft := mem_ascending.mp hkey
  rw [tagsOf_rowsUnder hframed htags hleft ((hsame key).mp hleft)]
  rfl

theorem flatMap_pairsOf_shuffledLines
    (hframed : ∀ row ∈ rowsOf left leftText ++ rowsOf right rightText,
      row.IsFramed)
    (htags : left.tag.trim ≠ right.tag.trim)
    (hsame : ∀ key, key ∈ joinKeys left.column leftText ↔
      key ∈ joinKeys right.column rightText) :
    (rowRuns (shuffledLines left right leftText rightText)).flatMap pairsOf =
      innerJoin (linesOf left.column leftText)
        (linesOf right.column rightText)
        (ascending (joinKeys left.column leftText)) := by
  rw [rowRuns_shuffledLines hframed hsame, List.flatMap_map]
  apply List.flatMap_congr
  intro key hkey
  have hleft := mem_ascending.mp hkey
  exact pairsOf_rowsUnder hframed htags hleft ((hsame key).mp hleft)

theorem joinRun_eq_run
    (hframed : ∀ row ∈ rowsOf left leftText ++ rowsOf right rightText,
      row.IsFramed) :
    joinRun left right leftText rightText =
      Joiner.stage.run .unbounded
        (Text.ofLines
          (shuffledLines left right leftText rightText)).encode := by
  rw [joinRun, output_extractions, prepareBytes_rows hframed, shuffledLines]

theorem joinRun_eq_report
    (hframed : ∀ row ∈ rowsOf left leftText ++ rowsOf right rightText,
      row.IsFramed)
    (htags : left.tag.trim ≠ right.tag.trim)
    (hsame : ∀ key, key ∈ joinKeys left.column leftText ↔
      key ∈ joinKeys right.column rightText) :
    let pairs := innerJoin (linesOf left.column leftText)
      (linesOf right.column rightText)
      (ascending (joinKeys left.column leftText))
    joinRun left right leftText rightText =
      ⟨Fact.stream pairs, .ok ⟨Joiner.stage.name,
        (shuffledLines left right leftText rightText).length,
        pairs.length, 0⟩⟩ := by
  intro pairs
  have hlines : (Text.ofLines
      (shuffledLines left right leftText rightText)).lines =
        shuffledLines left right leftText rightText :=
    lines_sortedLines hframed
  have htwo := haveTwoTags_shuffledLines hframed htags hsame
  have hpairs := flatMap_pairsOf_shuffledLines hframed htags hsame
  have hskipped :
      countNoRows (shuffledLines left right leftText rightText) = 0 :=
    countNoRows_sortedLines hframed
  rw [← hlines] at htwo
  rw [joinRun_eq_run hframed, Joiner.run_of_haveTwoTags htwo, hlines, hpairs,
    hskipped]

/-- Extracting, shuffling and joining two texts that have the same join keys is
the inner join of their lines, key by key in ascending order. -/
theorem joinRun_eq_innerJoin (left right : JoinKeyExtractor)
    (leftText rightText : Text)
    (hleftTag : JoinRow.IsTag left.tag) (hrightTag : JoinRow.IsTag right.tag)
    (htags : left.tag.trim ≠ right.tag.trim)
    (hleft : IsJoinable left.column leftText)
    (hright : IsJoinable right.column rightText)
    (hsame : ∀ key, key ∈ joinKeys left.column leftText ↔
      key ∈ joinKeys right.column rightText) :
    (extraction left leftText).Succeeds ∧
    (extraction right rightText).Succeeds ∧
    ∃ keys : List Text, keys.Pairwise (· < ·) ∧
      (∀ key, key ∈ keys ↔ key ∈ joinKeys left.column leftText) ∧
      (∃ summary, (joinRun left right leftText rightText).result = .ok summary ∧
        summary.linesSkipped = 0) ∧
      (joinRun left right leftText rightText).output =
        Fact.stream (innerJoin (linesOf left.column leftText)
          (linesOf right.column rightText) keys) := by
  have hreport := joinRun_eq_report
    (isFramed_of_mem_rows hleftTag hrightTag hleft hright) htags hsame
  refine ⟨left.run_succeeds leftText, right.run_succeeds rightText,
    ascending (joinKeys left.column leftText), pairwise_ascending _,
    fun _ => mem_ascending, ?_, ?_⟩
  · rw [hreport]
    exact ⟨_, rfl, rfl⟩
  · rw [hreport]

theorem joinRun_eq_innerJoin_on_duplicates :
    let left : JoinKeyExtractor := ⟨0, " d1".toList⟩
    let right : JoinKeyExtractor := ⟨1, "d0\r".toList⟩
    let leftText : Text := " b ,1\na,2\r\nb,1\n".toList
    let rightText : Text := "x,b\nshort\n\u2003y, a ,z\nx,b".toList
    (∀ key, key ∈ joinKeys 0 leftText ↔ key ∈ joinKeys 1 rightText) ∧
    (extraction left leftText).Succeeds ∧
    (extraction right rightText).Succeeds ∧
    ∃ keys : List Text, keys.Pairwise (· < ·) ∧
      (∀ key, key ∈ keys ↔ key ∈ joinKeys 0 leftText) ∧
      (∃ summary, (joinRun left right leftText rightText).result = .ok summary ∧
        summary.linesSkipped = 0) ∧
      (joinRun left right leftText rightText).output =
        Fact.stream (innerJoin (linesOf 0 leftText)
          (linesOf 1 rightText) keys) := by
  intro left right leftText rightText
  have hsame : ∀ key, key ∈ joinKeys 0 leftText ↔
      key ∈ joinKeys 1 rightText := by
    have hleft : joinKeys 0 leftText = [['b'], ['a'], ['b']] := by decide
    have hright : joinKeys 1 rightText = [['b'], ['a'], ['b']] := by decide
    intro key
    rw [hleft, hright]
  exact ⟨hsame, joinRun_eq_innerJoin left right leftText rightText
    ⟨by decide, by decide, by decide⟩ ⟨by decide, by decide, by decide⟩
    (by decide)
    ⟨by decide, by decide⟩ ⟨by decide, by decide⟩ hsame⟩

end Join

end FactStream.EquiJoin
