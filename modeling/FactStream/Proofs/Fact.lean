import FactStream.Proofs.Text.Lines
import FactStream.Proofs.Text.Trim
import FactStream.Shuffle

/-!
# Facts as lines

Facts are written one a line and read back from trimmed lines.  The line of a
fact survives trimming when its key begins with a visible character and its
value ends with one, and its first tab is the one behind the key when the key
has none.
-/

namespace FactStream

/-- A text that is found again as the key of a line: it is not empty, does not
begin with a blank, and holds neither of the two separators. -/
structure Text.IsKey (key : Text) : Prop where
  ne_nil : key ≠ []
  not_beginsBlank : key.beginsBlank = false
  tab_not_mem : '\t' ∉ key
  lineFeed_not_mem : '\n' ∉ key

instance Text.isKeyDecidable (key : Text) : Decidable key.IsKey :=
  decidable_of_iff
    (key ≠ [] ∧ key.beginsBlank = false ∧ '\t' ∉ key ∧ '\n' ∉ key)
    ⟨fun ⟨hne, hbegin, htab, hfeed⟩ => ⟨hne, hbegin, htab, hfeed⟩,
      fun ⟨hne, hbegin, htab, hfeed⟩ => ⟨hne, hbegin, htab, hfeed⟩⟩

namespace Fact

/-- The bytes of facts that are written in a row. -/
def stream (facts : List Fact) : Bytes :=
  facts.flatMap bytes

@[simp]
theorem stream_nil : stream [] = [] := rfl

@[simp]
theorem stream_cons (fact : Fact) (facts : List Fact) :
    stream (fact :: facts) = fact.bytes ++ stream facts := rfl

@[simp]
theorem stream_append (front rest : List Fact) :
    stream (front ++ rest) = stream front ++ stream rest :=
  List.flatMap_append

theorem stream_flatMap {Item : Type} (items : List Item)
    (facts : Item → List Fact) :
    stream (items.flatMap facts) =
      items.flatMap fun item => stream (facts item) :=
  List.flatMap_assoc

/-- A stream of facts is the encoding of their lines. -/
theorem stream_eq_encode (facts : List Fact) :
    stream facts = (Text.ofLines (facts.map text)).encode := by
  induction facts with
  | nil => rfl
  | cons fact facts ih =>
      rw [stream_cons, ih, List.map_cons, Text.ofLines_cons, bytes, line,
        ← Text.encode_append, List.append_assoc, List.singleton_append]

/-- The lines of a stream of facts are those of its facts. -/
theorem lines_stream {facts : List Fact}
    (hfeed : ∀ fact ∈ facts, '\n' ∉ fact.text) :
    (stream facts).lines = facts.map fun fact => fact.text.encode := by
  have hlines : ∀ line ∈ facts.map text, '\n' ∉ line :=
    List.forall_mem_map.mpr hfeed
  rw [stream_eq_encode, Text.lines_encode, Text.lines_ofLines hlines,
    List.map_map]
  rfl

theorem fields_text (fact : Fact) (htab : '\t' ∉ fact.key) :
    fields fact.text = fact.key :: fields fact.value := by
  rw [fields, text, List.splitOn_append_cons_self_of_not_mem htab, fields]

theorem fields_of_not_mem {line : Text} (htab : '\t' ∉ line) :
    fields line = [line] :=
  List.splitOn_eq_singleton htab

theorem keyOfLine_text (fact : Fact) (htab : '\t' ∉ fact.key) :
    Shuffle.keyOfLine fact.text = fact.key := by
  rw [Shuffle.keyOfLine, text, List.takeWhile_append_of_pos]
  · simp
  · intro character hmem
    have hne : character ≠ '\t' := by
      rintro rfl
      exact htab hmem
    simpa using hne

theorem lineFeed_not_mem_text (fact : Fact) (hkey : '\n' ∉ fact.key)
    (hvalue : '\n' ∉ fact.value) : '\n' ∉ fact.text := by
  simp [text, hkey, hvalue]

/-- Trimming the line of a fact trims the end of its value, as long as that
leaves something of it. -/
theorem trim_text (fact : Fact) (hne : fact.key ≠ [])
    (hbegin : fact.key.beginsBlank = false) (hvalue : fact.value.trimEnd ≠ []) :
    fact.text.trim = (Fact.mk fact.key fact.value.trimEnd).text := by
  have hstart : fact.text.beginsBlank = false := by
    rw [text, Text.beginsBlank_append _ hne, hbegin]
  have htab : Text.trimEnd ('\t' :: fact.value) = '\t' :: fact.value.trimEnd :=
    Text.trimEnd_append ['\t'] hvalue
  rw [Text.trim, Text.trimStart_eq_self hstart, text,
    Text.trimEnd_append fact.key (by simp [htab]), htab, text]

end Fact

end FactStream
