import FactStream.Proofs.Record
import FactStream.Proofs.Stage.Steady
import FactStream.Proofs.Text.Trim
import FactStream.Selection.FieldFilter

/-!
# Filters with columns given by index

Such a filter has nothing to learn from header rows, so it answers every record
by itself: a record yields at most one key.  The key is never empty, since a
blank field is quoted, and it has no line feed, since its field is a piece of a
line.
-/

namespace FactStream.FieldFilter

/-- Selection, once both columns are located. -/
theorem select_of_located {filter : FieldFilter} {positions : Positions}
    {matched projected : Nat}
    (hmatched : filter.matched.locate positions.matched = .ok matched)
    (hprojected : filter.projected.locate positions.projected = .ok projected)
    (record : Record) :
    filter.select positions record =
      if max matched projected < record.size then
        .ok (if (record.get? matched).map Text.trim = some filter.target then
          ((record.get? projected).map keyOfField).toList.map countOnce else [])
      else .error (.malformedRecord (max matched projected) record.size) := by
  have hmax : [matched, projected].max? = some (max matched projected) := rfl
  rw [select, hmatched, hprojected]
  simp only [bind, Except.bind, pure, Except.pure]
  by_cases hsize : max matched projected < record.size
  · rw [if_pos hsize, Record.require_of_lt hmax hsize]
    cases hfield : record.get? matched with
    | none =>
        have hle := Record.get?_eq_none_iff.mp hfield
        omega
    | some field =>
        rw [Record.field_of_get? hfield]
        cases hdetection : record.get? projected with
        | none =>
            have hle := Record.get?_eq_none_iff.mp hdetection
            omega
        | some detection =>
            rw [Record.field_of_get? hdetection]
            by_cases htarget : field.trim = filter.target
            · simp [htarget]
            · simp [htarget]
  · rw [if_neg hsize, Record.require_of_le hmax (Nat.not_lt.mp hsize)]

def atIndices (target : Text) (matched projected : Nat) : FieldFilter :=
  ⟨target, .index matched, .index projected⟩

variable (target : Text) (matched projected : Nat)

/-- The record is no header row, its matched field, trimmed, is the target, and
its projected field as a key is `key`. -/
def Yields (record : Record) (key : Text) : Prop :=
  record.containsField headerToken = false ∧
    (record.get? matched).map Text.trim = some target ∧
    (record.get? projected).map keyOfField = some key

instance yieldsDecidable (record : Record) (key : Text) :
    Decidable (Yields target matched projected record key) :=
  inferInstanceAs (Decidable (_ ∧ _ ∧ _))

/-- The key that a record yields, if any. -/
def yielded? (record : Record) : Option Text :=
  if record.containsField headerToken then none
  else if (record.get? matched).map Text.trim = some target then
    (record.get? projected).map keyOfField
  else none

theorem yielded?_eq_some_iff {record : Record} {key : Text} :
    yielded? target matched projected record = some key ↔
      Yields target matched projected record key := by
  rw [yielded?, Yields]
  by_cases hheader : record.containsField headerToken
  · simp [hheader]
  · by_cases hmatched : (record.get? matched).map Text.trim = some target
    · simp [hheader, hmatched]
    · simp [hheader, hmatched]

/-- What the filter makes of a line; it consumes every line it accepts. -/
def answer (line : Text) : Answer :=
  if (Record.mk line).containsField headerToken then .ok ([], .consumed)
  else ((atIndices target matched projected).select unresolved ⟨line⟩).map
    fun facts => (facts, .consumed)

theorem isMapper_stage :
    (atIndices target matched projected).stage.IsMapper
      (answer target matched projected) := by
  constructor
  · intro line
    change (atIndices target matched projected).step unresolved line = _
    rw [step, answer]
    by_cases hheader : (Record.mk line).containsField headerToken
    · rw [if_pos hheader, if_pos hheader]
      rfl
    · rw [if_neg hheader, if_neg hheader]
      cases (atIndices target matched projected).select unresolved ⟨line⟩ <;> rfl
  · rfl

/-- An answer counts the yielded key once. -/
theorem facts_answer (line : Text) :
    (answer target matched projected line).facts =
      (yielded? target matched projected ⟨line⟩).toList.map countOnce := by
  rw [answer, yielded?]
  by_cases hheader : (Record.mk line).containsField headerToken
  · rw [if_pos hheader, if_pos hheader]
    rfl
  · rw [if_neg hheader, if_neg hheader, select_of_located rfl rfl]
    by_cases hsize : max matched projected < (Record.mk line).size
    · rw [if_pos hsize]
      by_cases hmatched :
        ((Record.mk line).get? matched).map Text.trim = some target
      · rw [if_pos hmatched]
        exact if_pos hmatched
      · rw [if_neg hmatched]
        exact if_neg hmatched
    · rw [if_neg hsize]
      rcases Nat.le_total matched projected with hle | hle
      · have hprojected : (Record.mk line).get? projected = none := by
          rw [Record.get?_eq_none_iff]
          omega
        simp [hprojected, Except.map, Answer.facts]
      · have hmatched : (Record.mk line).get? matched = none := by
          rw [Record.get?_eq_none_iff]
          omega
        simp [hmatched, Except.map, Answer.facts]

section Keys

theorem keyOfField_ne_nil (field : Text) : keyOfField field ≠ [] := by
  rw [keyOfField]
  by_cases hblank : field.isBlankText
  · rw [if_pos hblank]
    exact List.cons_ne_nil _ _
  · rw [if_neg hblank]
    rintro rfl
    exact hblank rfl

theorem mem_of_mem_keyOfField {field : Text} {character : Char}
    (hquote : character ≠ '\'')
    (hmem : character ∈ keyOfField field) : character ∈ field := by
  rw [keyOfField] at hmem
  by_cases hblank : field.isBlankText
  · rw [if_pos hblank] at hmem
    simpa [hquote] using hmem
  · rwa [if_neg hblank] at hmem

variable {target : Text} {matched projected : Nat}

theorem ne_nil_of_yields {record : Record} {key : Text}
    (hyields : Yields target matched projected record key) : key ≠ [] := by
  obtain ⟨field, -, rfl⟩ := Option.map_eq_some_iff.mp hyields.2.2
  exact keyOfField_ne_nil field

theorem mem_line_of_yields {record : Record} {key : Text}
    (hyields : Yields target matched projected record key) {character : Char}
    (hquote : character ≠ '\'') (hmem : character ∈ key) :
    character ∈ record.line := by
  obtain ⟨field, hfield, rfl⟩ := Option.map_eq_some_iff.mp hyields.2.2
  exact Record.mem_line_of_get? hfield (mem_of_mem_keyOfField hquote hmem)

end Keys

section Run

/-- The records of some lines. -/
def recordsOf (lines : List Text) : List Record :=
  lines.map fun line => ⟨line.trim⟩

/-- The keys that the records of a text yield, in their order. -/
def yieldedKeys (text : Text) : List Text :=
  (recordsOf text.lines).filterMap (yielded? target matched projected)

theorem mem_yieldedKeys {text key : Text} :
    key ∈ yieldedKeys target matched projected text ↔
      ∃ record ∈ recordsOf text.lines,
        Yields target matched projected record key := by
  rw [yieldedKeys, List.mem_filterMap]
  simp only [yielded?_eq_some_iff]

/-- A key is yielded as often as there are records that yield it. -/
theorem count_yieldedKeys (text key : Text) :
    (yieldedKeys target matched projected text).count key =
      (recordsOf text.lines).countP fun record =>
        Yields target matched projected record key := by
  rw [yieldedKeys, List.count_filterMap]
  apply List.countP_congr
  intro record _
  rw [beq_iff_eq, decide_eq_true_iff, yielded?_eq_some_iff]

theorem length_yieldedKeys_le (text : Text) :
    (yieldedKeys target matched projected text).length ≤ text.lines.length := by
  have hle := List.length_filterMap_le (yielded? target matched projected)
    (recordsOf text.lines)
  rwa [recordsOf, List.length_map] at hle

/-- The run of a filter over a text. -/
def runOn (text : Text) : RunReport :=
  (atIndices target matched projected).stage.run .unbounded text.encode

theorem runOn_succeeds_iff (text : Text) :
    (runOn target matched projected text).Succeeds ↔
      ∀ line ∈ text.lines, (answer target matched projected line.trim).isOk :=
  Stage.succeeds_iff_accepted (isMapper_stage target matched projected)

/-- A run that succeeds counts every yielded key once. -/
theorem output_runOn {text : Text}
    (hsucceeds : (runOn target matched projected text).Succeeds) :
    (runOn target matched projected text).output =
      Fact.stream
        ((yieldedKeys target matched projected text).map countOnce) := by
  have haccepted :=
    (runOn_succeeds_iff target matched projected text).mp hsucceeds
  rw [runOn,
    Stage.run_of_accepted (isMapper_stage target matched projected) haccepted]
  simp only [Stage.mapperReport, facts_answer]
  rw [yieldedKeys, recordsOf, List.filterMap_map, List.map_filterMap,
    List.filterMap_eq_flatMap_toList]
  congr 2
  funext line
  change _ =
    ((yielded? target matched projected ⟨line.trim⟩).map countOnce).toList
  cases yielded? target matched projected ⟨line.trim⟩ <;> rfl

end Run

section Splits

variable {splits : List Text}

theorem recordsOf_flatten (hcuts : Text.CutsAtLines splits) :
    recordsOf (Text.lines splits.flatten) =
      splits.flatMap fun split => recordsOf split.lines := by
  rw [recordsOf, Text.lines_flatten hcuts, List.map_flatMap]
  rfl

theorem yieldedKeys_flatten (hcuts : Text.CutsAtLines splits) :
    yieldedKeys target matched projected splits.flatten =
      splits.flatMap (yieldedKeys target matched projected) := by
  rw [yieldedKeys, recordsOf_flatten hcuts, List.filterMap_flatMap]
  rfl

/-- A filter takes a text exactly when it takes every split of it. -/
theorem runOn_flatten_succeeds_iff (hcuts : Text.CutsAtLines splits) :
    (runOn target matched projected splits.flatten).Succeeds ↔
      ∀ split ∈ splits, (runOn target matched projected split).Succeeds := by
  simp only [runOn_succeeds_iff, Text.lines_flatten hcuts,
    List.forall_mem_flatMap]

end Splits

end FactStream.FieldFilter
