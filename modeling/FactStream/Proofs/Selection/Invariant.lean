import FactStream.Proofs.Join.Row
import FactStream.Proofs.Selection.KeyReading
import FactStream.Proofs.Stage.Progress
import FactStream.Selection.PatternTag

/-!
# What the mappers write and refuse

Filters, taggers and extractors write at most one fact a line.  They refuse a
line only for a field that it does not have, or for a column that no header row
has given a position to.
-/

namespace FactStream

/-- Every line is consumed, and gives at most one fact. -/
structure Progress.IsConsumed {State : Type} (progress : Progress State) :
    Prop where
  lineFeed_not_mem : ∀ fact ∈ progress.written, '\n' ∉ fact.text
  skipped : progress.skipped = 0
  length_le : progress.written.length ≤ progress.read

/-- What a step keeps to that consumes its line. -/
theorem Stage.maintains_isConsumed {State : Type} {stage : Stage State}
    (hstep : ∀ {state line facts interrupted next outcome}, line.IsFed →
      stage.step state line = .write facts interrupted next outcome →
        facts.length ≤ 1 ∧ outcome = .consumed ∧
          ∀ fact ∈ facts, '\n' ∉ fact.text) :
    stage.Maintains Progress.IsConsumed where
  start :=
    { lineFeed_not_mem := List.forall_mem_nil _
      skipped := rfl
      length_le := le_refl _ }
  step := by
    intro progress line facts interrupted state outcome hconsumed hline hwrite
    obtain ⟨hlength, rfl, hfeed⟩ := hstep hline hwrite
    refine ⟨List.forall_mem_append.mpr ⟨hconsumed.lineFeed_not_mem, hfeed⟩,
      hconsumed.skipped, ?_⟩
    have hbefore := hconsumed.length_le
    simp only [Progress.advance, List.length_append]
    omega

namespace Column

variable {column : Column} {known : Option Nat} {error : StageError}

/-- Only a name can be missing in a header row. -/
theorem named_of_resolve {header : Record}
    (hresolve : column.resolve known header = .error error) :
    ∃ name, column = .named name ∧ header.position? name = none ∧
      error = .configuration (.columnNotInHeader name header.line) := by
  unfold resolve at hresolve
  split at hresolve
  · cases hresolve
  · split at hresolve
    · cases hresolve
    · rename_i hmissing
      cases hresolve
      exact ⟨_, rfl, hmissing, rfl⟩

end Column

namespace FieldFilter

/-- One of the columns is given by its name. -/
def HasNamedColumn (filter : FieldFilter) : Prop :=
  ∃ name, filter.matched = .named name ∨ filter.projected = .named name

/-- Why a filter refuses a line: there is no field at an index, or a column is
named and has no position. -/
def Refuses (filter : FieldFilter) (error : StageError) : Prop :=
  (∃ (record : Record) (index : Nat),
    error = .malformedRecord index record.size ∧ record.size ≤ index) ∨
  ∃ fault, error = .configuration fault ∧ filter.HasNamedColumn

variable {filter : FieldFilter} {positions state interrupted : Positions}
  {line : Text} {facts : List Fact} {outcome : Outcome} {error : StageError}

theorem step_write
    (hstep : filter.stage.step positions line =
      .write facts interrupted state outcome) :
    facts.length ≤ 1 ∧ outcome = .consumed := by
  change filter.step positions line = _ at hstep
  rw [step] at hstep
  split at hstep
  · have hfacts := facts_of_readHeader hstep
    subst hfacts
    refine ⟨Nat.zero_le _, ?_⟩
    rw [readHeader] at hstep
    split at hstep
    · cases hstep
    · split at hstep <;> cases hstep
      rfl
  · split at hstep
    · cases hstep
    · rename_i selected hselect
      cases hstep
      rcases facts_of_select hselect with rfl | ⟨field, -, rfl⟩
      · exact ⟨Nat.zero_le _, rfl⟩
      · exact ⟨le_refl _, rfl⟩

theorem maintains_isConsumed (filter : FieldFilter) :
    filter.stage.Maintains Progress.IsConsumed := by
  apply Stage.maintains_isConsumed
  intro positions line facts interrupted next outcome hline hwrite
  obtain ⟨hlength, houtcome⟩ := step_write hwrite
  refine ⟨hlength, houtcome, fun fact hfact => ?_⟩
  exact lineFeed_not_mem_text_of_emits hline.lineFeed_not_mem
    ⟨facts, interrupted, next, outcome, hwrite, hfact⟩

end FieldFilter

namespace PatternTagger

variable {tagger : PatternTagger} {state next interrupted : Unit} {line : Text}
  {facts : List Fact} {outcome : Outcome} {error : StageError}

theorem step_write
    (hstep : tagger.stage.step state line =
      .write facts interrupted next outcome) :
    (facts = [] ∨ facts = [⟨tagKey, line⟩]) ∧ outcome = .consumed := by
  change tagger.step state line = _ at hstep
  rw [step] at hstep
  split at hstep
  · cases hstep
  · split at hstep
    · cases hstep
      exact ⟨.inr rfl, rfl⟩
    · cases hstep
      exact ⟨.inl rfl, rfl⟩

theorem maintains_isConsumed (tagger : PatternTagger) :
    tagger.stage.Maintains Progress.IsConsumed := by
  apply Stage.maintains_isConsumed
  intro state line facts interrupted next outcome hline hwrite
  obtain ⟨rfl | rfl, houtcome⟩ := step_write hwrite
  · exact ⟨Nat.zero_le _, houtcome, List.forall_mem_nil _⟩
  · refine ⟨le_refl _, houtcome, List.forall_mem_singleton.mpr ?_⟩
    exact Fact.lineFeed_not_mem_text _ (by decide : '\n' ∉ tagKey)
      hline.lineFeed_not_mem

end PatternTagger

namespace JoinKeyExtractor

variable {extractor : JoinKeyExtractor} {state next interrupted : Unit}
  {line : Text} {facts : List Fact} {outcome : Outcome} {error : StageError}

theorem step_write
    (hstep : extractor.stage.step state line =
      .write facts interrupted next outcome) :
    (facts = [] ∧ outcome = .skipped) ∨
      ∃ row, extractor.row? line = some row ∧ facts = [row] ∧
        outcome = .consumed := by
  change extractor.step state line = _ at hstep
  rw [step] at hstep
  split at hstep
  · cases hstep
    exact .inl ⟨rfl, rfl⟩
  · rename_i row hrow
    cases hstep
    exact .inr ⟨row, hrow, rfl, rfl⟩

theorem lineFeed_not_mem_row {row : Fact} (htag : '\n' ∉ extractor.tag)
    (hline : '\n' ∉ line) (hrow : extractor.row? line = some row) :
    '\n' ∉ row.text := by
  obtain ⟨field, hfield, rfl⟩ := Option.map_eq_some_iff.mp hrow
  apply Fact.lineFeed_not_mem_text
  · exact fun hmem =>
      hline (Record.mem_line_of_get? hfield (Text.mem_of_mem_trim hmem))
  · simp [hline, htag]

/-- Every line is written as a row or skipped. -/
structure Invariant (progress : Progress Unit) : Prop where
  lineFeed_not_mem : ∀ fact ∈ progress.written, '\n' ∉ fact.text
  length_eq : progress.written.length + progress.skipped = progress.read

theorem maintains_invariant (htag : '\n' ∉ extractor.tag) :
    extractor.stage.Maintains Invariant where
  start :=
    { lineFeed_not_mem := List.forall_mem_nil _
      length_eq := rfl }
  step := by
    intro progress line facts interrupted state outcome hinvariant hline hstep
    have hlength := hinvariant.length_eq
    rcases step_write hstep with ⟨rfl, rfl⟩ | ⟨row, hrow, rfl, rfl⟩
    · refine ⟨?_, ?_⟩
      · rw [Progress.written_advance_nil]
        exact hinvariant.lineFeed_not_mem
      · rw [Progress.written_advance_nil]
        exact congrArg Nat.succ hlength
    · have hrow_feed := lineFeed_not_mem_row htag hline.lineFeed_not_mem hrow
      refine ⟨List.forall_mem_append.mpr ⟨hinvariant.lineFeed_not_mem,
        List.forall_mem_singleton.mpr hrow_feed⟩, ?_⟩
      simp only [Progress.advance, List.length_append, List.length_singleton,
        Outcome.skips]
      omega

end JoinKeyExtractor

end FactStream
