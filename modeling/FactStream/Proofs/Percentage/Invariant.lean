import FactStream.Percentage.Stage
import FactStream.Proofs.Counting.Entries
import FactStream.Proofs.Percentage.Text
import FactStream.Proofs.Stage.Progress

/-!
# What the percentage table holds

The table has no more entries than lines of three fields have been read, and
nothing is written before the end.
-/

namespace FactStream.Percentage

/-- What the table makes of a count that has been read. -/
def absorb (table : PercentageTable) (next : KeyCount) :
    Reply PercentageTable Outcome :=
  match table.add next with
  | .error error => .refuse error table
  | .ok table => .pass table .consumed

/-- A line has three fields, of which the second is the detection. -/
def IsRecord (line detection count : Text) : Prop :=
  ∃ label, Fact.fields line = [label, detection, count]

theorem step_of_read {line detection count : Text} {value : Int}
    (hline : IsRecord line detection count)
    (hread : Count.read count = .ok value)
    (table : PercentageTable) :
    step table line = absorb table ⟨detection, value⟩ := by
  obtain ⟨label, hfields⟩ := hline
  rw [step, hfields]
  simp only [hread]
  rfl

theorem step_of_unread {line detection count : Text} {error : StageError}
    (hline : IsRecord line detection count)
    (hread : Count.read count = .error error) (table : PercentageTable) :
    step table line = .refuse error table := by
  obtain ⟨label, hfields⟩ := hline
  rw [step, hfields]
  simp only [hread]
  rfl

theorem step_cases (table : PercentageTable) (line : Text) :
    ((∀ detection count, ¬ IsRecord line detection count) ∧
      step table line = .pass table .skipped) ∨
    ∃ detection count, IsRecord line detection count := by
  by_cases hline : ∃ detection count, IsRecord line detection count
  · exact .inr hline
  · left
    simp only [not_exists] at hline
    refine ⟨hline, ?_⟩
    rw [step]
    split
    · rename_i label detection count hfields
      exact absurd ⟨label, hfields⟩ (hline detection count)
    · rfl

section Step

variable {table state interrupted : PercentageTable} {line : Text}
  {facts : List Fact} {outcome : Outcome} {error : StageError}

theorem step_write
    (hstep : stage.step table line = .write facts interrupted state outcome) :
    (facts = [] ∧ state = table ∧ outcome = .skipped) ∨
    ∃ (next : KeyCount) (count : Text), IsRecord line next.key count ∧
      next.AddsTo table.entries state.entries ∧ facts = [] ∧
      outcome = .consumed := by
  change step table line = _ at hstep
  rcases step_cases table line with ⟨-, hskip⟩ | ⟨detection, count, hline⟩
  · left
    rw [hskip] at hstep
    cases hstep
    exact ⟨rfl, rfl, rfl⟩
  · right
    cases hread : Count.read count with
    | error error =>
        rw [step_of_unread hline hread] at hstep
        cases hstep
    | ok value =>
        rw [step_of_read hline hread, absorb] at hstep
        rcases table.add_cases ⟨detection, value⟩ with
          ⟨entries, hadd, hadds⟩ | hover
        · rw [hadd] at hstep
          cases hstep
          exact ⟨_, count, hline, hadds, rfl, rfl⟩
        · rw [hover] at hstep
          cases hstep

end Step

/-- At the end there is nothing to divide, or every entry gives its share. -/
theorem finish_cases (table : PercentageTable) :
    finish table = .refuse .divideByZero table ∨
    (table.entries ≠ [] ∧ table.total ≠ 0 ∧
      finish table = .write
        (table.entries.map fun entry => Share.fact
          ⟨entry.key, PercentageTable.percentage entry.count table.total⟩)
        table table ()) := by
  rw [finish, PercentageTable.shares, PercentageTable.isEmpty]
  by_cases hzero : table.entries = [] ∨ table.total = 0
  · left
    rw [if_pos (by simpa using hzero)]
  · right
    rw [if_neg (by simpa using hzero)]
    rw [not_or] at hzero
    refine ⟨hzero.1, hzero.2, ?_⟩
    simp only [List.map_map]
    rfl

/-- Nothing is written before the end. -/
structure Invariant (progress : Progress PercentageTable) : Prop where
  written : progress.written = []
  lineFeed_not_mem : ∀ entry ∈ progress.state.entries, '\n' ∉ entry.key
  length_le : progress.state.entries.length + progress.skipped ≤ progress.read

theorem maintains_invariant : stage.Maintains Invariant where
  start :=
    { written := rfl
      lineFeed_not_mem := List.forall_mem_nil _
      length_le := le_refl _ }
  step := by
    intro progress line facts interrupted state outcome hinvariant hline hstep
    rcases step_write hstep with
      ⟨rfl, rfl, rfl⟩ | ⟨next, count, ⟨label, hfields⟩, hadds, rfl, rfl⟩
    · refine ⟨?_, hinvariant.lineFeed_not_mem, ?_⟩
      · rw [Progress.written_advance_nil, hinvariant.written]
      · exact Nat.succ_le_succ hinvariant.length_le
    · have hkey : '\n' ∉ next.key := by
        have hpiece : next.key ∈ Fact.fields line := by simp [hfields]
        exact fun hmem =>
          hline.lineFeed_not_mem (Text.mem_of_mem_piece hpiece hmem)
      refine ⟨?_, hadds.forall_key ('\n' ∉ ·) hinvariant.lineFeed_not_mem hkey,
        ?_⟩
      · rw [Progress.written_advance_nil, hinvariant.written]
      · have hlength := hadds.length_le
        have hbefore := hinvariant.length_le
        simp only [Progress.advance, Outcome.skips]
        omega

end FactStream.Percentage
