import FactStream.Proofs.Counting.Entries
import FactStream.Proofs.Counting.Streaming
import FactStream.Proofs.Stage.Progress

/-!
# What the counters hold

At any time a counter holds no more totals than it has read lines, and at least
one once it has read any.  What it holds and what it has written can be read
again as it is.
-/

namespace FactStream

theorem KeyCount.isFramed_of_isFed {line : Text} {total : KeyCount}
    (hline : line.IsFed) (hread : KeyCount.ofLine line = .ok total) :
    total.IsFramed :=
  isFramed_of_ofLine hline.not_beginsBlank hline.lineFeed_not_mem hread

/-- Totals are written that can be read again as they are. -/
def Fact.AreFramed (facts : List Fact) : Prop :=
  ∃ totals : List KeyCount,
    (∀ total ∈ totals, total.IsFramed) ∧ facts = totals.map KeyCount.fact

theorem Fact.areFramed_nil : AreFramed [] :=
  ⟨[], List.forall_mem_nil _, rfl⟩

theorem Fact.AreFramed.append {front rest : List Fact}
    (hfront : AreFramed front) (hrest : AreFramed rest) :
    AreFramed (front ++ rest) := by
  obtain ⟨totals, htotals, rfl⟩ := hfront
  obtain ⟨others, hothers, rfl⟩ := hrest
  exact ⟨totals ++ others, List.forall_mem_append.mpr ⟨htotals, hothers⟩,
    List.map_append.symm⟩

theorem Fact.AreFramed.lineFeed_not_mem {facts : List Fact}
    (hframed : AreFramed facts) : ∀ fact ∈ facts, '\n' ∉ fact.text := by
  obtain ⟨totals, htotals, rfl⟩ := hframed
  rw [List.forall_mem_map]
  exact fun total hmem =>
    KeyCount.lineFeed_not_mem_fact (htotals total hmem).isKey

namespace StreamingCount

/-- What a count does to the run held, if any: which run it ends, and which one
is held then. -/
inductive Absorbs (next : KeyCount) :
    Option KeyCount → Option KeyCount → KeyCount → Prop
  | first : Absorbs next none none next
  | same {run : KeyCount} (hkey : run.key = next.key)
      (hrange : Count.inRange (run.count + next.count)) :
      Absorbs next (some run) none ⟨run.key, run.count + next.count⟩
  | other {run : KeyCount} (hkey : run.key ≠ next.key) :
      Absorbs next (some run) (some run) next

theorem absorb_cases (held : Accumulator) (next : KeyCount) :
    (∃ ended run, Absorbs next held.run ended run ∧
      absorb held next =
        .write (closingFacts ended) ⟨some run⟩ ⟨some run⟩ .consumed) ∨
    absorb held next = .refuse (.countOverflow next.key) held := by
  obtain ⟨_ | run⟩ := held
  · left
    exact ⟨none, next, .first, rfl⟩
  · by_cases hkey : run.key = next.key
    · by_cases hrange : Count.inRange (run.count + next.count)
      · left
        exact ⟨none, _, .same hkey hrange, absorb_same hkey hrange⟩
      · right
        rw [absorb_overflow hkey hrange, hkey]
    · left
      refine ⟨some run, next, .other hkey, ?_⟩
      rw [absorb, Accumulator.advance_some, if_neg hkey]

section Step

variable {held state interrupted : Accumulator} {line : Text}
  {facts : List Fact} {outcome : Outcome} {error : StageError}

theorem step_write
    (hstep : stage.step held line = .write facts interrupted state outcome) :
    ∃ next ended run, KeyCount.ofLine line = .ok next ∧
      Absorbs next held.run ended run ∧ facts = closingFacts ended ∧
      state = ⟨some run⟩ ∧ outcome = .consumed := by
  change step held line = _ at hstep
  cases hread : KeyCount.ofLine line with
  | error error =>
      rw [step, hread] at hstep
      cases hstep
  | ok next =>
      rw [step_of_ofLine hread] at hstep
      rcases absorb_cases held next with ⟨ended, run, habsorbs, hreply⟩ | hreply
      · rw [hreply] at hstep
        cases hstep
        exact ⟨next, ended, run, rfl, habsorbs, rfl, rfl, rfl⟩
      · rw [hreply] at hstep
        cases hstep

end Step

theorem areFramed_closingFacts {ended : Option KeyCount}
    (hended : ∀ run ∈ ended, run.IsFramed) :
    Fact.AreFramed (closingFacts ended) := by
  cases ended with
  | none => exact Fact.areFramed_nil
  | some run =>
      rw [closingFacts_some (hended run rfl).isKey.ne_nil]
      exact ⟨[run], List.forall_mem_singleton.mpr (hended run rfl), rfl⟩

theorem Absorbs.isFramed {next run : KeyCount} {held ended : Option KeyCount}
    (habsorbs : Absorbs next held ended run) (hnext : next.IsFramed)
    (hheld : ∀ total ∈ held, total.IsFramed) :
    run.IsFramed ∧ ∀ total ∈ ended, total.IsFramed := by
  cases habsorbs with
  | first => exact ⟨hnext, hheld⟩
  | same hkey hrange => exact ⟨⟨(hheld _ rfl).isKey, hrange⟩, by simp⟩
  | other hkey => exact ⟨hnext, hheld⟩

/-- The run held is one that has not been written. -/
structure Invariant (progress : Progress Accumulator) : Prop where
  written : Fact.AreFramed progress.written
  held : ∀ run ∈ progress.state.run, run.IsFramed
  skipped : progress.skipped = 0
  emitted_le : progress.written.length + progress.state.run.toList.length ≤
    progress.read
  isSome : 1 ≤ progress.read → progress.state.run.isSome

theorem length_closingFacts_le (ended : Option KeyCount) :
    (closingFacts ended).length ≤ ended.toList.length := by
  cases ended with
  | none => exact le_refl _
  | some run =>
      rw [closingFacts]
      split
      · exact Nat.zero_le _
      · exact le_refl _

theorem Absorbs.length_le {next run : KeyCount}
    {held ended : Option KeyCount} (habsorbs : Absorbs next held ended run) :
    ended.toList.length ≤ held.toList.length := by
  cases habsorbs with
  | first => exact le_refl _
  | same hkey hrange => exact Nat.zero_le _
  | other hkey => exact le_refl _

theorem maintains_invariant : stage.Maintains Invariant where
  start :=
    { written := Fact.areFramed_nil
      held := by simp [Progress.start, stage, Accumulator.empty]
      skipped := rfl
      emitted_le := le_refl _
      isSome := fun hread => absurd hread (by decide) }
  step := by
    intro progress line facts interrupted state outcome hinvariant hline hstep
    obtain ⟨next, ended, run, hread, habsorbs, rfl, rfl, rfl⟩ :=
      step_write hstep
    obtain ⟨hrun, hended⟩ := habsorbs.isFramed
      (KeyCount.isFramed_of_isFed hline hread) hinvariant.held
    refine ⟨hinvariant.written.append (areFramed_closingFacts hended), ?_, ?_,
      ?_, fun _ => rfl⟩
    · rintro total ⟨rfl⟩
      exact hrun
    · exact hinvariant.skipped
    · have hclosing := length_closingFacts_le ended
      have hlength := habsorbs.length_le
      have hemitted := hinvariant.emitted_le
      simp only [Progress.advance, List.length_append, Option.toList_some,
        List.length_singleton]
      omega

/-- Whatever the counter writes can be read again, also if it fails. -/
theorem areFramed_output (input : Bytes) :
    ∃ facts, Fact.AreFramed facts ∧
      (stage.run .unbounded input).output = Fact.stream facts := by
  have hlines : ∀ line ∈ input.lines, lineFeed ∉ line :=
    fun _ => terminator_not_mem
  cases hresult : (stage.run .unbounded input).result with
  | ok summary =>
      obtain ⟨progress, facts, interrupted, next, hreaches, hfinish, hrun⟩ :=
        Stage.reaches_of_run_ok hresult
      have hinvariant := maintains_invariant.holds hlines hreaches
      change finish progress.state = _ at hfinish
      cases hfinish
      exact ⟨_, hinvariant.written.append
        (areFramed_closingFacts hinvariant.held), by rw [hrun]⟩
  | error failure =>
      rcases Stage.reaches_of_run_error hresult with
        ⟨before, line, after, progress, error, left, hinput, hreaches, -,
          hrun⟩ | ⟨progress, error, left, hreaches, -, hrun⟩
      · rw [hinput, List.forall_mem_append] at hlines
        have hinvariant := maintains_invariant.holds hlines.1 hreaches
        exact ⟨_, hinvariant.written, by rw [hrun]⟩
      · have hinvariant := maintains_invariant.holds hlines hreaches
        exact ⟨_, hinvariant.written, by rw [hrun]⟩

end StreamingCount

namespace GroupedCount

section Step

variable {totals state interrupted : Totals} {line : Text}
  {facts : List Fact} {outcome : Outcome} {error : StageError}

theorem step_write
    (hstep : stage.step totals line = .write facts interrupted state outcome) :
    ∃ next, KeyCount.ofLine line = .ok next ∧ next.AddsTo totals state ∧
      facts = [] ∧ outcome = .consumed := by
  change step totals line = _ at hstep
  rw [step] at hstep
  split at hstep
  · cases hstep
  · rename_i next hread
    rcases Totals.addsOrRefuses_add next totals with
      ⟨more, hmore, hadds⟩ | hover
    · rw [hmore] at hstep
      cases hstep
      exact ⟨next, hread, hadds, rfl, rfl⟩
    · rw [hover] at hstep
      cases hstep

end Step

/-- Nothing is written before the end. -/
structure Invariant (progress : Progress Totals) : Prop where
  written : progress.written = []
  totals : ∀ total ∈ progress.state, total.IsFramed
  skipped : progress.skipped = 0
  length_le : progress.state.length ≤ progress.read
  ne_nil : 1 ≤ progress.read → progress.state ≠ []

theorem maintains_invariant : stage.Maintains Invariant where
  start :=
    { written := rfl
      totals := List.forall_mem_nil _
      skipped := rfl
      length_le := le_refl _
      ne_nil := fun hread => absurd hread (by decide) }
  step := by
    intro progress line facts interrupted state outcome hinvariant hline hstep
    obtain ⟨next, hread, hadds, rfl, rfl⟩ := step_write hstep
    have hnext := KeyCount.isFramed_of_isFed hline hread
    refine ⟨?_, hadds.forall_isFramed hinvariant.totals hnext, ?_, ?_,
      fun _ => hadds.ne_nil⟩
    · rw [Progress.written_advance_nil, hinvariant.written]
    · exact hinvariant.skipped
    · exact le_trans hadds.length_le (Nat.succ_le_succ hinvariant.length_le)

end GroupedCount

end FactStream
