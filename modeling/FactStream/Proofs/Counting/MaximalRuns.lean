import FactStream.Proofs.Counting.History
import FactStream.Proofs.KeyRuns

/-!
# What the streaming counter makes of any lines

Of lines that are counts the streaming counter writes the maximal runs of one
key, each as one count.  The run in progress is held back until another key or
the end shows that it is complete, so a line that is refused takes the last run
with it and leaves the runs before.
-/

namespace FactStream

namespace KeyCount

/-- The counts of one key as one count. -/
def merged (run : List KeyCount) : KeyCount :=
  ⟨runKey key run, (run.map count).sum⟩

/-- Every maximal run of one key as one count. -/
def mergedRuns (counts : List KeyCount) : List KeyCount :=
  (keyRuns key counts).map merged

/-- Every sum of the first counts of a maximal run is in range. -/
def RunsInRange (counts : List KeyCount) : Prop :=
  ∀ run ∈ keyRuns key counts, Count.PrefixSumsFit (run.map count)

instance runsInRangeDecidable (counts : List KeyCount) :
    Decidable (RunsInRange counts) :=
  inferInstanceAs (Decidable (∀ run ∈ keyRuns key counts, _))

variable {run : List KeyCount} {runs : List (List KeyCount)}
  {next : KeyCount} {wanted : Text}

theorem prefixSumsFit_concat :
    Count.PrefixSumsFit ((run ++ [next]).map count) ↔
      Count.PrefixSumsFit (run.map count) ∧
        Count.inRange ((run.map count).sum + next.count) := by
  rw [List.map_append, List.map_singleton, Count.prefixSumsFit_concat]

theorem prefixSumsFit_singleton (hrange : Count.inRange next.count) :
    Count.PrefixSumsFit ([next].map count) :=
  Count.prefixSumsFit_singleton.mpr hrange

theorem forall_prefixSumsFit_concat :
    (∀ other ∈ runs ++ [run], Count.PrefixSumsFit (other.map count)) ↔
      (∀ other ∈ runs, Count.PrefixSumsFit (other.map count)) ∧
        Count.PrefixSumsFit (run.map count) := by
  rw [List.forall_mem_append, List.forall_mem_singleton]

theorem merged_of_key (hne : run ≠ [])
    (hrun : ∀ total ∈ run, total.key = wanted) :
    merged run = ⟨wanted, (run.map count).sum⟩ := by
  rw [merged, runKey_of_key hne hrun]

theorem ne_nil_of_keys (hne : run ≠ [])
    (hrun : ∀ total ∈ run, total.key = wanted)
    (hkeys : ∀ total ∈ run, total.key ≠ []) : wanted ≠ [] := by
  rw [← hrun _ (List.head_mem hne)]
  exact hkeys _ (List.head_mem hne)

theorem merged_singleton (total : KeyCount) : merged [total] = total := by
  simp [merged, runKey]

@[simp]
theorem mergedRuns_nil : mergedRuns [] = [] := by
  rw [mergedRuns, keyRuns_nil, List.map_nil]

/-- Counts of one key in front of a count of another become one count. -/
theorem mergedRuns_append {rest : List KeyCount} (hne : run ≠ [])
    (hrun : ∀ total ∈ run, total.key = wanted)
    (hnext : ∀ next ∈ rest.head?, wanted ≠ next.key) :
    mergedRuns (run ++ rest) =
      ⟨wanted, (run.map count).sum⟩ :: mergedRuns rest := by
  rw [mergedRuns, keyRuns_append hne hrun hnext, List.map_cons,
    merged_of_key hne hrun, mergedRuns]

/-- What is known of counts in range passes to the runs that they make up. -/
theorem isFramed_of_mem_mergedRuns {counts : List KeyCount}
    (hframed : ∀ total ∈ counts, total.IsFramed) (hfits : RunsInRange counts) :
    ∀ total ∈ mergedRuns counts, total.IsFramed := by
  rw [mergedRuns, List.forall_mem_map]
  intro run hrun
  obtain ⟨hne, wanted, hwanted⟩ := uniform_of_mem_keyRuns hrun
  have hmem : run.head hne ∈ counts :=
    (sublist_of_mem_keyRuns hrun).mem (List.head_mem hne)
  rw [merged_of_key hne hwanted]
  refine ⟨?_, Count.inRange_sum (hfits run hrun)⟩
  change wanted.IsKey
  rw [← hwanted _ (List.head_mem hne)]
  exact (hframed _ hmem).isKey

/-- No count is lost or counted twice. -/
theorem sum_mergedRuns (counts : List KeyCount) :
    ((mergedRuns counts).map count).sum = (counts.map count).sum := by
  conv_rhs => rw [← @flatten_keyRuns _ key counts]
  rw [List.map_flatten, List.sum_flatten, mergedRuns, List.map_map,
    List.map_map]
  rfl

end KeyCount

namespace StreamingCount

open KeyCount Counting

/-- The last run is the one held. -/
def heldOf (runs : List (List KeyCount)) : Accumulator :=
  ⟨runs.getLast?.map merged⟩

/-- The runs before the last one are written. -/
def writtenOf (runs : List (List KeyCount)) : List Fact :=
  (runs.dropLast.map merged).map fact

variable {runs more : List (List KeyCount)} {last : List KeyCount}
  {next : KeyCount}

@[simp]
theorem heldOf_concat : heldOf (runs ++ [last]) = ⟨some (merged last)⟩ := by
  simp [heldOf]

@[simp]
theorem writtenOf_concat :
    writtenOf (runs ++ [last]) = (runs.map merged).map fact := by
  simp [writtenOf]

/-- What the counter does with a count when the runs grow by it and the sums
stay in range. -/
theorem absorb_of_runsGrow (hgrow : RunsGrow key next runs more)
    (hkeys : ∀ run ∈ runs, ∀ total ∈ run, total.key ≠ [])
    (hfits : ∀ run ∈ more, Count.PrefixSumsFit (run.map count)) :
    ∃ facts, absorb (heldOf runs) next =
        .write facts (heldOf more) (heldOf more) .consumed ∧
      writtenOf more = writtenOf runs ++ facts := by
  cases hgrow with
  | first =>
      refine ⟨[], ?_, rfl⟩
      rw [← List.nil_append [[next]], heldOf_concat, merged_singleton]
      exact absorb_first next
  | @same runs last hne hsame =>
      have hmore : ∀ total ∈ last ++ [next], total.key = next.key := by
        rw [List.forall_mem_append, List.forall_mem_singleton]
        exact ⟨hsame, rfl⟩
      have hrange : Count.inRange ((last.map count).sum + next.count) := by
        rw [forall_prefixSumsFit_concat, prefixSumsFit_concat] at hfits
        exact hfits.2.2
      refine ⟨[], ?_, by simp⟩
      rw [heldOf_concat, heldOf_concat, merged_of_key hne hsame,
        merged_of_key (by simp) hmore, List.map_append, List.map_singleton,
        List.sum_append, List.sum_singleton]
      exact absorb_same rfl hrange
  | @other runs last wanted hne hlast hother =>
      have hkey : wanted ≠ [] :=
        ne_nil_of_keys hne hlast (hkeys last (by simp))
      refine ⟨[fact (merged last)], ?_, ?_⟩
      · rw [heldOf_concat, heldOf_concat, merged_singleton,
          merged_of_key hne hlast]
        exact absorb_next hother hkey
      · rw [writtenOf_concat, writtenOf_concat]
        simp

/-- A count that takes a sum out of range goes on with the last run, since alone
it is in range. -/
theorem absorb_of_runsGrow_overflow (hgrow : RunsGrow key next runs more)
    (hnext : Count.inRange next.count)
    (hfits : ∀ run ∈ runs, Count.PrefixSumsFit (run.map count))
    (hover : ¬ ∀ run ∈ more, Count.PrefixSumsFit (run.map count)) :
    absorb (heldOf runs) next =
      .refuse (.countOverflow next.key) (heldOf runs) := by
  have hsingle := prefixSumsFit_singleton hnext
  cases hgrow with
  | first =>
      apply absurd _ hover
      rw [List.forall_mem_singleton]
      exact hsingle
  | @same runs last hne hsame =>
      have hrange : ¬ Count.inRange ((last.map count).sum + next.count) := by
        intro hrange
        apply hover
        rw [forall_prefixSumsFit_concat] at hfits ⊢
        exact ⟨hfits.1, prefixSumsFit_concat.mpr ⟨hfits.2, hrange⟩⟩
      rw [heldOf_concat, merged_of_key hne hsame]
      exact absorb_overflow rfl hrange
  | other hne hlast hother =>
      exact absurd (forall_prefixSumsFit_concat.mpr ⟨hfits, hsingle⟩) hover

theorem fits_of_runsGrow (hgrow : RunsGrow key next runs more)
    (hfits : ∀ run ∈ more, Count.PrefixSumsFit (run.map count)) :
    ∀ run ∈ runs, Count.PrefixSumsFit (run.map count) := by
  cases hgrow with
  | first => exact List.forall_mem_nil _
  | same hne hsame =>
      rw [forall_prefixSumsFit_concat, prefixSumsFit_concat] at hfits
      rw [forall_prefixSumsFit_concat]
      exact ⟨hfits.1, hfits.2.1⟩
  | other hne hlast hother => exact (forall_prefixSumsFit_concat.mp hfits).1

def ledger : Ledger Accumulator where
  Fits := RunsInRange
  written counts := writtenOf (keyRuns key counts)
  held counts := heldOf (keyRuns key counts)

theorem key_ne_nil_of_mem_keyRuns {counts : List KeyCount}
    (hcounts : ∀ total ∈ counts, total.IsRead) :
    ∀ run ∈ keyRuns key counts, ∀ total ∈ run, total.key ≠ [] := by
  intro run hrun total htotal
  exact (hcounts total ((sublist_of_mem_keyRuns hrun).mem htotal)).key_ne_nil

theorem keeps_ledger : Keeps stage ledger where
  fits_nil := by simp [ledger, RunsInRange]
  fits_of_concat _ hfits := fits_of_runsGrow (keyRuns_concat _ _) hfits
  written_nil := rfl
  held_nil := rfl
  unread := by
    intro state line error hread
    change step state line = _
    rw [step, hread]
  accept := by
    intro counts next line hread hcounts hfits
    rw [List.forall_mem_append, List.forall_mem_singleton] at hcounts
    obtain ⟨facts, habsorb, hwritten⟩ := absorb_of_runsGrow
      (keyRuns_concat counts next) (key_ne_nil_of_mem_keyRuns hcounts.1) hfits
    exact ⟨facts, _, (step_of_ofLine hread _).trans habsorb, hwritten⟩
  overflow := by
    intro counts next line hread hcounts hfits hover
    rw [List.forall_mem_append, List.forall_mem_singleton] at hcounts
    exact ⟨_, (step_of_ofLine hread _).trans (absorb_of_runsGrow_overflow
      (keyRuns_concat counts next) hcounts.2.inRange hfits hover)⟩

theorem key_ne_nil_of_mem_mergedRuns {counts : List KeyCount}
    (hcounts : ∀ total ∈ counts, total.IsRead) :
    ∀ total ∈ mergedRuns counts, total.key ≠ [] := by
  rw [mergedRuns, List.forall_mem_map]
  intro run hrun
  obtain ⟨hne, wanted, hwanted⟩ := uniform_of_mem_keyRuns hrun
  rw [merged_of_key hne hwanted]
  exact ne_nil_of_keys hne hwanted (key_ne_nil_of_mem_keyRuns hcounts run hrun)

/-- At the end the run held is written as well. -/
theorem writtenOf_append_closingFacts
    (hkeys : ∀ total ∈ runs.map merged, total.key ≠ []) :
    writtenOf runs ++ closingFacts (heldOf runs).run =
      (runs.map merged).map fact := by
  cases runs using List.reverseRecOn with
  | nil => rfl
  | append_singleton runs last =>
      have hlast : (merged last).key ≠ [] := by
        apply hkeys
        simp
      rw [writtenOf_concat, heldOf_concat, closingFacts_some hlast]
      simp

theorem finish_eq (held : Accumulator) :
    finish held = .write (closingFacts held.run) .empty .empty () := rfl

theorem alwaysFinishes_stage : stage.AlwaysFinishes :=
  fun held => ⟨_, _, _, finish_eq held⟩

theorem succeeds_iff_runsInRange (text : Text) :
    (stage.run .unbounded text.encode).Succeeds ↔
      AreCounts text.lines ∧ RunsInRange (ofLines text.lines) :=
  keeps_ledger.follows.succeeds_iff_accepts alwaysFinishes_stage

theorem run_of_runsInRange {text : Text} (hcounts : AreCounts text.lines)
    (hfits : RunsInRange (ofLines text.lines)) :
    stage.run .unbounded text.encode =
      ⟨Fact.stream ((mergedRuns (ofLines text.lines)).map fact),
        .ok ⟨stage.name, text.lines.length,
          (mergedRuns (ofLines text.lines)).length, 0⟩⟩ := by
  have hkeys : ∀ total ∈ mergedRuns (ofLines text.lines), total.key ≠ [] :=
    key_ne_nil_of_mem_mergedRuns fun _ => isRead_of_mem_ofLines
  have hfacts : ledger.history.written text.lines ++
      closingFacts (ledger.history.state text.lines).run =
        (mergedRuns (ofLines text.lines)).map fact :=
    writtenOf_append_closingFacts hkeys
  rw [keeps_ledger.follows.run_of_accepts ⟨hcounts, hfits⟩ (finish_eq _),
    hfacts, List.length_map]
  rfl

section Stream

variable {counts : List KeyCount}

theorem succeeds_stream_iff (hframed : ∀ total ∈ counts, total.IsFramed) :
    (stage.run .unbounded (Fact.stream (counts.map fact))).Succeeds ↔
      RunsInRange counts := by
  rw [← encode_writtenText, succeeds_iff_runsInRange,
    ofLines_writtenText hframed, and_iff_right (areCounts_writtenText hframed)]

/-- Of a stream of counts the counter writes the maximal runs. -/
theorem run_stream (hframed : ∀ total ∈ counts, total.IsFramed)
    (hfits : RunsInRange counts) :
    stage.run .unbounded (Fact.stream (counts.map fact)) =
      ⟨Fact.stream ((mergedRuns counts).map fact),
        .ok ⟨stage.name, counts.length, (mergedRuns counts).length, 0⟩⟩ := by
  have hread := ofLines_writtenText hframed
  have hrun := run_of_runsInRange (areCounts_writtenText hframed)
    (hread.symm ▸ hfits)
  rwa [encode_writtenText, hread, lines_writtenText hframed,
    List.length_map] at hrun

end Stream

/-- On any lines the counter writes the maximal runs, unless one of the lines is
no count or takes the sum of its run out of range; then it has written the runs
before the last one of the lines before. -/
theorem run_writes_maximal_runs (text : Text) :
    let report := stage.run .unbounded text.encode
    let counts := ofLines text.lines
    (report.Succeeds ↔ AreCounts text.lines ∧ RunsInRange counts) ∧
      (report.Succeeds →
        report = ⟨Fact.stream ((mergedRuns counts).map fact),
          .ok ⟨stage.name, text.lines.length, (mergedRuns counts).length, 0⟩⟩ ∧
        (∀ total ∈ mergedRuns counts, total.key ≠ []) ∧
        ((mergedRuns counts).map count).sum = (counts.map count).sum) ∧
      (¬ report.Succeeds → ∃ before line after error,
        text.lines = before ++ line :: after ∧
        AreCounts before ∧ RunsInRange (ofLines before) ∧
        Offends RunsInRange (ofLines before) line error ∧
        report = ⟨Fact.stream ((mergedRuns (ofLines before)).dropLast.map fact),
          .error ⟨some (before.length + 1), error⟩⟩) := by
  intro report counts
  refine ⟨succeeds_iff_runsInRange text, fun hsucceeds => ?_, fun hfails => ?_⟩
  · obtain ⟨hcounts, hfits⟩ := (succeeds_iff_runsInRange text).mp hsucceeds
    exact ⟨run_of_runsInRange hcounts hfits,
      key_ne_nil_of_mem_mergedRuns fun _ => isRead_of_mem_ofLines,
      sum_mergedRuns counts⟩
  · obtain ⟨before, line, after, error, hlines, hbefore, hoffends, hrun⟩ :=
      keeps_ledger.follows.run_of_not_succeeds alwaysFinishes_stage hfails
    refine ⟨before, line, after, error, hlines, hbefore.1, hbefore.2, hoffends,
      ?_⟩
    rw [mergedRuns, ← List.map_dropLast]
    exact hrun

theorem run_writes_maximal_runs_on_returning_key :
    let text : Text := "a\t1\na\t-3\tmore\nb\t2\na\t4\n5".toList
    let overflowing : Text :=
      "a\t1\nb\t9223372036854775807\nb\t1\nb\t-1".toList
    (stage.run .unbounded text.encode).output = Text.encode
        "a\t-2\nb\t2\na\t4\nEmptyString\t5\n".toList ∧
      (∃ failure, (stage.run .unbounded overflowing.encode).result =
        .error failure) := by
  intro text overflowing
  have hsucceeds := (run_writes_maximal_runs text).1.mpr (by decide +kernel)
  have hfails : ¬ (stage.run .unbounded overflowing.encode).Succeeds := by
    rw [(run_writes_maximal_runs overflowing).1]
    decide +kernel
  constructor
  · rw [((run_writes_maximal_runs text).2.1 hsucceeds).1]
    decide +kernel
  · obtain ⟨before, line, after, error, -, -, -, -, hrun⟩ :=
      (run_writes_maximal_runs overflowing).2.2 hfails
    rw [hrun]
    exact ⟨_, rfl⟩

end StreamingCount

end FactStream
