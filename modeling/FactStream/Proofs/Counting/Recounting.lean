import FactStream.Proofs.Counting.KeyTotals

/-!
# Counting what has been counted

In what a counter writes no key stands beside itself, and every line is read as
the count that it was written for.  A counter that reads such a stream finds
nothing left to add up and writes it again.
-/

namespace FactStream

open KeyCount Counting

namespace KeyCount

variable {counts : List KeyCount}

/-- No two counts of one key stand beside each other. -/
def KeysAlternate (counts : List KeyCount) : Prop :=
  counts.IsChain fun first second => first.key ≠ second.key

theorem head?_mergedRuns (counts : List KeyCount) :
    (mergedRuns counts).head?.map key = counts.head?.map key := by
  have hhead := @head?_bind_keyRuns _ key counts
  rw [mergedRuns, List.head?_map]
  cases hruns : keyRuns key counts with
  | nil =>
      rw [hruns] at hhead
      rw [← hhead]
      rfl
  | cons run runs =>
      have hrun : run ∈ keyRuns key counts := hruns ▸ List.mem_cons_self
      rw [hruns] at hhead
      rw [← hhead]
      cases run with
      | nil => exact absurd rfl (uniform_of_mem_keyRuns hrun).1
      | cons first others => rfl

/-- A run ends where the key changes, so merged runs differ from their
neighbours. -/
theorem keysAlternate_mergedRuns (counts : List KeyCount) :
    KeysAlternate (mergedRuns counts) := by
  induction counts using keyRuns_induction key with
  | nil => simp [KeysAlternate]
  | append wanted run rest hne hrun hnext ih =>
      rw [KeysAlternate, mergedRuns_append hne hrun hnext, List.isChain_cons]
      refine ⟨fun next hmem => ?_, ih⟩
      have hhead := head?_mergedRuns rest
      rw [hmem] at hhead
      obtain ⟨first, hfirst, hkey⟩ := Option.map_eq_some_iff.mp hhead.symm
      rw [← hkey]
      exact hnext first hfirst

theorem keysAlternate_of_pairwise
    (hkeys : (counts.map key).Pairwise (· < ·)) : KeysAlternate counts := by
  rw [List.pairwise_map] at hkeys
  exact (hkeys.imp fun hlt => ne_of_lt hlt).isChain

/-- Nothing is added up where no key stands beside itself. -/
theorem mergedRuns_of_keysAlternate (halternate : KeysAlternate counts) :
    mergedRuns counts = counts := by
  rw [mergedRuns, keyRuns_of_isChain halternate, List.map_map]
  exact (List.map_congr_left fun total _ => merged_singleton total).trans
    (List.map_id counts)

theorem runsInRange_of_keysAlternate (halternate : KeysAlternate counts)
    (hframed : ∀ total ∈ counts, total.IsFramed) : RunsInRange counts := by
  rw [RunsInRange, keyRuns_of_isChain halternate, List.forall_mem_map]
  exact fun total hmem => prefixSumsFit_singleton (hframed total hmem).inRange

end KeyCount

namespace Counting

variable {counts : List KeyCount}

theorem histogram_histogram (counts : List KeyCount) :
    histogram (histogram counts) = histogram counts := by
  simpa using histogram_flatMap [counts]

theorem keysInRange_histogram (hfits : KeysInRange counts) :
    KeysInRange (histogram counts) := by
  rw [keysInRange_iff_forall_mem]
  intro key hkey
  rw [countsOf_histogram (mem_map_key_histogram.mp hkey),
    Count.prefixSumsFit_singleton]
  exact inRange_total hfits key

end Counting

variable {counts : List KeyCount}

/-- Counts under keys that alternate are written again as they stand. -/
theorem StreamingCount.run_stream_of_keysAlternate
    (hframed : ∀ total ∈ counts, total.IsFramed)
    (halternate : KeysAlternate counts) :
    stage.run .unbounded (Fact.stream (counts.map fact)) =
      ⟨Fact.stream (counts.map fact),
        .ok ⟨stage.name, counts.length, counts.length, 0⟩⟩ := by
  rw [run_stream hframed (runsInRange_of_keysAlternate halternate hframed),
    mergedRuns_of_keysAlternate halternate]

/-- A histogram is written again as it stands. -/
theorem GroupedCount.run_stream_histogram
    (hframed : ∀ total ∈ histogram counts, total.IsFramed)
    (hfits : KeysInRange counts) :
    stage.run .unbounded (Fact.stream ((histogram counts).map fact)) =
      ⟨Fact.stream ((histogram counts).map fact),
        .ok ⟨stage.name, (histogram counts).length,
          (histogram counts).length, 0⟩⟩ := by
  have hread := ofLines_writtenText hframed
  have hrun := run_of_keysInRange (areCounts_writtenText hframed)
    (hread.symm ▸ keysInRange_histogram hfits)
  rwa [encode_writtenText, hread, histogram_histogram,
    lines_writtenText hframed, List.length_map] at hrun

namespace Counting

/-- What the streaming counter has written of any text it writes again, and what
the grouping counter has written both counters write again, every line of it
read and emitted. -/
theorem recounting_changes_nothing (text : Text) (summary : Summary) :
    let streamed := StreamingCount.stage.run .unbounded text.encode
    let grouped := GroupedCount.stage.run .unbounded text.encode
    (streamed.result = .ok summary →
      StreamingCount.stage.run .unbounded streamed.output =
        ⟨streamed.output, .ok ⟨StreamingCount.stage.name,
          summary.linesEmitted, summary.linesEmitted, 0⟩⟩) ∧
      (grouped.result = .ok summary →
        GroupedCount.stage.run .unbounded grouped.output =
          ⟨grouped.output, .ok ⟨GroupedCount.stage.name,
            summary.linesEmitted, summary.linesEmitted, 0⟩⟩ ∧
        StreamingCount.stage.run .unbounded grouped.output =
          ⟨grouped.output, .ok ⟨StreamingCount.stage.name,
            summary.linesEmitted, summary.linesEmitted, 0⟩⟩) := by
  intro streamed grouped
  have hread : ∀ total ∈ ofLines text.lines, total.IsFramed :=
    fun _ => isFramed_of_mem_ofLines
  refine ⟨fun hsucceeds => ?_, fun hsucceeds => ?_⟩
  · obtain ⟨hcounts, hfits⟩ :=
      (StreamingCount.succeeds_iff_runsInRange text).mp ⟨summary, hsucceeds⟩
    have hrun : streamed = _ := StreamingCount.run_of_runsInRange hcounts hfits
    rw [hrun] at hsucceeds ⊢
    cases hsucceeds
    exact StreamingCount.run_stream_of_keysAlternate
      (isFramed_of_mem_mergedRuns hread hfits) (keysAlternate_mergedRuns _)
  · obtain ⟨hcounts, hfits⟩ :=
      (GroupedCount.succeeds_iff_keysInRange text).mp ⟨summary, hsucceeds⟩
    have hrun : grouped = _ := GroupedCount.run_of_keysInRange hcounts hfits
    have hframed : ∀ total ∈ histogram (ofLines text.lines), total.IsFramed :=
      isFramed_of_mem_histogram hread hfits
    have halternate : KeysAlternate (histogram (ofLines text.lines)) := by
      apply keysAlternate_of_pairwise
      rw [map_key_histogram]
      exact Shuffle.pairwise_ascending _
    rw [hrun] at hsucceeds ⊢
    cases hsucceeds
    exact ⟨GroupedCount.run_stream_histogram hframed hfits,
      StreamingCount.run_stream_of_keysAlternate hframed halternate⟩

theorem recounting_changes_nothing_at_both_limits :
    let text : Text :=
      "b\t9223372036854775806\nb\t+1\nc \t2\n b\t-9223372036854775808\n07".toList
    let runs : Bytes := Text.encode
      "b\t9223372036854775807\nc \t2\nb\t-9223372036854775808\nEmptyString\t7\n".toList
    let totals := (GroupedCount.stage.run .unbounded text.encode).output
    StreamingCount.stage.run .unbounded text.encode =
        ⟨runs, .ok ⟨"count".toList, 5, 4, 0⟩⟩ ∧
      StreamingCount.stage.run .unbounded runs =
        ⟨runs, .ok ⟨"count".toList, 4, 4, 0⟩⟩ ∧
      (GroupedCount.stage.run .unbounded text.encode).Succeeds ∧
      (GroupedCount.stage.run .unbounded totals).output = totals ∧
      (StreamingCount.stage.run .unbounded totals).output = totals := by
  intro text runs totals
  have hstreamed : StreamingCount.stage.run .unbounded text.encode =
      ⟨runs, .ok ⟨"count".toList, 5, 4, 0⟩⟩ := by
    rw [StreamingCount.run_of_runsInRange (by decide +kernel) (by decide +kernel)]
    rfl
  have hruns := (recounting_changes_nothing text _).1
    (congrArg RunReport.result hstreamed)
  have hgrouped : (GroupedCount.stage.run .unbounded text.encode).Succeeds :=
    (GroupedCount.succeeds_iff_keysInRange text).mpr (by decide +kernel)
  obtain ⟨summary, hsummary⟩ := hgrouped
  obtain ⟨htotals, hagain⟩ := (recounting_changes_nothing text _).2 hsummary
  rw [hstreamed] at hruns
  have houtput := congrArg RunReport.output htotals
  have houtput_streamed := congrArg RunReport.output hagain
  exact ⟨hstreamed, hruns, ⟨summary, hsummary⟩, houtput, houtput_streamed⟩

end Counting

end FactStream
