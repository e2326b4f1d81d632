import FactStream.Proofs.Counting.MaximalRuns
import FactStream.Proofs.Shuffle

/-!
# Counting shuffled facts

Once facts are sorted by key, the maximal runs of equal keys are the keys, so
the streaming counter writes a histogram: every key that occurs, in ascending
order, with the sum of its counts.  It depends on the facts only through these
sums.
-/

namespace FactStream.Counting

open KeyCount Shuffle

/-- The counts of a key, in their order. -/
def countsOf (key : Text) (counts : List KeyCount) : List Int :=
  (counts.filter fun total => total.key = key).map count

/-- The sum of the counts of a key. -/
def total (key : Text) (counts : List KeyCount) : Int :=
  (countsOf key counts).sum

/-- Every key that occurs, in ascending order, with the sum of its counts. -/
def histogram (counts : List KeyCount) : List KeyCount :=
  (ascending (counts.map KeyCount.key)).map fun key => ⟨key, total key counts⟩

/-- Every sum of the first counts of a key is in range. -/
def KeysInRange (counts : List KeyCount) : Prop :=
  ∀ key, Count.PrefixSumsFit (countsOf key counts)

/-- One counting pass: a stream of facts is sorted by key and counted. -/
def countSorted (input : Bytes) : RunReport :=
  StreamingCount.stage.run .unbounded (byKey.prepareBytes input)

theorem countsOf_append (key : Text) (front rest : List KeyCount) :
    countsOf key (front ++ rest) = countsOf key front ++ countsOf key rest := by
  rw [countsOf, List.filter_append, List.map_append, countsOf, countsOf]

theorem total_append (key : Text) (front rest : List KeyCount) :
    total key (front ++ rest) = total key front + total key rest := by
  rw [total, countsOf_append, List.sum_append, total, total]

theorem countsOf_eq_nil {key : Text} {counts : List KeyCount}
    (hkey : key ∉ counts.map KeyCount.key) : countsOf key counts = [] := by
  rw [countsOf, List.map_eq_nil_iff, List.filter_eq_nil_iff]
  intro total hmem heq
  exact hkey (List.mem_map.mpr ⟨total, hmem, of_decide_eq_true heq⟩)

/-- Where no key comes twice, a key has the one count that it comes with. -/
theorem countsOf_of_nodup {counts : List KeyCount}
    (hkeys : (counts.map KeyCount.key).Nodup) {next : KeyCount} (hnext : next ∈ counts) :
    countsOf next.key counts = [next.count] := by
  induction counts with
  | nil => exact absurd hnext List.not_mem_nil
  | cons first counts ih =>
      rw [List.map_cons, List.nodup_cons] at hkeys
      rw [← List.singleton_append, countsOf_append]
      cases List.mem_cons.mp hnext with
      | inl hfirst =>
          rw [hfirst, countsOf_eq_nil hkeys.1]
          simp [countsOf]
      | inr hlater =>
          have hne : first.key ≠ next.key := by
            intro heq
            exact hkeys.1 (heq ▸ List.mem_map_of_mem hlater)
          rw [ih hkeys.2 hlater]
          simp [countsOf, hne]

theorem total_singleton (key : Text) (next : KeyCount) :
    total key [next] = if next.key = key then next.count else 0 := by
  rw [total, countsOf]
  by_cases hkey : next.key = key
  · simp [hkey]
  · simp [hkey]

theorem total_eq_zero {key : Text} {counts : List KeyCount}
    (hkey : key ∉ counts.map KeyCount.key) : total key counts = 0 := by
  rw [total, countsOf_eq_nil hkey, List.sum_nil]

/-- Keys that do not occur need not be looked at. -/
theorem keysInRange_iff_forall_mem {counts : List KeyCount} :
    KeysInRange counts ↔
      ∀ key ∈ counts.map KeyCount.key,
        Count.PrefixSumsFit (countsOf key counts) := by
  constructor
  · intro hfits key _
    exact hfits key
  · intro hfits key
    by_cases hkey : key ∈ counts.map KeyCount.key
    · exact hfits key hkey
    · rw [countsOf_eq_nil hkey]
      exact Count.prefixSumsFit_nil

theorem keysInRange_nil : KeysInRange [] :=
  fun _ => Count.prefixSumsFit_nil

theorem keysInRange_concat {counts : List KeyCount} {next : KeyCount} :
    KeysInRange (counts ++ [next]) ↔
      KeysInRange counts ∧
        Count.inRange (total next.key counts + next.count) := by
  have hsame : Count.PrefixSumsFit (countsOf next.key (counts ++ [next])) ↔
      Count.PrefixSumsFit (countsOf next.key counts) ∧
        Count.inRange (total next.key counts + next.count) := by
    have hlast : countsOf next.key [next] = [next.count] := by simp [countsOf]
    rw [countsOf_append, hlast, Count.prefixSumsFit_concat, total]
  have hother : ∀ key, next.key ≠ key →
      countsOf key (counts ++ [next]) = countsOf key counts := by
    intro key hne
    have hnone : countsOf key [next] = [] := by simp [countsOf, hne]
    rw [countsOf_append, hnone, List.append_nil]
  constructor
  · intro hfits
    refine ⟨fun key => ?_, (hsame.mp (hfits next.key)).2⟩
    by_cases hkey : next.key = key
    · subst hkey
      exact (hsame.mp (hfits next.key)).1
    · rw [← hother key hkey]
      exact hfits key
  · rintro ⟨hfits, hrange⟩ key
    by_cases hkey : next.key = key
    · subst hkey
      exact hsame.mpr ⟨hfits next.key, hrange⟩
    · rw [hother key hkey]
      exact hfits key

instance keysInRangeDecidable (counts : List KeyCount) :
    Decidable (KeysInRange counts) :=
  decidable_of_iff' _ keysInRange_iff_forall_mem

section Fit

variable {counts : List KeyCount}

theorem inRange_total (hfits : KeysInRange counts) (key : Text) :
    Count.inRange (total key counts) :=
  Count.inRange_sum (hfits key)

theorem nonneg_of_mem_countsOf (hnonneg : ∀ total ∈ counts, 0 ≤ total.count)
    {key : Text} :
    ∀ count ∈ countsOf key counts, 0 ≤ count := by
  intro count hcount
  obtain ⟨total, hmem, rfl⟩ := List.mem_map.mp hcount
  exact hnonneg total (List.mem_filter.mp hmem).1

theorem total_nonneg (hnonneg : ∀ total ∈ counts, 0 ≤ total.count)
    (key : Text) :
    0 ≤ total key counts :=
  List.sum_nonneg (nonneg_of_mem_countsOf hnonneg)

/-- Without negative counts only the totals have to be in range. -/
theorem keysInRange_iff_of_nonneg
    (hnonneg : ∀ total ∈ counts, 0 ≤ total.count) :
    KeysInRange counts ↔ ∀ key, Count.inRange (total key counts) := by
  constructor
  · exact inRange_total
  · intro htotals key
    exact Count.prefixSumsFit_of_nonneg (nonneg_of_mem_countsOf hnonneg)
      (htotals key)

end Fit

section Framed

variable {counts : List KeyCount}

private theorem group_ne_nil {key : Text}
    (hkey : key ∈ ascending (counts.map KeyCount.key)) :
    (counts.filter fun total => total.key = key) ≠ [] := by
  obtain ⟨total, hmem, rfl⟩ := List.mem_map.mp (mem_ascending.mp hkey)
  exact List.ne_nil_of_mem (List.mem_filter.mpr ⟨hmem, by simp⟩)

private theorem key_of_mem_group {key : Text} {total : KeyCount}
    (hmem : total ∈ counts.filter fun total => total.key = key) :
    total.key = key := by
  simpa using (List.mem_filter.mp hmem).2

/-- Once the counts are sorted, the runs are the counts of the keys. -/
theorem mergedRuns_sortBy (counts : List KeyCount) :
    mergedRuns (sortBy KeyCount.key counts) = histogram counts := by
  rw [mergedRuns, keyRuns_sortBy, List.map_map, histogram]
  apply List.map_congr_left
  intro key hkey
  exact merged_of_key (group_ne_nil hkey) fun _ => key_of_mem_group

theorem runsInRange_sortBy :
    RunsInRange (sortBy KeyCount.key counts) ↔ KeysInRange counts := by
  rw [RunsInRange, keyRuns_sortBy, List.forall_mem_map,
    keysInRange_iff_forall_mem]
  simp only [mem_ascending]
  rfl

theorem prepareBytes_counts (hkeys : ∀ total ∈ counts, total.key.IsKey) :
    byKey.prepareBytes (Fact.stream (counts.map fact)) =
      Fact.stream ((sortBy KeyCount.key counts).map fact) :=
  prepareBytes_stream (fun total hmem => (hkeys total hmem).tab_not_mem)
    fun total hmem => lineFeed_not_mem_fact (hkeys total hmem)

private theorem isFramed_of_mem_sortBy
    (hframed : ∀ total ∈ counts, total.IsFramed) :
    ∀ total ∈ sortBy KeyCount.key counts, total.IsFramed := fun total hmem =>
  hframed total ((sortBy_perm _ counts).mem_iff.mp hmem)

/-- A counting pass writes the histogram, if the counts of every key can be
added up. -/
theorem countSorted_of_keysInRange (hframed : ∀ total ∈ counts, total.IsFramed)
    (hfits : KeysInRange counts) :
    countSorted (Fact.stream (counts.map fact)) =
      ⟨Fact.stream ((histogram counts).map fact),
        .ok ⟨StreamingCount.stage.name, counts.length,
          (histogram counts).length, 0⟩⟩ := by
  rw [countSorted,
    prepareBytes_counts fun total hmem => (hframed total hmem).isKey,
    StreamingCount.run_stream (isFramed_of_mem_sortBy hframed)
      (runsInRange_sortBy.mpr hfits),
    mergedRuns_sortBy, (sortBy_perm _ counts).length_eq]

theorem countSorted_succeeds_iff (hframed : ∀ total ∈ counts, total.IsFramed) :
    (countSorted (Fact.stream (counts.map fact))).Succeeds ↔
      KeysInRange counts := by
  rw [countSorted,
    prepareBytes_counts fun total hmem => (hframed total hmem).isKey,
    StreamingCount.succeeds_stream_iff (isFramed_of_mem_sortBy hframed),
    runsInRange_sortBy]

end Framed

end FactStream.Counting
