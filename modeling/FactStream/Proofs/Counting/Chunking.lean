import FactStream.Proofs.Counting.Histogram

/-!
# Counting in two passes

Facts may be counted chunk by chunk and the partial totals counted again.  The
histogram of the partial totals is the histogram of the facts, since the total
of a key is the sum of its totals over the chunks.  What can differ is where a
sum leaves the range on the way; without negative counts it does so in one pass
exactly when it does so in two.
-/

namespace FactStream.Counting

open KeyCount Shuffle

/-- The total of a key is the sum of its totals over the chunks. -/
theorem total_flatten (key : Text) (chunks : List (List KeyCount)) :
    total key chunks.flatten = (chunks.map (total key)).sum := by
  induction chunks with
  | nil => rfl
  | cons chunk chunks ih =>
      rw [List.flatten_cons, total_append, ih, List.map_cons, List.sum_cons]

/-- A histogram is determined by the keys that occur and their totals. -/
theorem histogram_congr {left right : List KeyCount}
    (hkeys : ∀ key, key ∈ left.map KeyCount.key ↔ key ∈ right.map KeyCount.key)
    (htotals : ∀ key, total key left = total key right) :
    histogram left = histogram right := by
  rw [histogram, histogram, ascending_congr hkeys]
  simp only [htotals]

theorem map_key_histogram (counts : List KeyCount) :
    (histogram counts).map KeyCount.key =
      ascending (counts.map KeyCount.key) := by
  rw [histogram, List.map_map]
  exact List.map_id _

theorem mem_map_key_histogram {key : Text} {counts : List KeyCount} :
    key ∈ (histogram counts).map KeyCount.key ↔
      key ∈ counts.map KeyCount.key := by
  rw [map_key_histogram, mem_ascending]

/-- In a histogram a key that occurs has one count, its total. -/
theorem countsOf_histogram {key : Text} {counts : List KeyCount}
    (hkey : key ∈ counts.map KeyCount.key) :
    countsOf key (histogram counts) = [total key counts] := by
  have hnodup : ((histogram counts).map KeyCount.key).Nodup := by
    rw [map_key_histogram]
    exact (pairwise_ascending _).imp ne_of_lt
  have hentry : KeyCount.mk key (total key counts) ∈ histogram counts :=
    List.mem_map.mpr ⟨key, mem_ascending.mpr hkey, rfl⟩
  exact countsOf_of_nodup hnodup hentry

theorem total_histogram (key : Text) (counts : List KeyCount) :
    total key (histogram counts) = total key counts := by
  by_cases hkey : key ∈ counts.map KeyCount.key
  · rw [total, countsOf_histogram hkey, List.sum_singleton]
  · rw [total, total, countsOf_eq_nil hkey, countsOf_eq_nil]
    rwa [mem_map_key_histogram]

theorem total_flatMap_histogram (key : Text) (chunks : List (List KeyCount)) :
    total key (chunks.flatMap histogram) = total key chunks.flatten := by
  rw [List.flatMap_def, total_flatten, total_flatten, List.map_map]
  congr 1
  exact List.map_congr_left fun chunk _ => total_histogram key chunk

/-- Merging the histograms of chunks gives the histogram of all of them. -/
theorem histogram_flatMap (chunks : List (List KeyCount)) :
    histogram (chunks.flatMap histogram) = histogram chunks.flatten := by
  apply histogram_congr
  · intro key
    rw [List.map_flatMap, List.map_flatten, List.mem_flatMap,
      ← List.flatMap_def, List.mem_flatMap]
    apply exists_congr
    intro chunk
    exact and_congr_right fun _ => mem_map_key_histogram
  · intro key
    exact total_flatMap_histogram key chunks

section Fit

variable {counts : List KeyCount}

/-- What holds of the counts of all chunks holds of those of each. -/
private theorem forall_mem_of_mem {Holds : KeyCount → Prop}
    {chunks : List (List KeyCount)}
    (hall : ∀ total ∈ chunks.flatten, Holds total) {chunk : List KeyCount}
    (hchunk : chunk ∈ chunks) : ∀ total ∈ chunk, Holds total := by
  intro total hmem
  exact hall total (List.mem_flatten_of_mem hchunk hmem)

/-- A part of counts without negative ones has no larger totals. -/
theorem inRange_total_of_mem {chunks : List (List KeyCount)}
    {chunk : List KeyCount}
    (hnonneg : ∀ total ∈ chunks.flatten, 0 ≤ total.count)
    (hchunk : chunk ∈ chunks)
    {key : Text} (htotal : Count.inRange (total key chunks.flatten)) :
    Count.inRange (total key chunk) := by
  have hnonneg_of_mem : ∀ other ∈ chunks, 0 ≤ total key other := by
    intro other hother
    exact total_nonneg (forall_mem_of_mem hnonneg hother) key
  have hle : total key chunk ≤ total key chunks.flatten := by
    rw [total_flatten]
    apply List.single_le_sum _ _ (List.mem_map_of_mem hchunk)
    intro part hpart
    obtain ⟨other, hother, rfl⟩ := List.mem_map.mp hpart
    exact hnonneg_of_mem other hother
  have hpart := hnonneg_of_mem chunk hchunk
  rw [Count.inRange_iff] at htotal ⊢
  omega

theorem isFramed_of_mem_histogram (hframed : ∀ total ∈ counts, total.IsFramed)
    (hfits : KeysInRange counts) : ∀ total ∈ histogram counts, total.IsFramed := by
  intro merged hmem
  obtain ⟨key, hkey, rfl⟩ := List.mem_map.mp hmem
  obtain ⟨total, htotal, rfl⟩ := List.mem_map.mp (mem_ascending.mp hkey)
  exact ⟨(hframed total htotal).isKey, inRange_total hfits total.key⟩

theorem nonneg_of_mem_histogram (hnonneg : ∀ total ∈ counts, 0 ≤ total.count) :
    ∀ total ∈ histogram counts, 0 ≤ total.count := by
  intro merged hmem
  obtain ⟨key, hkey, rfl⟩ := List.mem_map.mp hmem
  exact total_nonneg hnonneg key

end Fit

section Passes

variable {chunks : List (List KeyCount)}

/-- One counting pass over the facts of some counts. -/
def onePass (counts : List KeyCount) : RunReport :=
  countSorted (Fact.stream (counts.map fact))

/-- The counting passes over the chunks. -/
def chunkPasses (chunks : List (List KeyCount)) : List RunReport :=
  chunks.map onePass

/-- The counting pass over what the passes over the chunks have written. -/
def mergingPass (chunks : List (List KeyCount)) : RunReport :=
  countSorted ((chunkPasses chunks).flatMap RunReport.output)

theorem onePass_succeeds_iff {counts : List KeyCount}
    (hframed : ∀ total ∈ counts, total.IsFramed) :
    (onePass counts).Succeeds ↔ KeysInRange counts :=
  countSorted_succeeds_iff hframed

theorem output_onePass {counts : List KeyCount}
    (hframed : ∀ total ∈ counts, total.IsFramed)
    (hfits : KeysInRange counts) :
    (onePass counts).output = Fact.stream ((histogram counts).map fact) := by
  rw [onePass, countSorted_of_keysInRange hframed hfits]

theorem chunkPasses_succeed_iff
    (hframed : ∀ total ∈ chunks.flatten, total.IsFramed) :
    (∀ report ∈ chunkPasses chunks, report.Succeeds) ↔
      ∀ chunk ∈ chunks, KeysInRange chunk := by
  rw [chunkPasses, List.forall_mem_map]
  exact forall₂_congr fun chunk hchunk =>
    onePass_succeeds_iff (forall_mem_of_mem hframed hchunk)

/-- The passes over the chunks write their histograms, which are the input of
the merging pass. -/
theorem mergingPass_of_keysInRange
    (hframed : ∀ total ∈ chunks.flatten, total.IsFramed)
    (hfits : ∀ chunk ∈ chunks, KeysInRange chunk) :
    mergingPass chunks = onePass (chunks.flatMap histogram) := by
  have houtputs : (chunkPasses chunks).flatMap RunReport.output =
      Fact.stream ((chunks.flatMap histogram).map fact) := by
    rw [chunkPasses, List.flatMap_map, List.map_flatMap, Fact.stream_flatMap]
    apply List.flatMap_congr
    intro chunk hchunk
    exact output_onePass (forall_mem_of_mem hframed hchunk) (hfits chunk hchunk)
  rw [mergingPass, houtputs, onePass]

theorem isFramed_of_mem_histograms
    (hframed : ∀ total ∈ chunks.flatten, total.IsFramed)
    (hfits : ∀ chunk ∈ chunks, KeysInRange chunk) :
    ∀ total ∈ chunks.flatMap histogram, total.IsFramed := by
  intro total hmem
  obtain ⟨chunk, hchunk, htotal⟩ := List.mem_flatMap.mp hmem
  exact isFramed_of_mem_histogram (forall_mem_of_mem hframed hchunk)
    (hfits chunk hchunk) total htotal

/-- Without negative counts the sums fit over all facts exactly when they fit
over every chunk and over the partial totals. -/
theorem keysInRange_flatten_iff
    (hnonneg : ∀ total ∈ chunks.flatten, 0 ≤ total.count) :
    KeysInRange chunks.flatten ↔
      (∀ chunk ∈ chunks, KeysInRange chunk) ∧
        KeysInRange (chunks.flatMap histogram) := by
  have hpartials : ∀ total ∈ chunks.flatMap histogram, 0 ≤ total.count := by
    intro total hmem
    obtain ⟨chunk, hchunk, htotal⟩ := List.mem_flatMap.mp hmem
    exact nonneg_of_mem_histogram
      (forall_mem_of_mem hnonneg hchunk) total htotal
  have htotals : ∀ key, total key (chunks.flatMap histogram) =
      total key chunks.flatten :=
    fun key => total_flatMap_histogram key chunks
  constructor
  · intro hfits
    constructor
    · intro chunk hchunk
      rw [keysInRange_iff_of_nonneg (forall_mem_of_mem hnonneg hchunk)]
      intro key
      exact inRange_total_of_mem hnonneg hchunk (inRange_total hfits key)
    · rw [keysInRange_iff_of_nonneg hpartials]
      intro key
      rw [htotals]
      exact inRange_total hfits key
  · rintro ⟨-, hmerged⟩
    rw [keysInRange_iff_of_nonneg hnonneg]
    intro key
    rw [← htotals]
    exact inRange_total hmerged key

/-- Counting in one pass and counting in two write the same bytes whenever
neither fails, and without negative counts neither fails without the other. -/
theorem mergingPass_agrees_with_onePass (chunks : List (List KeyCount))
    (hframed : ∀ total ∈ chunks.flatten, total.IsFramed) :
    ((onePass chunks.flatten).Succeeds →
      (∀ report ∈ chunkPasses chunks, report.Succeeds) →
      (mergingPass chunks).Succeeds →
        (mergingPass chunks).output = (onePass chunks.flatten).output) ∧
    ((∀ total ∈ chunks.flatten, 0 ≤ total.count) →
      ((onePass chunks.flatten).Succeeds ↔
        (∀ report ∈ chunkPasses chunks, report.Succeeds) ∧
        (mergingPass chunks).Succeeds)) := by
  constructor
  · intro hone hchunks hmerging
    have hfits := (chunkPasses_succeed_iff hframed).mp hchunks
    have hpartials := isFramed_of_mem_histograms hframed hfits
    have hmerged := mergingPass_of_keysInRange hframed hfits
    rw [hmerged, onePass_succeeds_iff hpartials] at hmerging
    rw [onePass_succeeds_iff hframed] at hone
    calc
      (mergingPass chunks).output =
          Fact.stream ((histogram (chunks.flatMap histogram)).map fact) := by
        rw [hmerged, output_onePass hpartials hmerging]
      _ = Fact.stream ((histogram chunks.flatten).map fact) := by
        rw [histogram_flatMap]
      _ = (onePass chunks.flatten).output := (output_onePass hframed hone).symm
  · intro hnonneg
    rw [chunkPasses_succeed_iff hframed, onePass_succeeds_iff hframed,
      keysInRange_flatten_iff hnonneg]
    apply and_congr_right
    intro hfits
    rw [mergingPass_of_keysInRange hframed hfits,
      onePass_succeeds_iff (isFramed_of_mem_histograms hframed hfits)]

theorem mergingPass_agrees_with_onePass_on_limit :
    let chunks : List (List KeyCount) :=
      [[⟨['b'], 2⟩, ⟨['a', ' '], 9223372036854775806⟩], [],
        [⟨['a', ' '], 1⟩, ⟨['b'], 0⟩]]
    (∀ total ∈ chunks.flatten, total.IsFramed) ∧
      (onePass chunks.flatten).Succeeds ∧
      (∀ report ∈ chunkPasses chunks, report.Succeeds) ∧
      (mergingPass chunks).Succeeds ∧
      (mergingPass chunks).output = (onePass chunks.flatten).output := by
  intro chunks
  have hframed : ∀ total ∈ chunks.flatten, total.IsFramed := by decide
  have hone : (onePass chunks.flatten).Succeeds := by
    rw [onePass_succeeds_iff hframed]
    decide
  obtain ⟨houtputs, hsucceed⟩ := mergingPass_agrees_with_onePass chunks hframed
  obtain ⟨hchunks, hmerging⟩ := (hsucceed (by decide)).mp hone
  exact ⟨hframed, hone, hchunks, hmerging, houtputs hone hchunks hmerging⟩

end Passes

end FactStream.Counting
