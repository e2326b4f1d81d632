import FactStream.Proofs.Counting.Histogram
import FactStream.Proofs.Selection.FieldFilter

/-!
# Filtering and then counting

The facts of a filter count every key once, so a counting pass over them counts
records.  Nothing depends on how the text was split for the filter or on the
order in which the outputs were put together, since the sort removes it.
-/

namespace FactStream.FieldFilter

open Counting KeyCount

section Once

/-- A key that is counted once. -/
def once (key : Text) : KeyCount :=
  ⟨key, 1⟩

theorem isFramed_once {key : Text} (hkey : key.IsKey) : (once key).IsFramed :=
  ⟨hkey, (by decide : Count.inRange 1)⟩

theorem countsOf_map_once (key : Text) (keys : List Text) :
    countsOf key (keys.map once) = List.replicate (keys.count key) 1 := by
  induction keys with
  | nil => rfl
  | cons first keys ih =>
      rw [List.map_cons, ← List.singleton_append, countsOf_append, ih,
        List.count_cons]
      by_cases hkey : first = key
      · subst hkey
        simp [countsOf, once, List.replicate_succ]
      · simp [countsOf, once, hkey]

theorem total_map_once (key : Text) (keys : List Text) :
    total key (keys.map once) = keys.count key := by
  rw [total, countsOf_map_once, List.sum_replicate]
  simp

theorem histogram_map_once (keys : List Text) :
    histogram (keys.map once) =
      (Shuffle.ascending keys).map fun key => ⟨key, keys.count key⟩ := by
  have hkeys : (keys.map once).map KeyCount.key = keys := by
    rw [List.map_map]
    exact List.map_id keys
  simp only [histogram, hkeys, total_map_once]

theorem keysInRange_map_once {keys : List Text} (hlength : keys.length < 2 ^ 63) :
    KeysInRange (keys.map once) := by
  have hnonneg : ∀ total ∈ keys.map once, 0 ≤ total.count := by
    rw [List.forall_mem_map]
    intro key _
    exact Int.one_nonneg
  rw [keysInRange_iff_of_nonneg hnonneg]
  intro key
  have hcount : keys.count key ≤ keys.length := List.count_le_length
  have hlimit : Numeral.integerLimit = 2 ^ 63 := rfl
  rw [total_map_once, Count.inRange_iff]
  omega

/-- Counting keys that are counted once each gives how often they occur. -/
theorem countSorted_once {keys : List Text} (hkeys : ∀ key ∈ keys, key.IsKey)
    (hlength : keys.length < 2 ^ 63) :
    countSorted (Fact.stream (keys.map countOnce)) =
      ⟨Fact.stream ((Shuffle.ascending keys).map
        fun key => ⟨key, Numeral.ofNat (keys.count key)⟩),
        .ok ⟨StreamingCount.stage.name, keys.length,
          (Shuffle.ascending keys).length, 0⟩⟩ := by
  have hframed : ∀ total ∈ keys.map once, total.IsFramed := by
    rw [List.forall_mem_map]
    exact fun key hkey => isFramed_once (hkeys key hkey)
  have hcounted := countSorted_of_keysInRange hframed
    (keysInRange_map_once hlength)
  rw [histogram_map_once, List.map_map, List.map_map, List.length_map,
    List.length_map] at hcounted
  exact hcounted

end Once

variable {target : Text} {matched projected : Nat}

theorem isKey_of_yields {text key : Text} {record : Record}
    (hrecord : record ∈ recordsOf text.lines)
    (hyields : Yields target matched projected record key)
    (hkey : '\t' ∉ key ∧ key.beginsBlank = false) : key.IsKey := by
  refine ⟨ne_nil_of_yields hyields, hkey.2, hkey.1, ?_⟩
  intro hmem
  obtain ⟨line, hline, rfl⟩ := List.mem_map.mp hrecord
  have hfeed := mem_line_of_yields hyields (by decide) hmem
  exact Text.lineFeed_not_mem_of_mem_lines hline (Text.mem_of_mem_trim hfeed)

/-- The outputs of a filter over splits of a text, in the order of the splits
that is given. -/
def outputsOn (target : Text) (matched projected : Nat)
    (order : List Text) : Bytes :=
  order.flatMap fun split => (runOn target matched projected split).output

theorem outputsOn_eq_stream {order : List Text}
    (hsucceed : ∀ split ∈ order,
      (runOn target matched projected split).Succeeds) :
    outputsOn target matched projected order =
      Fact.stream
        ((order.flatMap (yieldedKeys target matched projected)).map
          countOnce) := by
  rw [outputsOn, List.map_flatMap, Fact.stream_flatMap]
  apply List.flatMap_congr
  intro split hsplit
  exact output_runOn target matched projected (hsucceed split hsplit)

/-- However a text is split between its lines and in whatever order the outputs
of the filter are put together, counting them gives every yielded key, in
ascending order, with the number of records that yield it. -/
theorem filtered_splits_are_counted (target : Text) (matched projected : Nat)
    {splits order : List Text} (hcuts : Text.CutsAtLines splits)
    (horder : order.Perm splits)
    (hlines : (Text.lines splits.flatten).length < 2 ^ 63)
    (hsucceeds : (runOn target matched projected splits.flatten).Succeeds)
    (hkeys : ∀ record ∈ recordsOf (Text.lines splits.flatten), ∀ key,
      Yields target matched projected record key →
        '\t' ∉ key ∧ key.beginsBlank = false) :
    (∀ split ∈ splits, (runOn target matched projected split).Succeeds) ∧
    (countSorted (outputsOn target matched projected order)).Succeeds ∧
    ∃ keys : List Text, keys.Pairwise (· < ·) ∧
      (∀ key, key ∈ keys ↔
        ∃ record ∈ recordsOf (Text.lines splits.flatten),
          Yields target matched projected record key) ∧
      (countSorted (outputsOn target matched projected order)).output =
        Fact.stream (keys.map fun key =>
          ⟨key, Numeral.ofNat ((recordsOf (Text.lines splits.flatten)).countP
            fun record => Yields target matched projected record key)⟩) := by
  have hsplits :=
    (runOn_flatten_succeeds_iff target matched projected hcuts).mp hsucceeds
  have horders : ∀ split ∈ order,
      (runOn target matched projected split).Succeeds :=
    fun split hsplit => hsplits split (horder.mem_iff.mp hsplit)
  have hperm : (order.flatMap (yieldedKeys target matched projected)).Perm
      (yieldedKeys target matched projected splits.flatten) := by
    rw [yieldedKeys_flatten target matched projected hcuts]
    exact horder.flatMap_right _
  have hproper : ∀ key ∈ order.flatMap (yieldedKeys target matched projected),
      key.IsKey := by
    intro key hkey
    obtain ⟨record, hrecord, hyields⟩ :=
      (mem_yieldedKeys target matched projected).mp (hperm.mem_iff.mp hkey)
    exact isKey_of_yields hrecord hyields (hkeys record hrecord key hyields)
  have hlength :
      (order.flatMap (yieldedKeys target matched projected)).length < 2 ^ 63 := by
    rw [hperm.length_eq]
    have hle := length_yieldedKeys_le target matched projected splits.flatten
    exact Nat.lt_of_le_of_lt hle hlines
  rw [outputsOn_eq_stream horders, countSorted_once hproper hlength]
  refine ⟨hsplits, ⟨_, rfl⟩,
    Shuffle.ascending (order.flatMap (yieldedKeys target matched projected)),
    Shuffle.pairwise_ascending _, ?_, ?_⟩
  · intro key
    rw [Shuffle.mem_ascending, hperm.mem_iff, mem_yieldedKeys]
  · simp only [hperm.count_eq, count_yieldedKeys]

theorem filtered_splits_are_counted_out_of_order :
    let splits : List Text :=
      ["t,b\n t ,a,\nInterconne,t,c\n".toList, [], "u,z\n\tt, \nt,b\r".toList]
    let order : List Text := [splits[2], splits[0], splits[1]]
    Text.CutsAtLines splits ∧ order.Perm splits ∧
    (runOn ['t'] 0 1 splits.flatten).Succeeds ∧
    (countSorted (outputsOn ['t'] 0 1 order)).Succeeds ∧
    ∃ keys : List Text, keys.Pairwise (· < ·) ∧
      (∀ key, key ∈ keys ↔
        ∃ record ∈ recordsOf (Text.lines splits.flatten),
          Yields ['t'] 0 1 record key) ∧
      (countSorted (outputsOn ['t'] 0 1 order)).output =
        Fact.stream (keys.map fun key =>
          ⟨key, Numeral.ofNat ((recordsOf (Text.lines splits.flatten)).countP
            fun record => Yields ['t'] 0 1 record key)⟩) := by
  intro splits order
  have hcuts : Text.CutsAtLines splits :=
    ⟨.inl (.inr rfl), .inl (.inl rfl), .inr rfl, trivial⟩
  have horder : order.Perm splits := by decide
  have hsucceeds : (runOn ['t'] 0 1 splits.flatten).Succeeds := by
    rw [runOn_succeeds_iff]
    decide
  have hyielded : ∀ key ∈ yieldedKeys ['t'] 0 1 splits.flatten,
      '\t' ∉ key ∧ key.beginsBlank = false := by decide
  have hkeys : ∀ record ∈ recordsOf (Text.lines splits.flatten), ∀ key,
      Yields ['t'] 0 1 record key → '\t' ∉ key ∧ key.beginsBlank = false := by
    intro record hrecord key hyields
    apply hyielded
    exact (mem_yieldedKeys ['t'] 0 1).mpr ⟨record, hrecord, hyields⟩
  have hcounted := filtered_splits_are_counted ['t'] 0 1 hcuts horder
    (by decide) hsucceeds hkeys
  exact ⟨hcuts, horder, hsucceeds, hcounted.2⟩

end FactStream.FieldFilter
