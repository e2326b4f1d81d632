import FactStream.Proofs.Counting.Histogram
import FactStream.Proofs.Percentage.Invariant
import FactStream.Proofs.Text.FirstOccurrences

/-!
# What a percentage table adds up to

A table that has taken some counts holds every key once, in the order of the
first counts, with the sum of its counts, and the sum of all counts besides.  It
takes them all if none of these sums leaves the range on the way.
-/

namespace FactStream

namespace Counting

open KeyCount

/-- Every key that occurs, in the order of the first counts, with the sum of its
counts. -/
def tallies (counts : List KeyCount) : List KeyCount :=
  (counts.map KeyCount.key).eraseDups.map fun key => ⟨key, total key counts⟩

/-- The sum of all counts. -/
def grandTotal (counts : List KeyCount) : Int :=
  (counts.map count).sum

theorem map_key_tallies (counts : List KeyCount) :
    (tallies counts).map KeyCount.key =
      (counts.map KeyCount.key).eraseDups := by
  rw [tallies, List.map_map]
  exact List.map_id _

/-- Tallies are determined by the order of the keys and by their totals. -/
theorem tallies_congr {left right : List KeyCount}
    (hkeys : (left.map KeyCount.key).eraseDups =
      (right.map KeyCount.key).eraseDups)
    (htotals : ∀ key, total key left = total key right) :
    tallies left = tallies right := by
  rw [tallies, tallies, hkeys]
  simp only [htotals]

theorem tallies_concat_of_not_mem {counts : List KeyCount} {next : KeyCount}
    (hkey : next.key ∉ counts.map KeyCount.key) :
    tallies (counts ++ [next]) = tallies counts ++ [next] := by
  rw [tallies, List.map_append, List.map_singleton, Text.eraseDups_concat,
    if_neg hkey, List.map_append, tallies]
  congr 1
  · apply List.map_congr_left
    intro key hmem
    have hne : next.key ≠ key := by
      rintro rfl
      exact hkey (List.mem_eraseDups.mp hmem)
    rw [total_append, total_singleton, if_neg hne, Int.add_zero]
  · rw [List.map_singleton, total_append, total_eq_zero hkey, total_singleton,
      if_pos rfl, Int.zero_add]

theorem tallies_concat_of_mem {counts : List KeyCount} {next : KeyCount}
    (hkey : next.key ∈ counts.map KeyCount.key) :
    tallies (counts ++ [next]) =
      (counts.map KeyCount.key).eraseDups.map fun key =>
        ⟨key, total key counts + if next.key = key then next.count else 0⟩ := by
  rw [tallies, List.map_append, List.map_singleton, Text.eraseDups_concat,
    if_pos hkey]
  simp only [total_append, total_singleton]

/-- One more count of a key that has come before changes one tally. -/
theorem set_tallies {counts : List KeyCount} {next : KeyCount} {place : Nat}
    (hplace : (counts.map KeyCount.key).eraseDups[place]? = some next.key) :
    (tallies counts).set place
        ⟨next.key, total next.key counts + next.count⟩ =
      tallies (counts ++ [next]) := by
  have hmem : next.key ∈ counts.map KeyCount.key :=
    List.mem_eraseDups.mp (List.mem_of_getElem? hplace)
  have hlt := (List.getElem?_eq_some_iff.mp hplace).1
  rw [tallies_concat_of_mem hmem, tallies]
  apply List.ext_getElem?
  intro other
  rw [List.getElem?_set, List.getElem?_map, List.getElem?_map,
    List.length_map]
  by_cases hsame : place = other
  · subst hsame
    rw [if_pos rfl, if_pos hlt, hplace, Option.map_some, if_pos rfl]
  · rw [if_neg hsame]
    apply Option.map_congr
    intro key hother
    have hne : next.key ≠ key := by
      rintro rfl
      exact hsame ((List.getElem?_inj hlt (Text.nodup_eraseDups _)).mp
        (hplace.trans hother.symm))
    rw [if_neg hne, Int.add_zero]

theorem grandTotal_concat (counts : List KeyCount) (next : KeyCount) :
    grandTotal (counts ++ [next]) = grandTotal counts + next.count := by
  rw [grandTotal, List.map_append, List.sum_append, List.map_singleton,
    List.sum_singleton, grandTotal]

end Counting

open Counting

namespace PercentageTable

section Entry

variable {next entry : KeyCount} {entries : List KeyCount} {place : Nat}

/-- A new key is put last. -/
theorem addEntry_of_not_mem (hkey : next.key ∉ entries.map KeyCount.key) :
    addEntry next entries = .ok (entries ++ [next]) := by
  induction entries with
  | nil => rfl
  | cons entry entries ih =>
      rw [List.map_cons, List.mem_cons, not_or] at hkey
      rw [addEntry, if_neg (Ne.symm hkey.1), ih hkey.2]
      rfl

/-- A count is added where its key stands, and nothing else is changed. -/
theorem addEntry_of_getElem? (hkeys : (entries.map KeyCount.key).Nodup)
    (hentry : entries[place]? = some entry) (hkey : entry.key = next.key) :
    addEntry next entries =
      (entry.add next.count).map fun sum => entries.set place sum := by
  induction entries generalizing place with
  | nil => cases hentry
  | cons first entries ih =>
      rw [List.map_cons, List.nodup_cons] at hkeys
      cases place with
      | zero =>
          cases hentry
          rw [addEntry, if_pos hkey]
          rfl
      | succ place =>
          have hmem : next.key ∈ entries.map KeyCount.key :=
            List.mem_map.mpr ⟨entry, List.mem_of_getElem? hentry, hkey⟩
          have hne : first.key ≠ next.key := by
            intro heq
            exact hkeys.1 (heq ▸ hmem)
          rw [addEntry, if_neg hne, ih hkeys.2 hentry]
          cases entry.add next.count <;> rfl

end Entry

/-- The table that has taken some counts. -/
def ofCounts (counts : List KeyCount) : PercentageTable :=
  ⟨tallies counts, grandTotal counts⟩

theorem addEntry_tallies {counts : List KeyCount} {next : KeyCount}
    (hnext : Count.inRange next.count) :
    addEntry next (tallies counts) =
      if Count.inRange (Counting.total next.key counts + next.count) then
        .ok (tallies (counts ++ [next]))
      else .error (.countOverflow next.key) := by
  by_cases hkey : next.key ∈ counts.map KeyCount.key
  · obtain ⟨place, hplace⟩ :=
      List.getElem?_of_mem (List.mem_eraseDups.mpr hkey)
    have hentry : (tallies counts)[place]? =
        some ⟨next.key, Counting.total next.key counts⟩ := by
      rw [tallies, List.getElem?_map, hplace]
      rfl
    have hkeys : ((tallies counts).map KeyCount.key).Nodup := by
      rw [map_key_tallies]
      exact Text.nodup_eraseDups _
    rw [@addEntry_of_getElem? next _ _ _ hkeys hentry rfl]
    by_cases hrange :
        Count.inRange (Counting.total next.key counts + next.count)
    · rw [if_pos hrange, KeyCount.add_of_inRange hrange]
      exact congrArg Except.ok (set_tallies hplace)
    · rw [if_neg hrange, KeyCount.add_of_not_inRange hrange]
      rfl
  · have hnew : next.key ∉ (tallies counts).map KeyCount.key := by
      rw [map_key_tallies, List.mem_eraseDups]
      exact hkey
    rw [total_eq_zero hkey, Int.zero_add, if_pos hnext,
      tallies_concat_of_not_mem hkey]
    exact addEntry_of_not_mem hnew

theorem add_ofCounts {counts : List KeyCount} {next : KeyCount}
    (hnext : Count.inRange next.count) :
    (ofCounts counts).add next =
      if Count.inRange (grandTotal counts + next.count) ∧
          Count.inRange (Counting.total next.key counts + next.count) then
        .ok (ofCounts (counts ++ [next]))
      else .error (.countOverflow next.key) := by
  rw [add, Count.add?, ofCounts]
  by_cases hgrand : Count.inRange (grandTotal counts + next.count)
  · simp only [hgrand, if_true, true_and]
    rw [addEntry_tallies hnext, ofCounts, grandTotal_concat]
    split <;> rfl
  · simp only [hgrand, Bool.false_eq_true, if_false, false_and]

end PercentageTable

namespace Counting

/-- The counts can be added up in their order, all together and those of every
key. -/
def SharesFit (counts : List KeyCount) : Prop :=
  Count.PrefixSumsFit (counts.map KeyCount.count) ∧ KeysInRange counts

theorem sharesFit_nil : SharesFit [] :=
  ⟨Count.prefixSumsFit_nil, keysInRange_nil⟩

theorem sharesFit_concat {counts : List KeyCount} {next : KeyCount} :
    SharesFit (counts ++ [next]) ↔
      SharesFit counts ∧ Count.inRange (grandTotal counts + next.count) ∧
        Count.inRange (total next.key counts + next.count) := by
  rw [SharesFit, SharesFit, keysInRange_concat, List.map_append,
    List.map_singleton, Count.prefixSumsFit_concat, grandTotal]
  tauto

end Counting

end FactStream
