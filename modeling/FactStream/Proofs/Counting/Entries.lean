import FactStream.Counting.Grouped
import FactStream.Percentage.Table
import FactStream.Proofs.Counting.KeyCount

/-!
# Adding a count to a list of totals

The grouping counter and the percentage table hold a list with a total for every
key.  They differ in where a new key goes, but either way a count is put into
the list or added to the total of its key, or refused because that total would
leave the range.
-/

namespace FactStream

namespace KeyCount

/-- A count is put somewhere into a list of totals, or added to one of them. -/
inductive AddsTo (next : KeyCount) : List KeyCount → List KeyCount → Prop
  | put (totals : List KeyCount) : AddsTo next totals (next :: totals)
  | sum {total : KeyCount} (totals : List KeyCount)
      (hkey : total.key = next.key)
      (hrange : Count.inRange (total.count + next.count)) :
      AddsTo next (total :: totals)
        (⟨total.key, total.count + next.count⟩ :: totals)
  | behind (total : KeyCount) {totals more : List KeyCount}
      (hmore : AddsTo next totals more) :
      AddsTo next (total :: totals) (total :: more)

namespace AddsTo

variable {next : KeyCount} {totals more : List KeyCount}

theorem ne_nil (hadds : AddsTo next totals more) : more ≠ [] := by
  cases hadds <;> exact List.cons_ne_nil _ _

/-- A count makes for at most one more total. -/
theorem length_le (hadds : AddsTo next totals more) :
    more.length ≤ totals.length + 1 := by
  induction hadds with
  | put totals => exact le_refl _
  | sum totals hkey hrange => exact Nat.le_succ _
  | behind total hmore ih => exact Nat.succ_le_succ ih

/-- No key is new but that of the count. -/
theorem forall_key (Holds : Text → Prop) (hadds : AddsTo next totals more)
    (htotals : ∀ total ∈ totals, Holds total.key) (hnext : Holds next.key) :
    ∀ total ∈ more, Holds total.key := by
  induction hadds with
  | put totals => exact List.forall_mem_cons.mpr ⟨hnext, htotals⟩
  | sum totals hkey hrange =>
      rw [List.forall_mem_cons] at htotals ⊢
      exact htotals
  | behind total hmore ih =>
      rw [List.forall_mem_cons] at htotals ⊢
      exact ⟨htotals.1, ih htotals.2⟩

theorem forall_inRange (hadds : AddsTo next totals more)
    (htotals : ∀ total ∈ totals, Count.inRange total.count)
    (hnext : Count.inRange next.count) :
    ∀ total ∈ more, Count.inRange total.count := by
  induction hadds with
  | put totals => exact List.forall_mem_cons.mpr ⟨hnext, htotals⟩
  | sum totals hkey hrange =>
      rw [List.forall_mem_cons] at htotals ⊢
      exact ⟨hrange, htotals.2⟩
  | behind total hmore ih =>
      rw [List.forall_mem_cons] at htotals ⊢
      exact ⟨htotals.1, ih htotals.2⟩

theorem forall_isFramed (hadds : AddsTo next totals more)
    (htotals : ∀ total ∈ totals, total.IsFramed) (hnext : next.IsFramed) :
    ∀ total ∈ more, total.IsFramed := by
  intro total hmem
  exact {
    isKey := hadds.forall_key Text.IsKey
      (fun other hother => (htotals other hother).isKey) hnext.isKey total hmem
    inRange := hadds.forall_inRange
      (fun other hother => (htotals other hother).inRange) hnext.inRange total
      hmem }

end AddsTo

/-- A count is added to a list of totals, or it is refused under its key. -/
def AddsOrRefuses (next : KeyCount) (totals : List KeyCount)
    (attempt : Except StageError (List KeyCount)) : Prop :=
  (∃ more, attempt = .ok more ∧ next.AddsTo totals more) ∨
    attempt = .error (.countOverflow next.key)

section Attempt

variable {next total : KeyCount} {totals : List KeyCount}

theorem addsOrRefuses_put :
    next.AddsOrRefuses totals (.ok (next :: totals)) :=
  .inl ⟨_, rfl, .put totals⟩

theorem addsOrRefuses_sum (hkey : total.key = next.key) :
    next.AddsOrRefuses (total :: totals)
      ((total.add next.count).map (· :: totals)) := by
  rcases total.add_cases next.count with ⟨hrange, hsum⟩ | hover
  · left
    rw [hsum]
    exact ⟨_, rfl, .sum totals hkey hrange⟩
  · right
    rw [hover, hkey]
    rfl

theorem addsOrRefuses_behind {attempt : Except StageError (List KeyCount)}
    (hattempt : next.AddsOrRefuses totals attempt) :
    next.AddsOrRefuses (total :: totals) (attempt.map (total :: ·)) := by
  rcases hattempt with ⟨more, rfl, hadds⟩ | rfl
  · left
    exact ⟨_, rfl, .behind total hadds⟩
  · right
    rfl

end Attempt

end KeyCount

open KeyCount

theorem Totals.addsOrRefuses_add (next : KeyCount) (totals : Totals) :
    next.AddsOrRefuses totals (totals.add next) := by
  induction totals with
  | nil => exact addsOrRefuses_put
  | cons total totals ih =>
      rw [add]
      split
      · rename_i hkey
        exact addsOrRefuses_sum hkey
      · split
        · exact addsOrRefuses_put
        · exact addsOrRefuses_behind ih

namespace PercentageTable

theorem addsOrRefuses_addEntry (next : KeyCount) (entries : List KeyCount) :
    next.AddsOrRefuses entries (addEntry next entries) := by
  induction entries with
  | nil => exact addsOrRefuses_put
  | cons entry entries ih =>
      rw [addEntry]
      split
      · rename_i hkey
        exact addsOrRefuses_sum hkey
      · exact addsOrRefuses_behind ih

/-- A table adds a count to its entries and to its total, or refuses it. -/
theorem add_cases (next : KeyCount) (table : PercentageTable) :
    (∃ entries, table.add next = .ok ⟨entries, table.total + next.count⟩ ∧
      next.AddsTo table.entries entries) ∨
      table.add next = .error (.countOverflow next.key) := by
  rw [add, Count.add?]
  by_cases hrange : Count.inRange (table.total + next.count)
  · rw [if_pos hrange]
    rcases addsOrRefuses_addEntry next table.entries with
      ⟨more, hmore, hadds⟩ | hover
    · left
      exact ⟨more, by rw [hmore]; rfl, hadds⟩
    · right
      rw [hover]
      rfl
  · right
    rw [if_neg hrange]

end PercentageTable

end FactStream
