import FactStream.Proofs.Attempts
import FactStream.Proofs.Percentage.Shares
import Mathlib.Algebra.BigOperators.Ring.Finset
import Mathlib.Algebra.Field.Rat

/-!
# A percentage table with an index

The place of a detection among the entries may be looked up in an index instead
of being searched for.  Entries, index and total then say the same thing three
times, and an addition may be refused at two checks, either of which can fail
alone.  A table with an index answers every addition as the one that runs does,
never looks for an entry where there is none, and after any additions holds
exactly what has been added.
-/

namespace FactStream

/-- An index hashes a detection character by character. -/
local instance hashableText : Hashable Text :=
  @instHashableList Char instHashableChar

/-- Why a table with an index does not take a count. -/
inductive TableFault where
  | refused (error : StageError)
  | noEntryAt (place : Nat)
  deriving DecidableEq, Repr

structure IndexedTable where
  entries : List KeyCount
  index : Std.HashMap Text Nat
  total : Int

/-- What a percentage table answers to an addition, and what it is then. -/
def PercentageTable.respond (table : PercentageTable) (added : KeyCount) :
    Except TableFault Unit × PercentageTable :=
  match table.add added with
  | .error error => (.error (.refused error), table)
  | .ok table => (.ok (), table)

namespace IndexedTable

def empty : IndexedTable := ⟨[], ∅, 0⟩

/-- The grand total is checked first.  A detection without a place gets the one
behind all entries. -/
def respond (table : IndexedTable) (added : KeyCount) :
    Except TableFault Unit × IndexedTable :=
  let overflow := TableFault.refused (.countOverflow added.key)
  match Count.add? table.total added.count with
  | none => (.error overflow, table)
  | some total =>
      match table.index[added.key]? with
      | none =>
          (.ok (), ⟨table.entries ++ [added],
            table.index.insert added.key table.entries.length, total⟩)
      | some place =>
          match table.entries[place]? with
          | none => (.error (.noEntryAt place), table)
          | some entry =>
              match Count.add? entry.count added.count with
              | none => (.error overflow, table)
              | some sum =>
                  (.ok (), ⟨table.entries.set place ⟨entry.key, sum⟩,
                    table.index, total⟩)

end IndexedTable

section IsIndexOf

/-- The index leads from every detection to its place among the entries, and
from nothing else to anywhere. -/
def IsIndexOf (index : Std.HashMap Text Nat) (entries : List KeyCount) : Prop :=
  ∀ detection place, index[detection]? = some place ↔
    (entries[place]?).map KeyCount.key = some detection

variable {index : Std.HashMap Text Nat} {entries : List KeyCount}
  {added entry : KeyCount} {place : Nat}

theorem isIndexOf_empty : IsIndexOf ∅ [] := by
  intro detection place
  simp

/-- A detection that stood at two places would have to be led to both. -/
theorem IsIndexOf.place_unique (hindex : IsIndexOf index entries)
    {first second : Nat} {detection : Text}
    (hfirst : (entries[first]?).map KeyCount.key = some detection)
    (hsecond : (entries[second]?).map KeyCount.key = some detection) :
    first = second := by
  rw [← hindex] at hfirst hsecond
  exact Option.some_inj.mp (hfirst.symm.trans hsecond)

theorem IsIndexOf.nodup (hindex : IsIndexOf index entries) :
    (entries.map KeyCount.key).Nodup := by
  rw [List.nodup_iff_getElem?_ne_getElem?]
  intro first second hlt hbound heq
  rw [List.getElem?_eq_getElem hbound] at heq
  have hsecond := List.getElem?_eq_getElem hbound
  rw [List.getElem?_map] at heq hsecond
  exact hlt.ne (hindex.place_unique heq hsecond)

theorem IsIndexOf.not_mem (hindex : IsIndexOf index entries)
    (hnone : index[added.key]? = none) :
    added.key ∉ entries.map KeyCount.key := by
  intro hmem
  obtain ⟨place, hplace⟩ := List.getElem?_of_mem hmem
  rw [List.getElem?_map] at hplace
  rw [(hindex _ place).mpr hplace] at hnone
  cases hnone

theorem IsIndexOf.concat (hindex : IsIndexOf index entries)
    (hnone : index[added.key]? = none) :
    IsIndexOf (index.insert added.key entries.length) (entries ++ [added]) := by
  intro detection place
  rw [Std.HashMap.getElem?_insert]
  by_cases hplace : place = entries.length
  · subst hplace
    rw [List.getElem?_concat_length]
    by_cases hkey : added.key = detection
    · simp [hkey]
    · have hbeyond : index[detection]? ≠ some entries.length := by
        rw [Ne, hindex, List.getElem?_eq_none (le_refl _)]
        simp
      simp [hkey, hbeyond]
  · have hsame : (entries ++ [added])[place]? = entries[place]? := by
      rcases Nat.lt_or_gt_of_ne hplace with hlt | hgt
      · exact List.getElem?_append_left hlt
      · rw [List.getElem?_eq_none hgt.le, List.getElem?_eq_none_iff,
          List.length_append, List.length_singleton]
        exact hgt
    rw [hsame]
    by_cases hkey : added.key = detection
    · subst hkey
      have hold : (entries[place]?).map KeyCount.key ≠ some added.key := by
        rw [← List.getElem?_map]
        exact fun heq => hindex.not_mem hnone (List.mem_of_getElem? heq)
      simp [Ne.symm hplace, hold]
    · simpa [hkey] using hindex detection place

theorem IsIndexOf.set (hindex : IsIndexOf index entries)
    (hentry : entries[place]? = some entry) (sum : Int) :
    IsIndexOf index (entries.set place ⟨entry.key, sum⟩) := by
  intro detection other
  rw [hindex, List.getElem?_set]
  by_cases hplace : place = other
  · subst hplace
    have hlt : place < entries.length :=
      (List.getElem?_eq_some_iff.mp hentry).1
    rw [if_pos rfl, if_pos hlt, hentry]
    rfl
  · rw [if_neg hplace]

/-- An index finds what a search from the first entry on would find. -/
theorem IsIndexOf.eq_findIdx? (hindex : IsIndexOf index entries)
    (detection : Text) :
    index[detection]? = entries.findIdx? fun entry => entry.key == detection := by
  apply Option.ext
  intro place
  rw [hindex, List.findIdx?_eq_some_iff_getElem, Option.map_eq_some_iff]
  constructor
  · rintro ⟨entry, hentry, rfl⟩
    obtain ⟨hlt, rfl⟩ := List.getElem?_eq_some_iff.mp hentry
    refine ⟨hlt, beq_self_eq_true _, fun earlier hearlier hkey => ?_⟩
    have hfirst : (entries[earlier]?).map KeyCount.key =
        some (entries[place]).key := by
      rw [List.getElem?_eq_getElem (hearlier.trans hlt)]
      exact congrArg some (eq_of_beq hkey)
    exact hearlier.ne
      (hindex.place_unique hfirst (congrArg (Option.map KeyCount.key) hentry))
  · rintro ⟨hlt, hkey, -⟩
    exact ⟨entries[place], List.getElem?_eq_getElem hlt, eq_of_beq hkey⟩

end IsIndexOf

namespace IndexedTable

/-- The table holds what a percentage table holds, and an index of it. -/
structure Mirrors (table : IndexedTable) (plain : PercentageTable) : Prop where
  entries : table.entries = plain.entries
  total : table.total = plain.total
  index : IsIndexOf table.index table.entries

theorem mirrors_empty : empty.Mirrors .empty :=
  ⟨rfl, rfl, isIndexOf_empty⟩

/-- The table with an index goes through the same checks in the same order, so
the cases are those of its lookups. -/
theorem Mirrors.respond {table : IndexedTable} {plain : PercentageTable}
    (added : KeyCount) (hmirrors : table.Mirrors plain) :
    (table.respond added).1 = (plain.respond added).1 ∧
      (table.respond added).2.Mirrors (plain.respond added).2 := by
  obtain ⟨entries, index, grand⟩ := table
  obtain ⟨_, _⟩ := plain
  obtain ⟨rfl, rfl, hindex⟩ := hmirrors
  rw [IndexedTable.respond, PercentageTable.respond, PercentageTable.add]
  dsimp only at hindex ⊢
  cases Count.add? grand added.count with
  | none => exact ⟨rfl, rfl, rfl, hindex⟩
  | some sum =>
      cases hplace : index[added.key]? with
      | none =>
          simp only [PercentageTable.addEntry_of_not_mem
            (hindex.not_mem hplace)]
          exact ⟨rfl, rfl, rfl, hindex.concat hplace⟩
      | some place =>
          obtain ⟨entry, hentry, hkey⟩ :=
            Option.map_eq_some_iff.mp ((hindex _ place).mp hplace)
          simp only [hentry, KeyCount.add,
            PercentageTable.addEntry_of_getElem? hindex.nodup hentry hkey]
          cases Count.add? entry.count added.count with
          | none =>
              rw [hkey]
              exact ⟨rfl, rfl, rfl, hindex⟩
          | some sum => exact ⟨rfl, rfl, rfl, hindex.set hentry sum⟩

/-- A refusal leaves entries, index and total as they were. -/
theorem eq_of_respond_error {table left : IndexedTable} {added : KeyCount}
    {fault : TableFault} (hrefuse : table.respond added = (.error fault, left)) :
    left = table := by
  simp only [respond] at hrefuse
  split at hrefuse
  · cases hrefuse
    rfl
  · split at hrefuse
    · cases hrefuse
    · split at hrefuse
      · cases hrefuse
        rfl
      · split at hrefuse
        · cases hrefuse
          rfl
        · cases hrefuse

end IndexedTable

namespace Counting

/-- The exact part of a total that an entry makes up, in percent. -/
def exactShare (total : Int) (entry : KeyCount) : ℚ :=
  100 * entry.count / total

theorem sum_exactShares {entries : List KeyCount}
    (htotal : grandTotal entries ≠ 0) :
    (entries.map (exactShare (grandTotal entries))).sum = 100 := by
  have hcast : (grandTotal entries : ℚ) ≠ 0 := Int.cast_ne_zero.mpr htotal
  have hsum : (entries.map fun entry => (entry.count : ℚ)).sum =
      grandTotal entries := by
    rw [grandTotal, Int.cast_list_sum, List.map_map]
    rfl
  calc (entries.map (exactShare (grandTotal entries))).sum
      = (entries.map fun entry =>
          (entry.count : ℚ) * (100 / grandTotal entries)).sum := by
        congr 2
        funext entry
        rw [exactShare, mul_comm, mul_div_assoc]
    _ = grandTotal entries * (100 / grandTotal entries) := by
        rw [List.sum_map_mul_right, hsum]
    _ = 100 := mul_div_cancel₀ 100 hcast

end Counting

open Counting

namespace PercentageTable

theorem respond_ofCounts {counts : List KeyCount} {next : KeyCount}
    (hnext : Count.inRange next.count) :
    (ofCounts counts).respond next =
      if Count.inRange (grandTotal counts + next.count) ∧
          Count.inRange (Counting.total next.key counts + next.count) then
        (.ok (), ofCounts (counts ++ [next]))
      else (.error (.refused (.countOverflow next.key)), ofCounts counts) := by
  rw [respond, add_ofCounts hnext]
  by_cases hfit : Count.inRange (grandTotal counts + next.count) ∧
      Count.inRange (Counting.total next.key counts + next.count)
  · rw [if_pos hfit, if_pos hfit]
  · rw [if_neg hfit, if_neg hfit]

theorem last_attemptAll {requests : List KeyCount}
    (hrequests : ∀ added ∈ requests, Count.inRange added.count) :
    (attemptAll respond empty requests).last =
      ofCounts (attemptAll respond empty requests).granted := by
  rw [← List.nil_append (Trail.granted _)]
  refine holds_attemptAll (fun taken table => table = ofCounts taken) rfl ?_ ?_
  · rintro taken _ added answer next hmem rfl hgrant
    rw [respond_ofCounts (hrequests added hmem)] at hgrant
    split at hgrant
    · cases hgrant
      rfl
    · cases hgrant
  · rintro taken _ added fault next hmem rfl hrefuse
    rw [respond_ofCounts (hrequests added hmem)] at hrefuse
    split at hrefuse
    · cases hrefuse
    · cases hrefuse
      rfl

end PercentageTable

namespace IndexedTable

/-- Entries, index and total tell exactly which counts have been taken. -/
structure Records (table : IndexedTable) (taken : List KeyCount) : Prop where
  keys_eq : table.entries.map KeyCount.key =
    (taken.map KeyCount.key).eraseDups
  keys_nodup : (table.entries.map KeyCount.key).Nodup
  index : IsIndexOf table.index table.entries
  count_eq : ∀ entry ∈ table.entries,
    entry.count = Counting.total entry.key taken
  total_eq : table.total = (table.entries.map KeyCount.count).sum
  sum_shares : table.total ≠ 0 →
    (table.entries.map (exactShare table.total)).sum = 100

theorem Mirrors.records {table : IndexedTable} {taken : List KeyCount}
    (hmirrors : table.Mirrors (.ofCounts taken)) : table.Records taken where
  keys_eq := by
    rw [hmirrors.entries]
    exact map_key_tallies taken
  keys_nodup := hmirrors.index.nodup
  index := hmirrors.index
  count_eq := by
    rw [hmirrors.entries]
    change ∀ entry ∈ tallies taken, _
    rw [tallies, List.forall_mem_map]
    exact fun key _ => rfl
  total_eq := by
    rw [hmirrors.entries, hmirrors.total]
    exact (grandTotal_tallies taken).symm
  sum_shares := by
    rw [hmirrors.entries, hmirrors.total]
    change grandTotal taken ≠ 0 →
      ((tallies taken).map (exactShare (grandTotal taken))).sum = 100
    rw [← grandTotal_tallies]
    exact sum_exactShares

/-- A table that has taken some counts refuses one more if one of its two new
sums is out of range. -/
theorem Mirrors.refusesIff {table : IndexedTable} {taken : List KeyCount}
    (hmirrors : table.Mirrors (.ofCounts taken)) {next : KeyCount}
    (hnext : Count.inRange next.count) :
    RefusesIff table (table.respond next) (.refused (.countOverflow next.key))
      (¬ Count.inRange (grandTotal taken + next.count) ∨
        ¬ Count.inRange (Counting.total next.key taken + next.count)) := by
  have hanswer := (hmirrors.respond next).1
  rw [PercentageTable.respond_ofCounts hnext] at hanswer
  rcases hrespond : table.respond next with ⟨answer, left⟩
  rw [hrespond] at hanswer
  by_cases hfit : Count.inRange (grandTotal taken + next.count) ∧
      Count.inRange (Counting.total next.key taken + next.count)
  · rw [if_pos hfit] at hanswer
    cases hanswer
    refine .of_ok ?_ rfl
    rw [not_or, not_not, not_not]
    exact hfit
  · rw [if_neg hfit] at hanswer
    cases hanswer
    cases eq_of_respond_error hrespond
    exact .of_error (not_and_or.mp hfit) rfl

/-- Whatever additions an empty table is given, it answers each as the table
without an index does; it holds what has been taken, in the order of first
taking, under an index that leads to every entry and past none; and it refuses
an addition exactly if one of the two new sums is out of range, and then stays
as it was. -/
theorem additions_stay_exact (requests : List KeyCount)
    (hrequests : ∀ added ∈ requests, Count.inRange added.count) :
    let trail := attemptAll respond empty requests
    let plain := attemptAll PercentageTable.respond .empty requests
    let table := trail.last
    let taken := trail.granted
    trail.attempts = plain.attempts ∧
    table.entries = plain.last.entries ∧
    table.total = plain.last.total ∧
    (∀ detection, table.index[detection]? = plain.last.position? detection) ∧
    table.Records taken ∧
    ∀ next, Count.inRange next.count →
      RefusesIff table (table.respond next) (.refused (.countOverflow next.key))
        (¬ Count.inRange (grandTotal taken + next.count) ∨
          ¬ Count.inRange (Counting.total next.key taken + next.count)) := by
  intro trail plain table taken
  obtain ⟨hattempts, hmirrors⟩ :
      trail.attempts = plain.attempts ∧ table.Mirrors plain.last :=
    attemptAll_of_related Mirrors Mirrors.respond mirrors_empty requests
  have htaken : plain.granted = taken :=
    congrArg (List.filterMap Attempt.granted?) hattempts.symm
  have hplain : plain.last = .ofCounts taken :=
    htaken ▸ PercentageTable.last_attemptAll hrequests
  refine ⟨hattempts, hmirrors.entries, hmirrors.total, fun detection => ?_,
    Mirrors.records (hplain ▸ hmirrors),
    fun next => Mirrors.refusesIff (hplain ▸ hmirrors)⟩
  rw [PercentageTable.position?, ← hmirrors.entries]
  exact hmirrors.index.eq_findIdx? detection

theorem additions_stay_exact_past_either_check :
    let limit : Int := 9223372036854775807
    let loop : KeyCount := ⟨"Loop".toList, limit⟩
    let video : KeyCount := ⟨"Video".toList, -5⟩
    let requests := [loop, ⟨"Radar".toList, 1⟩, video, ⟨"Loop".toList, 3⟩]
    let trail := attemptAll respond empty requests
    (∀ added ∈ requests, Count.inRange added.count) ∧
    trail.granted = [loop, video] ∧
    trail.last.entries = [loop, video] ∧
    trail.last.total = limit - 5 ∧
    trail.last.index["Video".toList]? = some 1 ∧
    trail.last.index["Radar".toList]? = none ∧
    ∃ fault left,
      trail.last.respond ⟨"Loop".toList, 3⟩ = (.error fault, left) := by
  intro limit loop video requests trail
  have hrequests : ∀ added ∈ requests, Count.inRange added.count := by decide
  obtain ⟨hattempts, hentries, htotal, hindex, -, hrefuses⟩ :=
    additions_stay_exact requests hrequests
  have htaken : trail.granted = [loop, video] := by
    rw [Trail.granted, hattempts]
    rfl
  refine ⟨hrequests, htaken, hentries.trans rfl, htotal.trans rfl,
    (hindex _).trans rfl, (hindex _).trans rfl, ?_⟩
  apply (hrefuses ⟨"Loop".toList, 3⟩ (by decide)).refused_iff.mpr
  rw [htaken]
  exact .inr (by decide)

end IndexedTable

end FactStream
