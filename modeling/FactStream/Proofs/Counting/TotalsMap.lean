import FactStream.Proofs.Attempts
import FactStream.Proofs.Counting.KeyTotals
import FactStream.Proofs.Stage.Turns

/-!
# Totals in a sorted map

The totals may be kept in a sorted map, where the entry of a key is made, with
zero in it, before its count is added.  A refusal between the two would leave an
entry for a key that nobody has counted.  There is none: a count in range can
only be refused by a total that is there already.  A counter with a map is
therefore responded to as the one that runs, and forgets what it has refused.
-/

namespace FactStream

/-- Texts compare as they are ordered. -/
theorem Text.compare_eq_lt_iff {left right : Text} :
    compare left right = .lt ↔ left < right := by
  induction left generalizing right with
  | nil =>
      cases right with
      | nil => simp
      | cons first right => simp
  | cons first left ih =>
      cases right with
      | nil => simp
      | cons other right =>
          rw [List.compare_cons_cons, Ordering.then_eq_lt, ih,
            List.cons_lt_cons_iff, Std.LawfulEqCmp.compare_eq_iff_eq]
          exact or_congr_left compareOfLessAndEq_eq_lt

/-- Totals by their keys. -/
abbrev TotalsMap := Std.ExtTreeMap Text Int

namespace TotalsMap

open KeyCount Counting

/-- The entry of the key is made first, if there is none. -/
def respond (totals : TotalsMap) (added : KeyCount) :
    Except StageError Unit × TotalsMap :=
  let entered := totals.insertIfNew added.key 0
  match Count.add? (entered.getD added.key 0) added.count with
  | none => (.error (.countOverflow added.key), entered)
  | some sum => (.ok (), entered.insert added.key sum)

/-- The totals in ascending order of their keys. -/
def listed (totals : TotalsMap) : Totals :=
  totals.toList.map fun entry => ⟨entry.1, entry.2⟩

def step (totals : TotalsMap) (line : Text) : Reply TotalsMap Outcome :=
  match ofLine line with
  | .error error => .refuse error totals
  | .ok next =>
      match totals.respond next with
      | (.error error, left) => .refuse error left
      | (.ok (), totals) => .pass totals .consumed

def finish (totals : TotalsMap) : Reply TotalsMap Unit :=
  .write (totals.listed.map fact) ∅ ∅ ()

def stage : Stage TotalsMap :=
  ⟨"count-hash-grouped".toList, ∅, step, finish⟩

section Entered

variable (totals : TotalsMap) (wanted : Text)

/-- An entry that is there already is kept. -/
theorem insertIfNew_of_mem (hmem : wanted ∈ totals) (count : Int) :
    totals.insertIfNew wanted count = totals := by
  apply Std.ExtTreeMap.ext_getElem?
  intro other
  rw [Std.ExtTreeMap.getElem?_insertIfNew, if_neg]
  exact fun hboth => hboth.2 hmem

/-- Nobody sees the zero that an entry is made with. -/
theorem getD_insertIfNew_zero :
    (totals.insertIfNew wanted 0).getD wanted 0 = totals.getD wanted 0 := by
  rw [Std.ExtTreeMap.getD_insertIfNew]
  split
  · rename_i hboth
    rw [Std.ExtTreeMap.getD_eq_fallback hboth.2]
  · rfl

theorem insert_insertIfNew (first count : Int) :
    (totals.insertIfNew wanted first).insert wanted count =
      totals.insert wanted count := by
  apply Std.ExtTreeMap.ext_getElem?
  intro other
  rw [Std.ExtTreeMap.getElem?_insert, Std.ExtTreeMap.getElem?_insert,
    Std.ExtTreeMap.getElem?_insertIfNew]
  by_cases hkey : compare wanted other = .eq
  · rw [if_pos hkey, if_pos hkey]
  · rw [if_neg hkey, if_neg hkey, if_neg fun hboth => hkey hboth.1]

end Entered

/-- The map has an entry for every key of the counts, with the sum of its counts,
and no others. -/
def Records (totals : TotalsMap) (counts : List KeyCount) : Prop :=
  ∀ key, totals[key]? =
    if key ∈ counts.map KeyCount.key then some (total key counts) else none

section Records

variable {totals : TotalsMap} {counts others : List KeyCount} {next : KeyCount}

theorem records_nil : Records ∅ [] := by
  intro wanted
  simp

theorem Records.mem_iff (hrecords : totals.Records counts) (wanted : Text) :
    wanted ∈ counts.map key ↔ wanted ∈ totals := by
  rw [Std.ExtTreeMap.mem_iff_isSome_getElem?, hrecords]
  split
  · rename_i hmem
    exact iff_of_true hmem rfl
  · rename_i hmem
    exact iff_of_false hmem Bool.false_ne_true

theorem Records.total_eq (hrecords : totals.Records counts) (wanted : Text) :
    total wanted counts = totals.getD wanted 0 := by
  rw [Std.ExtTreeMap.getD_eq_getD_getElem?, hrecords]
  split
  · rfl
  · rename_i hmem
    exact total_eq_zero hmem

/-- Counts that are recorded by one map have one histogram. -/
theorem Records.histogram_eq (hcounts : totals.Records counts)
    (hothers : totals.Records others) :
    histogram counts = histogram others :=
  histogram_congr
    (fun wanted => (hcounts.mem_iff wanted).trans (hothers.mem_iff wanted).symm)
    fun wanted => (hcounts.total_eq wanted).trans (hothers.total_eq wanted).symm

theorem Records.insert (hrecords : totals.Records counts) :
    Records (totals.insert next.key (total next.key counts + next.count))
      (counts ++ [next]) := by
  intro wanted
  rw [Std.ExtTreeMap.getElem?_insert, hrecords, total_append, total_singleton]
  by_cases hkey : next.key = wanted
  · subst hkey
    simp
  · simp [hkey, Ne.symm hkey]

/-- A count is added to the total of its key, or it is refused with the map as
it was: where there was no entry, there was no sum to leave the range. -/
theorem Records.respond_eq (hrecords : totals.Records counts)
    (hnext : Count.inRange next.count) :
    totals.respond next =
      if Count.inRange (total next.key counts + next.count) then
        (.ok (),
          totals.insert next.key (total next.key counts + next.count))
      else (.error (.countOverflow next.key), totals) := by
  simp only [respond, getD_insertIfNew_zero, insert_insertIfNew,
    ← hrecords.total_eq, Count.add?]
  by_cases hrange : Count.inRange (total next.key counts + next.count)
  · simp only [hrange, if_true]
  · have hmem : next.key ∈ counts.map key := by
      by_contra hnone
      rw [total_eq_zero hnone, Int.zero_add] at hrange
      exact hrange hnext
    rw [hrecords.mem_iff] at hmem
    simp only [hrange, Bool.false_eq_true, if_false,
      insertIfNew_of_mem _ _ hmem]

end Records

section Listed

variable {totals : TotalsMap} {counts : List KeyCount}

theorem mem_listed {entry : KeyCount} :
    entry ∈ totals.listed ↔ totals[entry.key]? = some entry.count := by
  rw [← Std.ExtTreeMap.mem_toList_iff_getElem?_eq_some, listed, List.mem_map]
  constructor
  · rintro ⟨pair, hpair, rfl⟩
    exact hpair
  · intro hpair
    exact ⟨(entry.key, entry.count), hpair, rfl⟩

theorem pairwise_listed (totals : TotalsMap) :
    (totals.listed.map key).Pairwise (· < ·) := by
  rw [listed, List.map_map, List.pairwise_map]
  exact totals.ordered_keys_toList.imp Text.compare_eq_lt_iff.mp

theorem total_listed {entry : KeyCount} (hentry : entry ∈ totals.listed) :
    total entry.key totals.listed = entry.count := by
  have hkeys : (totals.listed.map key).Nodup :=
    (pairwise_listed totals).imp ne_of_lt
  rw [total, countsOf_of_nodup hkeys hentry, List.sum_singleton]

theorem histogram_listed (totals : TotalsMap) :
    histogram totals.listed = totals.listed := by
  have hsame : ∀ entry ∈ totals.listed,
      KeyCount.mk entry.key (total entry.key totals.listed) = entry := by
    intro entry hentry
    rw [total_listed hentry]
  rw [histogram, Shuffle.ascending_of_pairwise (pairwise_listed totals),
    List.map_map]
  exact (List.map_congr_left hsame).trans (List.map_id _)

/-- Any map records the counts that it lists. -/
theorem records_listed (totals : TotalsMap) : totals.Records totals.listed := by
  intro wanted
  cases hentry : totals[wanted]? with
  | none =>
      rw [if_neg]
      intro hmem
      obtain ⟨entry, hlisted, rfl⟩ := List.mem_map.mp hmem
      rw [mem_listed, hentry] at hlisted
      cases hlisted
  | some count =>
      have hlisted : KeyCount.mk wanted count ∈ totals.listed :=
        mem_listed.mpr hentry
      rw [if_pos (List.mem_map_of_mem hlisted)]
      exact congrArg some (total_listed hlisted).symm

/-- A map lists the histogram of the counts that it records. -/
theorem Records.listed_eq (hrecords : totals.Records counts) :
    totals.listed = histogram counts := by
  rw [← histogram_listed, (records_listed totals).histogram_eq hrecords]

theorem listed_empty : listed ∅ = [] :=
  records_nil.listed_eq.trans histogram_nil

end Listed

section Stage

/-- Totals in a list take a count as the map that lists them does. -/
theorem add_listed (totals : TotalsMap) {next : KeyCount}
    (hnext : Count.inRange next.count) :
    Totals.add next totals.listed =
      (totals.respond next).1.map fun _ => (totals.respond next).2.listed := by
  have hrecords := records_listed totals
  have hadd := @add_histogram totals.listed next hnext
  rw [histogram_listed, ← hrecords.insert.listed_eq] at hadd
  rw [hadd, hrecords.respond_eq hnext]
  by_cases hrange : Count.inRange (total next.key totals.listed + next.count)
  · rw [if_pos hrange, if_pos hrange]
    rfl
  · rw [if_neg hrange, if_neg hrange]
    rfl

/-- A refusal leaves no entry behind. -/
theorem eq_of_respond_error {totals left : TotalsMap} {added : KeyCount}
    {error : StageError} (hadded : Count.inRange added.count)
    (hrefuse : totals.respond added = (.error error, left)) :
    left = totals := by
  rw [(records_listed totals).respond_eq hadded] at hrefuse
  split at hrefuse
  · cases hrefuse
  · cases hrefuse
    rfl

theorem step_listed (totals : TotalsMap) (line : Text) :
    GroupedCount.step totals.listed line = (totals.step line).map listed := by
  cases hread : ofLine line with
  | error error =>
      rw [GroupedCount.step, step, hread]
      rfl
  | ok next =>
      have hnext := inRange_of_ofLine hread
      have hadd := add_listed totals hnext
      rw [GroupedCount.step, step, hread]
      rcases hrespond : totals.respond next with ⟨error | answer, left⟩
      · rw [hrespond] at hadd
        simp only [hadd, hrespond, Except.map,
          eq_of_respond_error hnext hrespond]
        rfl
      · rw [hrespond] at hadd
        simp only [hadd, hrespond, Except.map]
        rfl

/-- The counter that runs does with the totals that a map lists what the counter
with the map does. -/
theorem mirrors_stage : GroupedCount.stage.Mirrors stage listed where
  initial := listed_empty.symm
  step := step_listed
  finish totals := by
    change _ = Reply.write (totals.listed.map fact) (listed ∅) (listed ∅) ()
    rw [listed_empty]
    rfl

theorem keepsState_stage : stage.KeepsState where
  step := by
    intro totals line error left hstep
    change step totals line = _ at hstep
    rw [step] at hstep
    split at hstep
    · cases hstep
      rfl
    · rename_i next hread
      split at hstep
      · rename_i hrespond
        cases hstep
        exact eq_of_respond_error (inRange_of_ofLine hread) hrespond
      · cases hstep
  finish := nofun

/-- On any input and with any sink the counter with a map reports what the one
that runs reports. -/
theorem run_eq_grouped (sink : Sink) (input : Bytes) :
    stage.run sink input = GroupedCount.stage.run sink input :=
  (mirrors_stage.run_eq rfl sink input).symm

/-- Driven by hand it forgets what it has refused, as that one does. -/
theorem forgetsFailures_stage : stage.ForgetsFailures :=
  keepsState_stage.forgetsFailures

end Stage

/-- What has been granted is recorded, and nothing else is. -/
theorem records_attemptAll {requests : List KeyCount}
    (hrequests : ∀ added ∈ requests, Count.inRange added.count) :
    (attemptAll respond ∅ requests).last.Records
      (attemptAll respond ∅ requests).granted := by
  rw [← List.nil_append (Trail.granted _)]
  refine holds_attemptAll
    (fun taken (totals : TotalsMap) => totals.Records taken) records_nil ?_ ?_
  · intro taken totals added answer next hmem hrecords hgrant
    rw [hrecords.respond_eq (hrequests added hmem)] at hgrant
    split at hgrant
    · cases hgrant
      exact hrecords.insert
    · cases hgrant
  · intro taken totals added fault next hmem hrecords hrefuse
    rwa [eq_of_respond_error (hrequests added hmem) hrefuse]

theorem Records.refusesIff {totals : TotalsMap} {counts : List KeyCount}
    (hrecords : totals.Records counts) {next : KeyCount}
    (hnext : Count.inRange next.count) :
    RefusesIff totals (totals.respond next) (.countOverflow next.key)
      (¬ Count.inRange (total next.key counts + next.count)) := by
  by_cases hrange : Count.inRange (total next.key counts + next.count)
  · apply RefusesIff.of_ok (not_not.mpr hrange)
    rw [hrecords.respond_eq hnext, if_pos hrange]
  · apply RefusesIff.of_error hrange
    rw [hrecords.respond_eq hnext, if_neg hrange]

/-- Whatever counts an empty map is given, it has an entry for every key of the
counts it has taken and for no other; it refuses a count exactly if the new
total is out of range, and then has no entry that it had not before. -/
theorem entries_are_taken (requests : List KeyCount)
    (hrequests : ∀ added ∈ requests, Count.inRange added.count) :
    let trail := attemptAll respond ∅ requests
    let taken := trail.granted
    trail.last.Records taken ∧
    trail.last.listed = histogram taken ∧
    ∀ next, Count.inRange next.count →
      RefusesIff trail.last (trail.last.respond next) (.countOverflow next.key)
        (¬ Count.inRange (total next.key taken + next.count)) := by
  intro trail taken
  have hrecords : trail.last.Records taken := records_attemptAll hrequests
  exact ⟨hrecords, hrecords.listed_eq, fun _ => hrecords.refusesIff⟩

end TotalsMap

end FactStream
