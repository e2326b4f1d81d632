import FactStream.Proofs.Counting.Agreement
import FactStream.Proofs.Counting.Chunking

/-!
# What the grouping counter makes of any lines

The grouping counter holds the histogram of the counts read so far and writes it
at the end.  Whether it gets there depends on the order of the counts only
through the sums on the way, so a shuffled input can make it fail, but never
makes it write anything else.
-/

namespace FactStream

theorem Totals.add_of_lt {next : KeyCount} {totals : Totals}
    (htotals : ∀ total ∈ totals, next.key < total.key) :
    add next totals = .ok (next :: totals) := by
  cases totals with
  | nil => rfl
  | cons total totals =>
      have hlt : next.key < total.key := htotals total List.mem_cons_self
      rw [add, if_neg (ne_of_gt hlt), if_pos hlt]

namespace Counting

open KeyCount Shuffle

/-- The keys of the counts that are below a key. -/
def keysBelow (wanted : Text) (counts : List KeyCount) : List Text :=
  (ascending (counts.map key)).filter (· < wanted)

def keysAbove (wanted : Text) (counts : List KeyCount) : List Text :=
  (ascending (counts.map key)).filter (wanted < ·)

/-- The totals of some of the keys. -/
def totalsOf (counts : List KeyCount) (keys : List Text) : Totals :=
  keys.map fun key => ⟨key, total key counts⟩

variable {counts : List KeyCount} {next : KeyCount} {wanted : Text}

theorem lt_of_mem_keysBelow :
    ∀ other ∈ keysBelow wanted counts, other < wanted := fun _ hother =>
  of_decide_eq_true (List.mem_filter.mp hother).2

theorem lt_of_mem_keysAbove :
    ∀ other ∈ keysAbove wanted counts, wanted < other := fun _ hother =>
  of_decide_eq_true (List.mem_filter.mp hother).2

theorem totalsOf_concat {keys : List Text}
    (hkeys : ∀ key ∈ keys, next.key ≠ key) :
    totalsOf (counts ++ [next]) keys = totalsOf counts keys := by
  apply List.map_congr_left
  intro key hkey
  rw [total_append, total_singleton, if_neg (hkeys key hkey), Int.add_zero]

theorem histogram_nil : histogram [] = [] := by
  rw [histogram, List.map_nil, ascending_of_pairwise List.Pairwise.nil,
    List.map_nil]

theorem histogram_of_mem (hwanted : wanted ∈ counts.map key) :
    histogram counts = totalsOf counts (keysBelow wanted counts) ++
      ⟨wanted, total wanted counts⟩ ::
        totalsOf counts (keysAbove wanted counts) := by
  have hkeys : ascending (counts.map key) =
      keysBelow wanted counts ++ ([wanted] ++ keysAbove wanted counts) := by
    apply ascending_around (.inr rfl)
    intro other
    by_cases hother : other = wanted
    · simpa [hother] using hwanted
    · simp [hother]
  rw [histogram, hkeys, List.map_append, List.map_append]
  rfl

theorem histogram_of_not_mem (hwanted : wanted ∉ counts.map key) :
    histogram counts = totalsOf counts (keysBelow wanted counts) ++
      totalsOf counts (keysAbove wanted counts) := by
  have hkeys : ascending (counts.map key) =
      keysBelow wanted counts ++ ([] ++ keysAbove wanted counts) := by
    apply ascending_around (.inl rfl)
    intro other
    by_cases hother : other = wanted
    · simpa [hother] using hwanted
    · simp [hother]
  rw [histogram, hkeys, List.nil_append, List.map_append]
  rfl

theorem histogram_concat (counts : List KeyCount) (next : KeyCount) :
    histogram (counts ++ [next]) =
      totalsOf counts (keysBelow next.key counts) ++
        ⟨next.key, total next.key counts + next.count⟩ ::
          totalsOf counts (keysAbove next.key counts) := by
  have hkeys : ascending ((counts ++ [next]).map key) =
      keysBelow next.key counts ++ ([next.key] ++ keysAbove next.key counts) := by
    apply ascending_around (.inr rfl)
    intro other
    simp only [List.map_append, List.mem_append, List.map_singleton,
      List.mem_singleton]
    tauto
  have hbelow : ∀ other ∈ keysBelow next.key counts, next.key ≠ other :=
    fun other hother => ne_of_gt (lt_of_mem_keysBelow other hother)
  have habove : ∀ other ∈ keysAbove next.key counts, next.key ≠ other :=
    fun other hother => ne_of_lt (lt_of_mem_keysAbove other hother)
  rw [← totalsOf_concat hbelow, ← totalsOf_concat habove, histogram, hkeys,
    List.map_append, List.map_append, List.map_singleton, total_append,
    total_singleton, if_pos rfl]
  rfl

/-- A count is added to the total of its key, or it is the first total of a key
that has not occurred. -/
theorem add_histogram (hnext : Count.inRange next.count) :
    Totals.add next (histogram counts) =
      if Count.inRange (total next.key counts + next.count) then
        .ok (histogram (counts ++ [next]))
      else .error (.countOverflow next.key) := by
  have hbelow : ∀ total ∈ totalsOf counts (keysBelow next.key counts),
      total.key < next.key := List.forall_mem_map.mpr lt_of_mem_keysBelow
  have habove : ∀ total ∈ totalsOf counts (keysAbove next.key counts),
      next.key < total.key := List.forall_mem_map.mpr lt_of_mem_keysAbove
  rw [histogram_concat]
  -- The totals below the key are passed over either way.
  by_cases hkey : next.key ∈ counts.map key
  · rw [histogram_of_mem hkey, Totals.add_append hbelow, Totals.add,
      if_pos rfl]
    split
    · rename_i hrange
      rw [add_of_inRange hrange]
      rfl
    · rename_i hover
      rw [add_of_not_inRange hover]
      rfl
  · rw [histogram_of_not_mem hkey, Totals.add_append hbelow,
      Totals.add_of_lt habove, total_eq_zero hkey, Int.zero_add, if_pos hnext]
    rfl

end Counting

namespace GroupedCount

open KeyCount Counting Shuffle

def ledger : Ledger Totals where
  Fits := KeysInRange
  written _ := []
  held := histogram

theorem step_of_ofLine {line : Text} {next : KeyCount}
    (hread : ofLine line = .ok next) (totals : Totals) :
    step totals line = absorb totals next := by
  rw [step, hread]
  rfl

theorem keeps_ledger : Keeps stage ledger where
  fits_nil := keysInRange_nil
  fits_of_concat _ hfits := (keysInRange_concat.mp hfits).1
  written_nil := rfl
  held_nil := histogram_nil
  unread := by
    intro state line error hread
    change step state line = _
    rw [step, hread]
  accept := by
    intro counts next line hread hcounts hfits
    rw [List.forall_mem_append, List.forall_mem_singleton] at hcounts
    have hrange := (keysInRange_concat.mp hfits).2
    refine ⟨[], histogram (counts ++ [next]), ?_, rfl⟩
    change step (histogram counts) line = _
    rw [step_of_ofLine hread, absorb, add_histogram hcounts.2.inRange,
      if_pos hrange]
    rfl
  overflow := by
    intro counts next line hread hcounts hfits hover
    rw [List.forall_mem_append, List.forall_mem_singleton] at hcounts
    have hrange : ¬ Count.inRange (total next.key counts + next.count) :=
      fun hrange => hover (keysInRange_concat.mpr ⟨hfits, hrange⟩)
    refine ⟨histogram counts, ?_⟩
    change step (histogram counts) line = _
    rw [step_of_ofLine hread, absorb, add_histogram hcounts.2.inRange,
      if_neg hrange]

theorem alwaysFinishes_stage : stage.AlwaysFinishes :=
  fun _ => ⟨_, _, _, rfl⟩

theorem succeeds_iff_keysInRange (text : Text) :
    (stage.run .unbounded text.encode).Succeeds ↔
      AreCounts text.lines ∧ KeysInRange (ofLines text.lines) :=
  keeps_ledger.follows.succeeds_iff_accepts alwaysFinishes_stage

theorem run_of_keysInRange {text : Text} (hcounts : AreCounts text.lines)
    (hfits : KeysInRange (ofLines text.lines)) :
    stage.run .unbounded text.encode =
      ⟨Fact.stream ((histogram (ofLines text.lines)).map fact),
        .ok ⟨stage.name, text.lines.length,
          (histogram (ofLines text.lines)).length, 0⟩⟩ := by
  rw [keeps_ledger.follows.run_of_accepts ⟨hcounts, hfits⟩ rfl]
  simp only [ledger, Ledger.history, List.nil_append, List.length_map]

theorem output_of_succeeds {text : Text}
    (hsucceeds : (stage.run .unbounded text.encode).Succeeds) :
    (stage.run .unbounded text.encode).output =
      Fact.stream ((histogram (ofLines text.lines)).map fact) := by
  obtain ⟨hcounts, hfits⟩ := (succeeds_iff_keysInRange text).mp hsucceeds
  rw [run_of_keysInRange hcounts hfits]

end GroupedCount

namespace KeyCount

variable {lines others : List Text}

theorem areCounts_congr (hperm : others.Perm lines) :
    AreCounts others ↔ AreCounts lines := by
  simp only [AreCounts, hperm.mem_iff]

theorem ofLines_perm (hperm : others.Perm lines) :
    (ofLines others).Perm (ofLines lines) :=
  hperm.filterMap _

end KeyCount

namespace Counting

open KeyCount

variable {counts others : List KeyCount}

theorem total_congr (hperm : others.Perm counts) (wanted : Text) :
    total wanted others = total wanted counts :=
  ((hperm.filter _).map count).sum_eq

theorem histogram_eq_of_perm (hperm : others.Perm counts) :
    histogram others = histogram counts :=
  histogram_congr (fun _ => (hperm.map key).mem_iff) (total_congr hperm)

/-- Without negative counts the order does not matter to the sums. -/
theorem keysInRange_congr (hperm : others.Perm counts)
    (hnonneg : ∀ total ∈ counts, 0 ≤ total.count) :
    KeysInRange others ↔ KeysInRange counts := by
  have hothers : ∀ total ∈ others, 0 ≤ total.count := fun other hother =>
    hnonneg other (hperm.mem_iff.mp hother)
  rw [keysInRange_iff_of_nonneg hnonneg, keysInRange_iff_of_nonneg hothers]
  simp only [total_congr hperm]

end Counting

namespace GroupedCount

open KeyCount Counting Shuffle

/-- On any lines the counter writes the total of every key, in ascending order
of the keys, or nothing at all, because one of the lines is no count or takes the
total of its key out of range.  In any other order of the lines it writes the
same, if it succeeds, and without negative counts it then does. -/
theorem run_writes_key_totals (text : Text) :
    let report := stage.run .unbounded text.encode
    let counts := ofLines text.lines
    (report.Succeeds ↔ AreCounts text.lines ∧ KeysInRange counts) ∧
      (report.Succeeds → ∃ keys : List Text, keys.Pairwise (· < ·) ∧
        (∀ key, key ∈ keys ↔ key ∈ counts.map KeyCount.key) ∧
        report =
          ⟨Fact.stream (keys.map fun key =>
            (KeyCount.mk key (countsOf key counts).sum).fact),
            .ok ⟨stage.name, text.lines.length, keys.length, 0⟩⟩) ∧
      (¬ report.Succeeds → ∃ before line after error,
        text.lines = before ++ line :: after ∧
        AreCounts before ∧ KeysInRange (ofLines before) ∧
        Offends KeysInRange (ofLines before) line error ∧
        report = ⟨[], .error ⟨some (before.length + 1), error⟩⟩) ∧
      ∀ other : Text, other.lines.Perm text.lines →
        let again := stage.run .unbounded other.encode
        (report.Succeeds → again.Succeeds → again.output = report.output) ∧
        ((∀ total ∈ counts, 0 ≤ total.count) →
          (report.Succeeds ↔ again.Succeeds)) := by
  intro report counts
  refine ⟨succeeds_iff_keysInRange text, fun hsucceeds => ?_, fun hfails => ?_,
    fun other hperm => ⟨fun hsucceeds hagain => ?_, fun hnonneg => ?_⟩⟩
  · obtain ⟨hcounts, hfits⟩ := (succeeds_iff_keysInRange text).mp hsucceeds
    refine ⟨ascending (counts.map KeyCount.key), pairwise_ascending _,
      fun _ => mem_ascending, ?_⟩
    have hrun := run_of_keysInRange hcounts hfits
    rw [histogram, List.length_map, List.map_map] at hrun
    exact hrun
  · obtain ⟨before, line, after, error, hlines, hbefore, hoffends, hrun⟩ :=
      keeps_ledger.follows.run_of_not_succeeds alwaysFinishes_stage hfails
    exact ⟨before, line, after, error, hlines, hbefore.1, hbefore.2, hoffends,
      hrun⟩
  · rw [output_of_succeeds hagain, output_of_succeeds hsucceeds,
      histogram_eq_of_perm (ofLines_perm hperm)]
  · rw [succeeds_iff_keysInRange, succeeds_iff_keysInRange,
      areCounts_congr hperm, keysInRange_congr (ofLines_perm hperm) hnonneg]

theorem run_writes_key_totals_on_reordered_lines :
    let text : Text := "b\t9223372036854775806\na\t2\nb\t1\tmore".toList
    let other : Text := "b\t1\tmore\nb\t9223372036854775806\na\t2\n".toList
    let overflowing : Text := "b\t9223372036854775807\na\t2\nb\t1".toList
    (stage.run .unbounded text.encode).Succeeds ∧
      (stage.run .unbounded other.encode).Succeeds ∧
      (stage.run .unbounded other.encode).output =
        (stage.run .unbounded text.encode).output ∧
      (stage.run .unbounded overflowing.encode).output = [] := by
  intro text other overflowing
  have hsucceeds := (run_writes_key_totals text).1.mpr (by decide +kernel)
  obtain ⟨houtput, hnonneg⟩ :=
    (run_writes_key_totals text).2.2.2 other (by decide +kernel)
  have hagain := (hnonneg (by decide +kernel)).mp hsucceeds
  have hfails : ¬ (stage.run .unbounded overflowing.encode).Succeeds := by
    rw [(run_writes_key_totals overflowing).1]
    decide +kernel
  obtain ⟨before, line, after, error, -, -, -, -, hrun⟩ :=
    (run_writes_key_totals overflowing).2.2.1 hfails
  refine ⟨hsucceeds, hagain, houtput hsucceeds hagain, ?_⟩
  rw [hrun]

end GroupedCount

end FactStream
