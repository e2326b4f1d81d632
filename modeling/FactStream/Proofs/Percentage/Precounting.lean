import FactStream.Proofs.Counting.Invariant
import FactStream.Proofs.Percentage.Shares

/-!
# Counting before taking percentages

The streaming counter adds up neighbouring counts of one key.  That changes
neither the order in which keys first come nor any total, so percentages of what
it has written are percentages of what it has read.  Without negative counts the
grand total is the largest of all sums, so it alone decides whether a sum leaves
the range, in either order of doing things.
-/

namespace FactStream

namespace Counting

open KeyCount

section Runs

theorem total_cons (key : Text) (next : KeyCount) (counts : List KeyCount) :
    total key (next :: counts) =
      (if next.key = key then next.count else 0) + total key counts := by
  rw [← List.singleton_append, total_append, total_singleton]

/-- Adding up the first two counts, if they are of one key, changes nothing that
is computed of a list. -/
structure IgnoresMerging {Result : Type} (compute : List KeyCount → Result) :
    Prop where
  merge : ∀ {held next : KeyCount} (counts : List KeyCount),
    held.key = next.key →
      compute (⟨held.key, held.count + next.count⟩ :: counts) =
        compute (held :: next :: counts)
  cons : ∀ (first : KeyCount) {left right : List KeyCount},
    compute left = compute right →
      compute (first :: left) = compute (first :: right)

/-- A run that is added up counts as one of its counts after the other. -/
theorem IgnoresMerging.apply_run {Result : Type}
    {compute : List KeyCount → Result} (hignores : IgnoresMerging compute)
    {wanted : Text} {run : List KeyCount} (hne : run ≠ [])
    (hrun : ∀ total ∈ run, total.key = wanted) (rest : List KeyCount) :
    compute (⟨wanted, (run.map KeyCount.count).sum⟩ :: rest) =
      compute (run ++ rest) := by
  induction run using List.reverseRecOn generalizing rest with
  | nil => exact absurd rfl hne
  | append_singleton run next ih =>
      rw [List.forall_mem_append, List.forall_mem_singleton] at hrun
      obtain ⟨hrun, rfl⟩ := hrun
      by_cases hfirst : run = []
      · simp [hfirst]
      · rw [List.map_append, List.sum_append, List.map_singleton,
          List.sum_singleton]
        let held : KeyCount := ⟨next.key, (run.map KeyCount.count).sum⟩
        calc
          compute (⟨held.key, held.count + next.count⟩ :: rest) =
              compute (held :: next :: rest) := hignores.merge rest rfl
          _ = compute (run ++ next :: rest) := ih hfirst hrun (next :: rest)
          _ = compute (run ++ [next] ++ rest) := by
            rw [List.append_assoc, List.singleton_append]

/-- What is computed in this way is the same of the runs. -/
theorem IgnoresMerging.apply_mergedRuns {Result : Type}
    {compute : List KeyCount → Result} (hignores : IgnoresMerging compute)
    (counts : List KeyCount) :
    compute (mergedRuns counts) = compute counts := by
  induction counts using keyRuns_induction KeyCount.key with
  | nil => rw [mergedRuns_nil]
  | append wanted run rest hne hrun hnext ih =>
      rw [mergedRuns_append hne hrun hnext, hignores.cons _ ih,
        hignores.apply_run hne hrun]

theorem ignoresMerging_firstKeys :
    IgnoresMerging fun counts => (counts.map KeyCount.key).eraseDups where
  merge counts hsame := by
    rw [List.map_cons, List.map_cons, List.map_cons, ← hsame,
      Text.eraseDups_cons_cons]
  cons first _ _ hrest := Text.eraseDups_cons_congr first.key hrest

theorem ignoresMerging_total (key : Text) : IgnoresMerging (total key) where
  merge counts hsame := by
    rw [total_cons, total_cons, total_cons, ← hsame, ← Int.add_assoc]
    congr 1
    split
    · rfl
    · rfl
  cons first _ _ hrest := by
    rw [total_cons, total_cons, hrest]

theorem tallies_mergedRuns (counts : List KeyCount) :
    tallies (mergedRuns counts) = tallies counts :=
  tallies_congr (ignoresMerging_firstKeys.apply_mergedRuns counts)
    fun key => (ignoresMerging_total key).apply_mergedRuns counts

theorem grandTotal_mergedRuns (counts : List KeyCount) :
    grandTotal (mergedRuns counts) = grandTotal counts :=
  sum_mergedRuns counts

end Runs

section Nonneg

variable {counts : List KeyCount}

theorem total_le_grandTotal (hnonneg : ∀ total ∈ counts, 0 ≤ total.count)
    (key : Text) : total key counts ≤ grandTotal counts :=
  (List.filter_sublist.map KeyCount.count).sum_le_sum
    (List.forall_mem_map.mpr hnonneg)

/-- Without negative counts only the grand total has to be in range. -/
theorem sharesFit_iff_of_nonneg (hnonneg : ∀ total ∈ counts, 0 ≤ total.count) :
    SharesFit counts ↔ Count.inRange (grandTotal counts) := by
  constructor
  · exact fun hfit => Count.inRange_sum hfit.1
  · intro hgrand
    refine ⟨Count.prefixSumsFit_of_nonneg
      (List.forall_mem_map.mpr hnonneg) hgrand, ?_⟩
    rw [keysInRange_iff_of_nonneg hnonneg]
    intro key
    have hle := total_le_grandTotal hnonneg key
    have hpos := total_nonneg hnonneg key
    rw [Count.inRange_iff] at hgrand ⊢
    omega

private theorem nonneg_of_mem_run
    (hnonneg : ∀ total ∈ counts, 0 ≤ total.count) {run : List KeyCount}
    (hrun : run ∈ keyRuns KeyCount.key counts) :
    ∀ count ∈ run.map KeyCount.count, 0 ≤ count :=
  List.forall_mem_map.mpr fun total hmem =>
    hnonneg total ((sublist_of_mem_keyRuns hrun).mem hmem)

theorem nonneg_of_mem_mergedRuns
    (hnonneg : ∀ total ∈ counts, 0 ≤ total.count) :
    ∀ total ∈ mergedRuns counts, 0 ≤ total.count := by
  rw [mergedRuns, List.forall_mem_map]
  exact fun run hrun => List.sum_nonneg (nonneg_of_mem_run hnonneg hrun)

/-- Without negative counts no run adds up to more than all of them. -/
theorem runsInRange_of_nonneg (hnonneg : ∀ total ∈ counts, 0 ≤ total.count)
    (hgrand : Count.inRange (grandTotal counts)) : RunsInRange counts := by
  intro run hrun
  have hcounts := nonneg_of_mem_run hnonneg hrun
  have hpos := List.sum_nonneg hcounts
  have hle : (run.map KeyCount.count).sum ≤ grandTotal counts :=
    ((sublist_of_mem_keyRuns hrun).map KeyCount.count).sum_le_sum
      (List.forall_mem_map.mpr hnonneg)
  apply Count.prefixSumsFit_of_nonneg hcounts
  rw [Count.inRange_iff] at hgrand ⊢
  omega

end Nonneg

end Counting

open Counting KeyCount

namespace Percentage

section Labelled

variable {label : Text} {total : KeyCount} {counts : List KeyCount}

/-- A count behind a label, as the table reads it. -/
def labelled (label : Text) (total : KeyCount) : Fact :=
  ⟨label, total.fact.text⟩

/-- The label and a tab are put in front of every line. -/
def labelling (label : Text) : Shuffle.Preparation :=
  Shuffle.behind (label ++ ['\t'])

theorem lineFeed_not_mem_labelled (hlabel : label.IsKey)
    (hframed : total.IsFramed) : '\n' ∉ (labelled label total).text :=
  Fact.lineFeed_not_mem_text _ hlabel.lineFeed_not_mem
    (lineFeed_not_mem_fact hframed.isKey)

theorem trim_labelled (hlabel : label.IsKey) (hframed : total.IsFramed) :
    (labelled label total).text.trim = (labelled label total).text := by
  have hends : total.fact.text.endsBlank = false := by
    rw [← trim_fact hframed.isKey]
    exact Text.endsBlank_trim _
  have hvalue : (labelled label total).value.trimEnd =
      (labelled label total).value := Text.trimEnd_eq_self hends
  rw [Fact.trim_text (labelled label total) hlabel.ne_nil
    hlabel.not_beginsBlank, hvalue]
  rw [hvalue]
  exact List.append_ne_nil_of_right_ne_nil _ (List.cons_ne_nil _ _)

theorem isRecord_labelled (hlabel : label.IsKey) (hframed : total.IsFramed) :
    IsRecord (labelled label total).text.trim total.key
      (Numeral.ofInt total.count) := by
  refine ⟨label, ?_⟩
  rw [trim_labelled hlabel hframed,
    Fact.fields_text (labelled label total) hlabel.tab_not_mem]
  exact congrArg (label :: ·) (fields_fact hframed.isKey.tab_not_mem)

/-- Every line of an input is read as a record of three fields. -/
def AllRecords (input : Bytes) : Prop :=
  ∀ line ∈ input.lines, ∃ text detection count,
    line.decode? = some text ∧ IsRecord text.trim detection count

theorem allRecords_labelled (hlabel : label.IsKey)
    (hframed : ∀ total ∈ counts, total.IsFramed) :
    AllRecords (Fact.stream (counts.map (labelled label))) := by
  have hfeed : ∀ fact ∈ counts.map (labelled label), '\n' ∉ fact.text :=
    List.forall_mem_map.mpr fun total hmem =>
      lineFeed_not_mem_labelled hlabel (hframed total hmem)
  rw [AllRecords, Fact.lines_stream hfeed, List.forall_mem_map,
    List.forall_mem_map]
  intro total hmem
  exact ⟨_, _, _, Bytes.decode?_encode _,
    isRecord_labelled hlabel (hframed total hmem)⟩

/-- The label and a tab in front of the lines of counts make them labelled. -/
theorem prepareBytes_labelling (label : Text)
    (hframed : ∀ total ∈ counts, total.IsFramed) :
    (labelling label).prepareBytes (Fact.stream (counts.map fact)) =
      Fact.stream (counts.map (labelled label)) := by
  have hlines : ∀ line ∈ (counts.map fact).map Fact.text, '\n' ∉ line := by
    rw [List.map_map, List.forall_mem_map]
    exact fun total hmem => lineFeed_not_mem_fact (hframed total hmem).isKey
  rw [Fact.stream_eq_encode, Fact.stream_eq_encode, labelling,
    Shuffle.prepareBytes_behind _ hlines, List.map_map, List.map_map,
    List.map_map]
  congr 2
  apply List.map_congr_left
  intro total _
  simp [labelled, Fact.text]

/-- Percentages of counts that are written behind a label. -/
def runLabelled (label : Text) (counts : List KeyCount) : RunReport :=
  stage.run .unbounded (Fact.stream (counts.map (labelled label)))

/-- Every count in a line of its own, behind a label. -/
def labelledText (label : Text) (counts : List KeyCount) : Text :=
  Text.ofLines (counts.map fun total => (labelled label total).text)

theorem runLabelled_eq (label : Text) (counts : List KeyCount) :
    runLabelled label counts =
      stage.run .unbounded (labelledText label counts).encode := by
  rw [runLabelled, Fact.stream_eq_encode, List.map_map]
  rfl

theorem lines_labelledText (hlabel : label.IsKey)
    (hframed : ∀ total ∈ counts, total.IsFramed) :
    (labelledText label counts).lines =
      counts.map fun total => (labelled label total).text :=
  Text.lines_ofLines (List.forall_mem_map.mpr fun total hmem =>
    lineFeed_not_mem_labelled hlabel (hframed total hmem))

theorem reading?_labelled (hlabel : label.IsKey) (hframed : total.IsFramed) :
    reading? (labelled label total).text = some total := by
  rw [reading?_of_isRecord (isRecord_labelled hlabel hframed),
    Count.read_ofInt hframed.inRange]
  rfl

theorem readings_labelledText (hlabel : label.IsKey)
    (hframed : ∀ total ∈ counts, total.IsFramed) :
    readings (labelledText label counts).lines = counts := by
  have hread : ∀ total ∈ counts,
      reading? (labelled label total).text = some total := fun total hmem =>
    reading?_labelled hlabel (hframed total hmem)
  rw [lines_labelledText hlabel hframed, readings, List.filterMap_map]
  exact (List.filterMap_congr hread).trans List.filterMap_some

/-- Labelled counts are all taken exactly if their sums fit. -/
theorem takesAll_labelledText (hlabel : label.IsKey)
    (hframed : ∀ total ∈ counts, total.IsFramed) :
    TakesAll (labelledText label counts).lines ↔ SharesFit counts := by
  have hread : ∀ line ∈ (labelledText label counts).lines,
      (reading? line).isSome := by
    rw [lines_labelledText hlabel hframed, List.forall_mem_map]
    intro total hmem
    rw [reading?_labelled hlabel (hframed total hmem)]
    rfl
  rw [takesAll_iff_sharesFit hread, readings_labelledText hlabel hframed]

/-- Labelled counts are written as shares if their sums fit and there is
something to share. -/
theorem runLabelled_of_sharesFit (hlabel : label.IsKey)
    (hframed : ∀ total ∈ counts, total.IsFramed) (hfit : SharesFit counts)
    (hgrand : grandTotal counts ≠ 0) :
    runLabelled label counts =
      ⟨Fact.stream (shareFacts (tallies counts)),
        .ok ⟨stage.name, counts.length, (tallies counts).length, 0⟩⟩ := by
  have hreadings := readings_labelledText hlabel hframed
  have hshares : ¬ NothingToShare (labelledText label counts).lines := by
    rwa [nothingToShare_iff, hreadings]
  have hskipped : (labelledText label counts).lines.countP
      (fun line => ¬ HasThreeFields line) = 0 := by
    rw [lines_labelledText hlabel hframed, List.countP_map,
      List.countP_eq_zero]
    intro total hmem
    simpa using hasThreeFields_iff.mpr
      ⟨_, _, isRecord_labelled hlabel (hframed total hmem)⟩
  rw [runLabelled_eq, run_of_takesAll
    ((takesAll_labelledText hlabel hframed).mpr hfit) hshares, hskipped,
    hreadings, lines_labelledText hlabel hframed, List.length_map]

theorem runLabelled_succeeds_iff (hlabel : label.IsKey)
    (hframed : ∀ total ∈ counts, total.IsFramed) :
    (runLabelled label counts).Succeeds ↔
      SharesFit counts ∧ grandTotal counts ≠ 0 := by
  rw [runLabelled_eq, succeeds_iff, takesAll_labelledText hlabel hframed,
    nothingToShare_iff, readings_labelledText hlabel hframed]

/-- No labelled line is skipped. -/
theorem linesSkipped_runLabelled (hlabel : label.IsKey)
    (hframed : ∀ total ∈ counts, total.IsFramed) {summary : Summary}
    (hresult : (runLabelled label counts).result = .ok summary) :
    summary.linesSkipped = 0 := by
  obtain ⟨hfit, hgrand⟩ :=
    (runLabelled_succeeds_iff hlabel hframed).mp ⟨summary, hresult⟩
  rw [runLabelled_of_sharesFit hlabel hframed hfit hgrand] at hresult
  cases hresult
  rfl

end Labelled

section Precounting

variable {label : Text} {counts : List KeyCount}

/-- The counting pass over the lines of some counts, in their order. -/
def precount (counts : List KeyCount) : RunReport :=
  StreamingCount.stage.run .unbounded (Fact.stream (counts.map fact))

/-- Percentages of what the counting pass has written, behind a label. -/
def runPrecounted (label : Text) (counts : List KeyCount) : RunReport :=
  stage.run .unbounded ((labelling label).prepareBytes (precount counts).output)

theorem runPrecounted_eq (hframed : ∀ total ∈ counts, total.IsFramed)
    (hfits : RunsInRange counts) :
    runPrecounted label counts = runLabelled label (mergedRuns counts) := by
  rw [runPrecounted, precount, StreamingCount.run_stream hframed hfits,
    prepareBytes_labelling label (isFramed_of_mem_mergedRuns hframed hfits),
    runLabelled]

/-- Also where the counting pass fails, what it has written is labelled counts
that were read. -/
theorem exists_runPrecounted_eq (label : Text) (counts : List KeyCount) :
    ∃ totals : List KeyCount, (∀ total ∈ totals, total.IsFramed) ∧
      (labelling label).prepareBytes (precount counts).output =
        Fact.stream (totals.map (labelled label)) := by
  obtain ⟨facts, ⟨totals, htotals, rfl⟩, houtput⟩ :=
    StreamingCount.areFramed_output (Fact.stream (counts.map fact))
  refine ⟨totals, htotals, ?_⟩
  rw [precount, houtput, prepareBytes_labelling label htotals]

/-- Without negative counts there are shares, before the counting pass or
behind it, exactly if the grand total is in range and not zero. -/
theorem runLabelled_succeeds_iff_of_nonneg (hlabel : label.IsKey)
    (hframed : ∀ total ∈ counts, total.IsFramed)
    (hnonneg : ∀ total ∈ counts, 0 ≤ total.count) :
    (runLabelled label counts).Succeeds ↔
      Count.inRange (grandTotal counts) ∧ grandTotal counts ≠ 0 := by
  rw [runLabelled_succeeds_iff hlabel hframed, sharesFit_iff_of_nonneg hnonneg]

theorem runPrecounted_succeeds_iff_of_nonneg (hlabel : label.IsKey)
    (hframed : ∀ total ∈ counts, total.IsFramed)
    (hnonneg : ∀ total ∈ counts, 0 ≤ total.count)
    (hfits : RunsInRange counts) :
    (runPrecounted label counts).Succeeds ↔
      Count.inRange (grandTotal counts) ∧ grandTotal counts ≠ 0 := by
  rw [runPrecounted_eq hframed hfits, runLabelled_succeeds_iff_of_nonneg hlabel
    (isFramed_of_mem_mergedRuns hframed hfits)
    (nonneg_of_mem_mergedRuns hnonneg), grandTotal_mergedRuns]

/-- The shares are the same, since the runs have the tallies of the counts. -/
theorem output_runPrecounted (hlabel : label.IsKey)
    (hframed : ∀ total ∈ counts, total.IsFramed)
    (hfits : RunsInRange counts)
    (hdirect : (runLabelled label counts).Succeeds)
    (hrecounted : (runPrecounted label counts).Succeeds) :
    (runLabelled label counts).output =
      (runPrecounted label counts).output := by
  have hmerged := isFramed_of_mem_mergedRuns hframed hfits
  rw [runPrecounted_eq hframed hfits] at hrecounted ⊢
  obtain ⟨hfit, hgrand⟩ := (runLabelled_succeeds_iff hlabel hframed).mp hdirect
  obtain ⟨hfit_merged, hgrand_merged⟩ :=
    (runLabelled_succeeds_iff hlabel hmerged).mp hrecounted
  rw [runLabelled_of_sharesFit hlabel hframed hfit hgrand,
    runLabelled_of_sharesFit hlabel hmerged hfit_merged hgrand_merged,
    tallies_mergedRuns]

/-- If the grand total is in range, the shares are the same either way; if it is
not, neither way leads to any. -/
theorem sameShares_precounted (hlabel : label.IsKey)
    (hframed : ∀ total ∈ counts, total.IsFramed)
    (hnonneg : ∀ total ∈ counts, 0 ≤ total.count) :
    ((runLabelled label counts).Succeeds ∧ (precount counts).Succeeds ∧
        (runPrecounted label counts).Succeeds ∧
        (runLabelled label counts).output =
          (runPrecounted label counts).output) ∨
      (¬ (runLabelled label counts).Succeeds ∧
        ¬ ((precount counts).Succeeds ∧
          (runPrecounted label counts).Succeeds)) := by
  have hcounted : (precount counts).Succeeds ↔ RunsInRange counts :=
    StreamingCount.succeeds_stream_iff hframed
  have hiff := runLabelled_succeeds_iff_of_nonneg hlabel hframed hnonneg
  have hiff_counted :=
    runPrecounted_succeeds_iff_of_nonneg hlabel hframed hnonneg
  by_cases hshares :
      Count.inRange (grandTotal counts) ∧ grandTotal counts ≠ 0
  · have hfits := runsInRange_of_nonneg hnonneg hshares.1
    have hdirect := hiff.mpr hshares
    have hrecounted := (hiff_counted hfits).mpr hshares
    exact .inl ⟨hdirect, hcounted.mpr hfits, hrecounted,
      output_runPrecounted hlabel hframed hfits hdirect hrecounted⟩
  · right
    constructor
    · exact fun hdirect => hshares (hiff.mp hdirect)
    · rintro ⟨hsucceeds, hrecounted⟩
      exact hshares ((hiff_counted (hcounted.mp hsucceeds)).mp hrecounted)

end Precounting

/-- Percentages of counts without negative ones, taken at once or after a
counting pass: both ways succeed and write the same, or both fail.  What the
counting pass hands on are records, so none of its lines is skipped. -/
theorem precounting_is_transparent (label : Text) (counts : List KeyCount)
    (hlabel : label.IsKey) (hframed : ∀ total ∈ counts, total.IsFramed)
    (hnonneg : ∀ total ∈ counts, 0 ≤ total.count) :
    let direct := runLabelled label counts
    let counted := precount counts
    let recounted := runPrecounted label counts
    ((direct.Succeeds ∧ counted.Succeeds ∧ recounted.Succeeds ∧
        direct.output = recounted.output) ∨
      (¬ direct.Succeeds ∧ ¬ (counted.Succeeds ∧ recounted.Succeeds))) ∧
    AllRecords ((labelling label).prepareBytes counted.output) ∧
    ∀ summary, recounted.result = .ok summary → summary.linesSkipped = 0 := by
  intro direct counted recounted
  have hshares := sameShares_precounted hlabel hframed hnonneg
  obtain ⟨totals, htotals, hprepared⟩ := exists_runPrecounted_eq label counts
  have hrecounted : recounted = runLabelled label totals := by
    change runPrecounted label counts = _
    rw [runPrecounted, hprepared, runLabelled]
  refine ⟨hshares, ?_⟩
  rw [hprepared, hrecounted]
  exact ⟨allRecords_labelled hlabel htotals,
    fun summary => linesSkipped_runLabelled hlabel htotals⟩

theorem precounting_is_transparent_on_returning_key :
    let label : Text := "1 ".toList
    let counts : List KeyCount :=
      [⟨"b".toList, 2⟩, ⟨"b".toList, 0⟩, ⟨"a ".toList, 9223372036854775800⟩,
        ⟨"b".toList, 5⟩]
    label.IsKey ∧ (∀ total ∈ counts, total.IsFramed) ∧
    (∀ total ∈ counts, 0 ≤ total.count) ∧
    (runLabelled label counts).Succeeds ∧ (precount counts).Succeeds ∧
    (runPrecounted label counts).Succeeds ∧
    (runLabelled label counts).output =
      (runPrecounted label counts).output ∧
    AllRecords ((labelling label).prepareBytes (precount counts).output) := by
  intro label counts
  have hlabel : label.IsKey := by decide
  have hframed : ∀ total ∈ counts, total.IsFramed := by decide
  have hnonneg : ∀ total ∈ counts, 0 ≤ total.count := by decide
  have hdirect : (runLabelled label counts).Succeeds :=
    ⟨⟨"percentage".toList, 4, 2, 0⟩, by rfl⟩
  obtain ⟨hshares, hrecords, -⟩ :=
    precounting_is_transparent label counts hlabel hframed hnonneg
  obtain ⟨-, hcounted, hrecounted, houtput⟩ :=
    hshares.resolve_right fun hfail => hfail.1 hdirect
  exact ⟨hlabel, hframed, hnonneg, hdirect, hcounted, hrecounted, houtput,
    hrecords⟩

end Percentage

end FactStream
