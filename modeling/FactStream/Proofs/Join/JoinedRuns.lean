import FactStream.Proofs.Join.RowRuns
import FactStream.Proofs.Stage.History

/-!
# What the joiner makes of any lines

The joiner writes the runs of rows one by one: every content of the tag seen
first with every content of the other.  It fails at the first run that has not
two tags, once it knows that the run is complete: at the first row of the next
run, or at the end.
-/

namespace FactStream

namespace Joiner

variable {runs more : List (List PlacedRow)} {last : List PlacedRow}
  {next : PlacedRow}

/-- The last run is the one that is being collected. -/
def heldOf (runs : List (List PlacedRow)) : Joiner :=
  ⟨runs.getLast?.map groupOf⟩

/-- The runs before the last one are written. -/
def writtenOf (runs : List (List PlacedRow)) : List Fact :=
  runs.dropLast.flatMap pairsOf

/-- Every run has exactly two tags. -/
def HaveTwoTags (runs : List (List PlacedRow)) : Prop :=
  ∀ run ∈ runs, (tagsOf run).length = 2

instance haveTwoTagsDecidable (runs : List (List PlacedRow)) :
    Decidable (HaveTwoTags runs) :=
  inferInstanceAs (Decidable (∀ run ∈ runs, _))

@[simp]
theorem heldOf_concat : heldOf (runs ++ [last]) = ⟨some (groupOf last)⟩ := by
  simp [heldOf]

@[simp]
theorem writtenOf_concat :
    writtenOf (runs ++ [last]) = runs.flatMap pairsOf := by
  simp [writtenOf]

theorem haveTwoTags_concat :
    HaveTwoTags (runs ++ [last]) ↔
      HaveTwoTags runs ∧ (tagsOf last).length = 2 := by
  rw [HaveTwoTags, List.forall_mem_append, List.forall_mem_singleton,
    HaveTwoTags]

theorem key_groupOf {rows : List PlacedRow} {wanted : Text} (hne : rows ≠ [])
    (hrows : ∀ placed ∈ rows, placed.key = wanted) :
    (groupOf rows).key = wanted :=
  runKey_of_key hne hrows

/-- A row of another key ends the run held. -/
theorem receive_of_other_key {wanted : Text} (hne : last ≠ [])
    (hlast : ∀ placed ∈ last, placed.key = wanted) (hother : wanted ≠ next.key) :
    receive ⟨some (groupOf last)⟩ (some next.toJoinRow) =
      flush ⟨some (groupOf last)⟩ ⟨some (.start next.toJoinRow)⟩ .consumed := by
  have hkey : (groupOf last).key ≠ next.key := by
    rwa [key_groupOf hne hlast]
  exact if_neg hkey

/-- What the joiner does with a row when the runs grow by it and those that are
complete have two tags each. -/
theorem receive_of_runsGrow
    (hgrow : RunsGrow (fun placed => placed.key) next runs more)
    (hfits : HaveTwoTags more.dropLast) :
    ∃ facts interrupted, receive (heldOf runs) (some next.toJoinRow) =
        .write facts interrupted (heldOf more) .consumed ∧
      writtenOf more = writtenOf runs ++ facts := by
  cases hgrow with
  | first => exact ⟨[], _, rfl, rfl⟩
  | @same runs last hne hsame =>
      refine ⟨[], ⟨some ((groupOf last).push next.toJoinRow)⟩, ?_, by simp⟩
      rw [heldOf_concat, heldOf_concat, groupOf_concat hne]
      exact if_pos (key_groupOf hne hsame)
  | @other runs last wanted hne hlast hother =>
      rw [List.dropLast_concat, haveTwoTags_concat] at hfits
      have hfacts : (groupOf last).facts = .ok (pairsOf last) := by
        rw [facts_groupOf, if_pos hfits.2]
      refine ⟨pairsOf last, idle, ?_, ?_⟩
      · rw [heldOf_concat, heldOf_concat, groupOf_singleton,
          receive_of_other_key hne hlast hother]
        exact flush_of_facts hfacts _ _
      · rw [writtenOf_concat, writtenOf_concat, List.flatMap_append,
          List.flatMap_singleton]

theorem haveTwoTags_of_runsGrow
    (hgrow : RunsGrow (fun placed => placed.key) next runs more)
    (hfits : HaveTwoTags more.dropLast) : HaveTwoTags runs.dropLast := by
  cases hgrow with
  | first => exact List.forall_mem_nil _
  | same hne hsame => simpa using hfits
  | other hne hlast hother =>
      rw [List.dropLast_concat, haveTwoTags_concat] at hfits
      simpa using hfits.1

/-- The last run of the rows read so far has not two tags, and a line that is a
row of another key shows that it is complete. -/
inductive EndsAmiss (lines : List Text) (line : Text) : StageError → Prop
  | intro {earlier : List (List PlacedRow)} {amiss : List PlacedRow}
      {wanted : Text} {row : JoinRow}
      (hruns : rowRuns lines = earlier ++ [amiss])
      (hread : JoinRow.ofLine? line.trim = some row)
      (hamiss : ∀ placed ∈ amiss, placed.key = wanted)
      (hother : wanted ≠ row.key) (harity : (tagsOf amiss).length ≠ 2) :
      EndsAmiss lines line (.joinArity (keyOf amiss) (tagsOf amiss))

/-- A row that the joiner refuses has ended the run before it. -/
theorem receive_of_runsGrow_arity
    (hgrow : RunsGrow (fun placed => placed.key) next runs more)
    (hfits : HaveTwoTags runs.dropLast) (hover : ¬ HaveTwoTags more.dropLast) :
    ∃ earlier amiss wanted, runs = earlier ++ [amiss] ∧
      (∀ placed ∈ amiss, placed.key = wanted) ∧ wanted ≠ next.key ∧
      (tagsOf amiss).length ≠ 2 ∧
      receive (heldOf runs) (some next.toJoinRow) =
        .refuse (.joinArity (keyOf amiss) (tagsOf amiss)) idle := by
  cases hgrow with
  | first => exact absurd (List.forall_mem_nil _) hover
  | same hne hsame =>
      rw [List.dropLast_concat] at hfits hover
      exact absurd hfits hover
  | @other runs last wanted hne hlast hother =>
      rw [List.dropLast_concat] at hfits hover
      have harity : (tagsOf last).length ≠ 2 := fun htwo =>
        hover (haveTwoTags_concat.mpr ⟨hfits, htwo⟩)
      have hfacts : (groupOf last).facts =
          .error (.joinArity (keyOf last) (tagsOf last)) := by
        rw [facts_groupOf, if_neg harity]
      refine ⟨runs, last, wanted, rfl, hlast, hother, harity, ?_⟩
      rw [heldOf_concat, receive_of_other_key hne hlast hother]
      exact flush_of_facts_error hfacts _ _

def history : History Joiner where
  Accepts lines := HaveTwoTags (rowRuns lines).dropLast
  written lines := writtenOf (rowRuns lines)
  skipped := countNoRows
  state lines := heldOf (rowRuns lines)

theorem follows_history : stage.Follows history EndsAmiss where
  accepts_nil := List.forall_mem_nil _
  accepts_of_concat := by
    intro lines line haccepts
    cases hread : JoinRow.ofLine? line.trim with
    | none =>
        simp only [history, rowRuns_concat_of_none hread] at haccepts
        exact haccepts
    | some row =>
        exact haveTwoTags_of_runsGrow (rowRuns_concat_of_row hread) haccepts
  written_nil := rfl
  skipped_nil := rfl
  state_nil := rfl
  accept := by
    intro lines line haccepts
    change ∃ _ _ _, step _ _ = _ ∧ _
    rw [step_eq_receive]
    simp only [history]
    rw [countNoRows_concat]
    cases hread : JoinRow.ofLine? line.trim with
    | none =>
        rw [rowRuns_concat_of_none hread]
        exact ⟨[], _, .skipped, rfl, (List.append_nil _).symm, rfl⟩
    | some row =>
        obtain ⟨facts, interrupted, hreceive, hwritten⟩ :=
          receive_of_runsGrow (rowRuns_concat_of_row hread) haccepts
        exact ⟨facts, interrupted, .consumed, hreceive, hwritten, rfl⟩
  refuse := by
    intro lines line haccepts hrefused
    cases hread : JoinRow.ofLine? line.trim with
    | none =>
        simp only [history, rowRuns_concat_of_none hread] at hrefused
        exact absurd haccepts hrefused
    | some row =>
        obtain ⟨earlier, amiss, wanted, hruns, hamiss, hother, harity,
          hreceive⟩ := receive_of_runsGrow_arity (rowRuns_concat_of_row hread)
            haccepts hrefused
        refine ⟨_, idle, ?_, .intro hruns hread hamiss hother harity⟩
        change step _ _ = _
        rw [step_eq_receive, hread]
        exact hreceive
  not_isStream := by
    rintro lines line error ⟨⟩
    rfl

section Run

variable {text : Text}

/-- The end writes the last run, if it has two tags. -/
theorem finish_heldOf (hruns : HaveTwoTags runs) :
    ∃ facts, finish (heldOf runs) = .write facts idle idle () ∧
      writtenOf runs ++ facts = runs.flatMap pairsOf := by
  cases runs using List.reverseRecOn with
  | nil => exact ⟨[], rfl, rfl⟩
  | append_singleton runs last =>
      have hfacts : (groupOf last).facts = .ok (pairsOf last) := by
        rw [facts_groupOf, if_pos (haveTwoTags_concat.mp hruns).2]
      refine ⟨pairsOf last, ?_, ?_⟩
      · rw [heldOf_concat]
        exact flush_of_facts hfacts idle ()
      · rw [writtenOf_concat, List.flatMap_append, List.flatMap_singleton]

theorem run_of_haveTwoTags (hruns : HaveTwoTags (rowRuns text.lines)) :
    stage.run .unbounded text.encode =
      ⟨Fact.stream ((rowRuns text.lines).flatMap pairsOf),
        .ok ⟨stage.name, text.lines.length,
          ((rowRuns text.lines).flatMap pairsOf).length,
          countNoRows text.lines⟩⟩ := by
  obtain ⟨facts, hfinish, hfacts⟩ := finish_heldOf hruns
  have haccepts : history.Accepts text.lines := fun run hrun =>
    hruns run (List.mem_of_mem_dropLast hrun)
  have hwritten : history.written text.lines ++ facts =
      (rowRuns text.lines).flatMap pairsOf := hfacts
  rw [follows_history.run_of_accepts haccepts hfinish, hwritten]
  rfl

/-- The number of the line of the first row in some runs. -/
def firstLine? (runs : List (List PlacedRow)) : Option Nat :=
  (runs.head?.bind List.head?).map PlacedRow.line

/-- The runs of the lines before a row of another key are runs of all lines. -/
theorem rowRuns_append_cons {before after : List Text} {line : Text}
    {row : JoinRow} {earlier : List (List PlacedRow)} {wanted : Text}
    (hruns : rowRuns before = earlier ++ [last])
    (hread : JoinRow.ofLine? line.trim = some row)
    (hlast : ∀ placed ∈ last, placed.key = wanted) (hother : wanted ≠ row.key) :
    ∃ later, rowRuns (before ++ line :: after) = earlier ++ last :: later ∧
      firstLine? later = some (before.length + 1) := by
  let others := placedRows (1 + before.length + 1) after
  have hrows : placedRows 1 (before ++ line :: after) =
      placedRows 1 before ++ ⟨row, 1 + before.length⟩ :: others := by
    rw [placedRows_append, placedRows_cons_of_row hread]
  refine ⟨keyRuns (fun placed => placed.key)
    (⟨row, 1 + before.length⟩ :: others), ?_, ?_⟩
  · rw [rowRuns, hrows]
    apply keyRuns_append_of_runs hruns hlast
    simpa using hother
  · rw [firstLine?, head?_bind_keyRuns, Nat.add_comm]
    rfl

/-- If no row shows a run to be amiss, the one that is amiss is the last, and it
is refused at the end. -/
theorem run_of_last_amiss {earlier : List (List PlacedRow)}
    {amiss : List PlacedRow}
    (hall : rowRuns text.lines = earlier ++ [amiss])
    (hearlier : HaveTwoTags earlier) (harity : (tagsOf amiss).length ≠ 2) :
    stage.run .unbounded text.encode =
      ⟨Fact.stream (earlier.flatMap pairsOf),
        .error ⟨none, .joinArity (keyOf amiss) (tagsOf amiss)⟩⟩ := by
  have haccepts : history.Accepts text.lines := by
    change HaveTwoTags (rowRuns text.lines).dropLast
    rwa [hall, List.dropLast_concat]
  have hfinish : stage.finish (history.state text.lines) =
      .refuse (.joinArity (keyOf amiss) (tagsOf amiss)) idle := by
    change finish (heldOf (rowRuns text.lines)) = _
    rw [hall, heldOf_concat, finish]
    apply flush_of_facts_error
    rw [facts_groupOf, if_neg harity]
  have hwritten : history.written text.lines = earlier.flatMap pairsOf := by
    change writtenOf (rowRuns text.lines) = _
    rw [hall, writtenOf_concat]
  rw [follows_history.run_of_finish_refuse haccepts hfinish, hwritten]
  rfl

/-- Some run has not two tags.  The first such run is refused with the first row
of the next one, or if it is the last run, at the end. -/
theorem run_of_not_haveTwoTags (hruns : ¬ HaveTwoTags (rowRuns text.lines)) :
    ∃ earlier amiss later, rowRuns text.lines = earlier ++ amiss :: later ∧
      HaveTwoTags earlier ∧ (tagsOf amiss).length ≠ 2 ∧
      stage.run .unbounded text.encode =
        ⟨Fact.stream (earlier.flatMap pairsOf),
          .error ⟨firstLine? later,
            .joinArity (keyOf amiss) (tagsOf amiss)⟩⟩ := by
  by_cases hfits : history.Accepts text.lines
  · have haccepts : HaveTwoTags (rowRuns text.lines).dropLast := hfits
    rcases List.eq_nil_or_concat' (rowRuns text.lines) with
      hnone | ⟨earlier, amiss, hall⟩
    · rw [hnone] at hruns
      exact absurd (List.forall_mem_nil _) hruns
    · rw [hall, List.dropLast_concat] at haccepts
      have harity : (tagsOf amiss).length ≠ 2 := fun htwo =>
        hruns (hall ▸ haveTwoTags_concat.mpr ⟨haccepts, htwo⟩)
      exact ⟨earlier, amiss, [], hall, haccepts, harity,
        run_of_last_amiss hall haccepts harity⟩
  · -- The line that is refused is the first row of the next run.
    obtain ⟨before, line, after, error, hlines, hbefore, -, hamiss, hrun⟩ :=
      follows_history.run_of_not_accepts hfits
    change HaveTwoTags (rowRuns before).dropLast at hbefore
    cases hamiss with
    | @intro earlier amiss wanted row hbefore_runs hread hkeys hother harity =>
        obtain ⟨later, hall, hline⟩ :=
          @rowRuns_append_cons _ _ after _ _ _ _ hbefore_runs hread hkeys hother
        have hwritten : history.written before = earlier.flatMap pairsOf := by
          change writtenOf (rowRuns before) = _
          rw [hbefore_runs, writtenOf_concat]
        refine ⟨earlier, amiss, later, ?_, ?_, harity, ?_⟩
        · rw [hlines, hall]
        · simpa [hbefore_runs] using hbefore
        · rw [hrun, hwritten, hline]

/-- On any lines, sorted or not, the joiner writes run by run every content of
one tag with every content of the other, each pair as often as its two contents
come together, until it meets the end of a run that has not two tags. -/
theorem run_joins_row_runs (text : Text) :
    let report := stage.run .unbounded text.encode
    let runs := rowRuns text.lines
    (HaveTwoTags runs →
      report = ⟨Fact.stream (runs.flatMap pairsOf),
        .ok ⟨stage.name, text.lines.length, (runs.flatMap pairsOf).length,
          countNoRows text.lines⟩⟩) ∧
      (¬ HaveTwoTags runs → ∃ earlier amiss later,
        runs = earlier ++ amiss :: later ∧
        HaveTwoTags earlier ∧ (tagsOf amiss).length ≠ 2 ∧
        report = ⟨Fact.stream (earlier.flatMap pairsOf),
          .error ⟨firstLine? later,
            .joinArity (keyOf amiss) (tagsOf amiss)⟩⟩) ∧
      ∀ run ∈ runs, ∀ left right, tagsOf run = [left, right] →
        ∀ content other, (pairsOf run).count ⟨content, other⟩ =
          (contentsOf left run).count content *
            (contentsOf right run).count other :=
  ⟨run_of_haveTwoTags, run_of_not_haveTwoTags,
    fun _ _ _ _ htags content other => count_pairsOf htags content other⟩

theorem run_joins_row_runs_on_returning_key :
    let text : Text :=
      "k\tx\t1\nnoise\nk\t y\t2\nk\tx\t1 \n".toList ++
        "j\tz\t2\nj\tz\t1\nk\tu\t2\nk\tv\t1".toList
    let amiss : Text :=
      "k\tx\t1\nk\ty\t2\nj\tz\t1\nj\tz\t1\nnoise\nk\tu\t2".toList
    (stage.run .unbounded text.encode).output =
        Text.encode "x\ty\nx\ty\nz\tz\nu\tv\n".toList ∧
      ¬ HaveTwoTags (rowRuns amiss.lines) ∧
      ∃ failure, (stage.run .unbounded amiss.encode).result =
        .error failure := by
  intro text amiss
  have htwo : HaveTwoTags (rowRuns text.lines) := by decide +kernel
  have hamiss : ¬ HaveTwoTags (rowRuns amiss.lines) := by decide +kernel
  refine ⟨?_, hamiss, ?_⟩
  · rw [(run_joins_row_runs text).1 htwo]
    decide +kernel
  · obtain ⟨earlier, run, later, -, -, -, hrun⟩ :=
      (run_joins_row_runs amiss).2.1 hamiss
    rw [hrun]
    exact ⟨_, rfl⟩

end Run

end Joiner

end FactStream
