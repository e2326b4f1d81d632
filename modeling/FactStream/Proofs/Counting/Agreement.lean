import FactStream.Counting.Grouped
import FactStream.Proofs.Counting.Streaming
import Mathlib.Data.Char
import Mathlib.Data.List.Lex

/-!
# The two counters agree on sorted input

The streaming counter holds one run and has written the runs before it; the
grouping counter holds all of them.  On input whose keys ascend, the totals of
the one are at any time the runs written and held by the other, so they refuse
the same line for the same reason, and what the grouping counter writes at the
end the streaming counter has written by then.
-/

namespace FactStream

/-- Two runs that both succeed, with the same output and the same figures, or
that both fail in the same way. -/
inductive RunReport.Agree (left right : RunReport) : Prop
  | succeeded (first second : Summary) (hleft : left.result = .ok first)
      (hright : right.result = .ok second)
      (houtput : left.output = right.output)
      (hread : first.linesRead = second.linesRead)
      (hemitted : first.linesEmitted = second.linesEmitted)
      (hskipped : first.linesSkipped = second.linesSkipped)
  | failed (failure : Failure) (hleft : left.result = .error failure)
      (hright : right.result = .error failure)

namespace Totals

/-- A key behind all others leaves what is before it alone. -/
theorem add_append {next : KeyCount} {front : Totals}
    (hfront : ∀ total ∈ front, total.key < next.key) (rest : Totals) :
    add next (front ++ rest) = (add next rest).map (front ++ ·) := by
  induction front with
  | nil =>
      rw [List.nil_append]
      cases add next rest <;> rfl
  | cons total front ih =>
      have hlt : total.key < next.key := hfront total List.mem_cons_self
      have htail := ih fun other hother =>
        hfront other (List.mem_cons_of_mem total hother)
      rw [List.cons_append, add, if_neg (ne_of_lt hlt),
        if_neg (not_lt_of_gt hlt), htail]
      cases add next rest <;> rfl

end Totals

namespace GroupedCount

/-- What the grouping counter replies to a count it has read. -/
def absorb (totals : Totals) (next : KeyCount) : Reply Totals Outcome :=
  match totals.add next with
  | .error error => .refuse error totals
  | .ok totals => .pass totals .consumed

theorem readLine_of_reading {line : Bytes} {next : KeyCount}
    (hreading : KeyCount.reading? line = some next) (totals : Totals) :
    stage.readLine totals line = absorb totals next := by
  obtain ⟨text, hdecode, hread⟩ := KeyCount.reading?_eq_some hreading
  rw [Stage.readLine, hdecode]
  change step totals text.trim = _
  rw [step, hread]
  rfl

end GroupedCount

namespace Counting

/-- Why a counter refuses a line: it is not text, it is no count, or it takes a
sum out of range. -/
inductive Fault : StageError → Prop
  | notUtf8 : Fault (.stream .notUtf8)
  | invalidCount (value : Text) (fault : NumeralFault) :
      Fault (.invalidCount value fault)
  | overflow (key : Text) : Fault (.countOverflow key)

/-- The totals of the grouping counter are the runs that the streaming counter
has finished and the one it holds, which has the greatest key. -/
structure Mirrors (finished : List KeyCount) (held : Accumulator)
    (totals : Totals) : Prop where
  totals_eq : totals = finished ++ held.run.toList
  finished_lt : ∀ total ∈ finished, ∃ run ∈ held.run, total.key < run.key
  key_ne_nil : ∀ run ∈ held.run, run.key ≠ []

theorem mirrors_empty : Mirrors [] .empty [] where
  totals_eq := rfl
  finished_lt := by simp
  key_ne_nil := by simp [Accumulator.empty]

namespace Mirrors

variable {finished : List KeyCount} {totals : Totals}

theorem finished_eq_nil (hmirrors : Mirrors finished ⟨none⟩ totals) :
    finished = [] := by
  cases finished with
  | nil => rfl
  | cons total finished =>
      simpa using hmirrors.finished_lt total List.mem_cons_self

/-- Nothing is held, so there are no totals either. -/
theorem absorb_first (hmirrors : Mirrors finished ⟨none⟩ totals)
    {next : KeyCount}
    (hkey : next.key ≠ []) :
    GroupedCount.absorb totals next = .pass [next] .consumed ∧
      Mirrors finished ⟨some next⟩ [next] := by
  have hnil := hmirrors.finished_eq_nil
  have htotals : totals = [] := by
    rw [hmirrors.totals_eq, hnil]
    rfl
  subst hnil htotals
  refine ⟨rfl, rfl, ?_, ?_⟩
  · simp
  · simpa using hkey

variable {run next : KeyCount}

theorem finished_lt_run (hmirrors : Mirrors finished ⟨some run⟩ totals) :
    ∀ total ∈ finished, total.key < run.key := by
  simpa using hmirrors.finished_lt

/-- A key that is not below the one held only concerns the last total. -/
theorem add_eq (hmirrors : Mirrors finished ⟨some run⟩ totals)
    (hle : run.key ≤ next.key) :
    totals.add next = (Totals.add next [run]).map (finished ++ ·) := by
  rw [hmirrors.totals_eq]
  apply Totals.add_append
  intro total hmem
  exact lt_of_lt_of_le (hmirrors.finished_lt_run total hmem) hle

theorem absorb_same (hmirrors : Mirrors finished ⟨some run⟩ totals)
    (hsame : run.key = next.key)
    (hrange : Count.inRange (run.count + next.count)) :
    ∃ more, GroupedCount.absorb totals next = .pass more .consumed ∧
      Mirrors finished ⟨some ⟨run.key, run.count + next.count⟩⟩ more := by
  refine ⟨finished ++ [⟨run.key, run.count + next.count⟩], ?_, ?_⟩
  · rw [GroupedCount.absorb, hmirrors.add_eq (le_of_eq hsame), Totals.add,
      if_pos hsame, KeyCount.add_of_inRange hrange]
    rfl
  · refine ⟨rfl, ?_, ?_⟩
    · simpa using hmirrors.finished_lt_run
    · simpa using hmirrors.key_ne_nil run rfl

theorem absorb_overflow (hmirrors : Mirrors finished ⟨some run⟩ totals)
    (hsame : run.key = next.key)
    (hrange : ¬ Count.inRange (run.count + next.count)) :
    GroupedCount.absorb totals next =
      .refuse (.countOverflow run.key) totals := by
  rw [GroupedCount.absorb, hmirrors.add_eq (le_of_eq hsame), Totals.add,
    if_pos hsame, KeyCount.add_of_not_inRange hrange]
  rfl

theorem absorb_next (hmirrors : Mirrors finished ⟨some run⟩ totals)
    (hlt : run.key < next.key) (hkey : next.key ≠ []) :
    ∃ more, GroupedCount.absorb totals next = .pass more .consumed ∧
      Mirrors (finished ++ [run]) ⟨some next⟩ more := by
  refine ⟨finished ++ [run] ++ [next], ?_, rfl, ?_, ?_⟩
  · rw [GroupedCount.absorb, hmirrors.add_eq (le_of_lt hlt), Totals.add,
      if_neg (ne_of_lt hlt), if_neg (not_lt_of_gt hlt), List.append_assoc]
    rfl
  · intro total hmem
    refine ⟨next, rfl, ?_⟩
    rcases List.mem_append.mp hmem with hbefore | hrun
    · exact lt_trans (hmirrors.finished_lt_run total hbefore) hlt
    · rwa [List.mem_singleton.mp hrun]
  · simpa using hkey

end Mirrors

/-- A count under a key that is not below the one held is refused by both, or
absorbed by both, and then the streaming counter has finished the runs that it
has written. -/
theorem absorb_agree {finished : List KeyCount} {held : Accumulator}
    {totals : Totals}
    (hmirrors : Mirrors finished held totals) {next : KeyCount}
    (hkey : next.key ≠ []) (hnext : ∀ run ∈ held.run, run.key ≤ next.key) :
    (∃ error, Fault error ∧
      StreamingCount.absorb held next = .refuse error held ∧
      GroupedCount.absorb totals next = .refuse error totals) ∨
    ∃ ended run more,
      StreamingCount.absorb held next =
        .write (ended.map KeyCount.fact) ⟨some run⟩ ⟨some run⟩ .consumed ∧
      GroupedCount.absorb totals next = .pass more .consumed ∧
      Mirrors (finished ++ ended) ⟨some run⟩ more ∧ run.key = next.key := by
  obtain ⟨_ | run⟩ := held
  · obtain ⟨hgrouped, hmore⟩ := hmirrors.absorb_first hkey
    right
    exact ⟨[], next, [next], rfl, hgrouped, by rwa [List.append_nil], rfl⟩
  · by_cases hsame : run.key = next.key
    · by_cases hrange : Count.inRange (run.count + next.count)
      · obtain ⟨more, hgrouped, hmore⟩ := hmirrors.absorb_same hsame hrange
        right
        exact ⟨[], _, more, StreamingCount.absorb_same hsame hrange, hgrouped,
          by rwa [List.append_nil], hsame⟩
      · left
        exact ⟨.countOverflow run.key, .overflow run.key,
          StreamingCount.absorb_overflow hsame hrange,
          hmirrors.absorb_overflow hsame hrange⟩
    · have hlt : run.key < next.key := lt_of_le_of_ne (hnext run rfl) hsame
      obtain ⟨more, hgrouped, hmore⟩ := hmirrors.absorb_next hlt hkey
      right
      exact ⟨[run], next, more,
        StreamingCount.absorb_next hsame (hmirrors.key_ne_nil run rfl),
        hgrouped, hmore, rfl⟩

/-- A line is refused by both counters in every state, or it is a count that
both absorb. -/
theorem readLine_agree (line : Bytes) :
    (∃ error, Fault error ∧ KeyCount.reading? line = none ∧ ∀ held totals,
      StreamingCount.stage.readLine held line = .refuse error held ∧
      GroupedCount.stage.readLine totals line = .refuse error totals) ∨
    ∃ next, KeyCount.reading? line = some next ∧ next.key ≠ [] ∧ ∀ held totals,
      StreamingCount.stage.readLine held line =
        StreamingCount.absorb held next ∧
      GroupedCount.stage.readLine totals line =
        GroupedCount.absorb totals next := by
  cases hdecode : line.decode? with
  | none =>
      left
      refine ⟨.stream .notUtf8, .notUtf8, ?_, fun held totals => ⟨?_, ?_⟩⟩
      · rw [KeyCount.reading?, hdecode]
        rfl
      · rw [Stage.readLine, hdecode]
      · rw [Stage.readLine, hdecode]
  | some text =>
      cases hread : KeyCount.ofLine text.trim with
      | error error =>
          left
          obtain ⟨value, fault, rfl⟩ := KeyCount.invalidCount_of_ofLine hread
          refine ⟨_, .invalidCount value fault, ?_, fun held totals => ⟨?_, ?_⟩⟩
          · rw [KeyCount.reading?_of_decode? hdecode, hread]
            rfl
          · rw [Stage.readLine, hdecode]
            change StreamingCount.step held text.trim = _
            rw [StreamingCount.step, hread]
          · rw [Stage.readLine, hdecode]
            change GroupedCount.step totals text.trim = _
            rw [GroupedCount.step, hread]
      | ok next =>
          have hreading : KeyCount.reading? line = some next := by
            rw [KeyCount.reading?_of_decode? hdecode, hread]
            rfl
          right
          refine ⟨next, hreading, ?_, fun held totals => ⟨?_, ?_⟩⟩
          · exact KeyCount.key_ne_nil_of_ofLine
              (Text.beginsBlank_trim text) hread
          · exact StreamingCount.readLine_of_reading hreading held
          · exact GroupedCount.readLine_of_reading hreading totals

/-- One line: it is refused by both counters, or both go on and still mirror
each other. -/
theorem line_agree {finished : List KeyCount} {held : Accumulator}
    {totals : Totals}
    (hmirrors : Mirrors finished held totals) {line : Bytes}
    (hnext : ∀ next ∈ KeyCount.reading? line, ∀ run ∈ held.run,
      run.key ≤ next.key) :
    (∃ error, Fault error ∧
      StreamingCount.stage.readLine held line = .refuse error held ∧
      GroupedCount.stage.readLine totals line = .refuse error totals) ∨
    ∃ next ended run more, KeyCount.reading? line = some next ∧
      run.key = next.key ∧
      StreamingCount.stage.readLine held line =
        .write (ended.map KeyCount.fact) ⟨some run⟩ ⟨some run⟩ .consumed ∧
      GroupedCount.stage.readLine totals line = .pass more .consumed ∧
      Mirrors (finished ++ ended) ⟨some run⟩ more := by
  rcases readLine_agree line with
    ⟨error, hfault, -, hrefuse⟩ | ⟨next, hreading, hkey, habsorb⟩
  · left
    exact ⟨error, hfault, hrefuse held totals⟩
  · rw [(habsorb held totals).1, (habsorb held totals).2]
    rcases absorb_agree hmirrors hkey (hnext next hreading) with
      hrefuse | ⟨ended, run, more, hstreaming, hgrouped, hmore, hrun⟩
    · left
      exact hrefuse
    · right
      exact ⟨next, ended, run, more, hreading, hrun, hstreaming,
        hgrouped, hmore⟩

/-- The keys of the counts among some lines ascend, from the key held on. -/
def Ascend (held : Accumulator) (lines : List Bytes) : Prop :=
  (held.run.toList ++ lines.filterMap KeyCount.reading?).Pairwise
    fun first second => first.key ≤ second.key

section Ascend

variable {held : Accumulator} {line : Bytes} {lines : List Bytes}
  {next run : KeyCount}

theorem Ascend.key_le (hascend : Ascend held (line :: lines))
    (hreading : KeyCount.reading? line = some next) (hrun : run ∈ held.run) :
    run.key ≤ next.key := by
  rw [Ascend, List.filterMap_cons_some hreading] at hascend
  exact (List.pairwise_append.mp hascend).2.2 run (by simpa using hrun) next
    List.mem_cons_self

/-- A run that has the key of the first line may stand in for it. -/
theorem Ascend.rest (hascend : Ascend held (line :: lines))
    (hreading : KeyCount.reading? line = some next)
    (hsame : run.key = next.key) : Ascend ⟨some run⟩ lines := by
  rw [Ascend, List.filterMap_cons_some hreading] at hascend
  obtain ⟨hfirst, hrest⟩ :=
    List.pairwise_cons.mp (List.pairwise_append.mp hascend).2.1
  refine List.pairwise_cons.mpr ⟨?_, hrest⟩
  intro other hother
  rw [hsame]
  exact hfirst other hother

end Ascend

/-- Over lines whose keys ascend, both counters are refused the same line, or
both get to the end, where they still mirror each other. -/
theorem traverse_agree {finished : List KeyCount} {held : Accumulator}
    {totals : Totals}
    (hmirrors : Mirrors finished held totals) {lines : List Bytes}
    (hascend : Ascend held lines) :
    (∃ line error, Fault error ∧
      (traverse StreamingCount.stage.readLine held lines).ending =
        .error (line, error) ∧
      (traverse GroupedCount.stage.readLine totals lines).ending =
        .error (line, error)) ∨
    ∃ ended last more,
      traverse StreamingCount.stage.readLine held lines =
        ⟨ended.map KeyCount.fact, 0, .ok last⟩ ∧
      traverse GroupedCount.stage.readLine totals lines = ⟨[], 0, .ok more⟩ ∧
      Mirrors (finished ++ ended) last more := by
  induction lines generalizing finished held totals with
  | nil =>
      right
      exact ⟨[], held, totals, rfl, rfl, by rwa [List.append_nil]⟩
  | cons line lines ih =>
      have hnext : ∀ next ∈ KeyCount.reading? line, ∀ run ∈ held.run,
          run.key ≤ next.key :=
        fun _ hreading _ hrun => hascend.key_le hreading hrun
      rcases line_agree hmirrors hnext with
        ⟨error, hfault, hstreaming, hgrouped⟩ |
          ⟨next, ended, run, more, hreading, hrun, hstreaming, hgrouped, hmore⟩
      · left
        refine ⟨1, error, hfault, ?_, ?_⟩
        · rw [traverse_cons_refuse hstreaming]
          rfl
        · rw [traverse_cons_refuse hgrouped]
          rfl
      · rw [traverse_cons_write hstreaming, traverse_cons_write hgrouped]
        rcases ih hmore (hascend.rest hreading hrun) with
          ⟨offset, error, hfault, hfirst, hsecond⟩ |
            ⟨later, last, totals, hfirst, hsecond, hlast⟩
        · left
          refine ⟨1 + offset, error, hfault, ?_, ?_⟩
          · rw [Traversal.behind, hfirst]
            rfl
          · rw [Traversal.behind, hsecond]
            rfl
        · right
          refine ⟨ended ++ later, last, totals, ?_, ?_, ?_⟩
          · rw [hfirst, List.map_append]
            rfl
          · rw [hsecond]
            rfl
          · rwa [← List.append_assoc]

theorem finish_agree {finished : List KeyCount} {held : Accumulator}
    {totals : Totals}
    (hmirrors : Mirrors finished held totals) :
    finished.map KeyCount.fact ++ StreamingCount.closingFacts held.run =
      totals.map KeyCount.fact := by
  rw [hmirrors.totals_eq, List.map_append]
  congr 1
  cases hrun : held.run with
  | none => rfl
  | some run =>
      exact StreamingCount.closingFacts_some (hmirrors.key_ne_nil run hrun)

theorem atLine_of_fault {error : StageError} (hfault : Fault error)
    (line : Nat) :
    (Failure.ofError error).atLine line = ⟨none, .stream .notUtf8⟩ ∨
      (∃ value fault,
        (Failure.ofError error).atLine line =
          ⟨some line, .invalidCount value fault⟩) ∨
      ∃ key, (Failure.ofError error).atLine line =
        ⟨some line, .countOverflow key⟩ := by
  cases hfault with
  | notUtf8 => exact .inl rfl
  | invalidCount value fault => exact .inr (.inl ⟨value, fault, rfl⟩)
  | overflow key => exact .inr (.inr ⟨key, rfl⟩)

/-- On input whose keys ascend, the streaming counter and the grouping counter
give the same output and the same figures, or they fail alike: at the same line,
for the same text that is no count or the same key whose sum is out of range, or
for a line that is not text. -/
theorem streaming_agrees_with_grouped (input : Bytes)
    (hsorted : ((KeyCount.readings input).map KeyCount.key).Pairwise (· ≤ ·)) :
    (StreamingCount.stage.run .unbounded input).Agree
        (GroupedCount.stage.run .unbounded input) ∧
      ∀ failure,
        (StreamingCount.stage.run .unbounded input).result = .error failure →
        failure = ⟨none, .stream .notUtf8⟩ ∨
          ∃ line,
            (∃ value fault, failure = ⟨some line, .invalidCount value fault⟩) ∨
            ∃ key, failure = ⟨some line, .countOverflow key⟩ := by
  rw [List.pairwise_map] at hsorted
  rw [Stage.run_unbounded, Stage.run_unbounded]
  rcases traverse_agree mirrors_empty hsorted with
    ⟨line, error, hfault, hstreaming, hgrouped⟩ |
      ⟨finished, held, totals, hstreaming, hgrouped, hmirrors⟩
  · change (traverse _ StreamingCount.stage.initial _).ending = _ at hstreaming
    change (traverse _ GroupedCount.stage.initial _).ending = _ at hgrouped
    rw [Stage.reportFrom_error hstreaming, Stage.reportFrom_error hgrouped]
    refine ⟨.failed _ rfl rfl, ?_⟩
    rintro failure ⟨rfl⟩
    rcases atLine_of_fault hfault (0 + line) with hstream | hcount
    · exact .inl hstream
    · exact .inr ⟨0 + line, hcount⟩
  · change traverse _ StreamingCount.stage.initial _ = _ at hstreaming
    change traverse _ GroupedCount.stage.initial _ = _ at hgrouped
    have hheld := congrArg Traversal.ending hstreaming
    have htotals := congrArg Traversal.ending hgrouped
    have hsame := finish_agree hmirrors
    rw [Stage.reportFrom_write hheld rfl, Stage.reportFrom_write htotals rfl,
      hstreaming, hgrouped]
    refine ⟨.succeeded _ _ rfl rfl ?_ rfl ?_ rfl, ?_⟩
    · exact congrArg Fact.stream hsame
    · exact congrArg (0 + List.length ·) hsame
    · rintro failure ⟨⟩

theorem streaming_agrees_with_grouped_on_overflow :
    let input := Text.encode
      "3\nEmptyString\t-2\tmore\na\t9223372036854775807\n a\t1\nno count".toList
    ((KeyCount.readings input).map KeyCount.key).Pairwise (· ≤ ·) ∧
      (StreamingCount.stage.run .unbounded input).Agree
        (GroupedCount.stage.run .unbounded input) := by
  intro input
  have hsorted : ((KeyCount.readings input).map KeyCount.key).Pairwise
      (· ≤ ·) := by
    rw [KeyCount.readings_encode]
    decide
  exact ⟨hsorted, (streaming_agrees_with_grouped input hsorted).1⟩

end Counting

end FactStream
