import FactStream.Proofs.Percentage.Tally
import FactStream.Proofs.Stage.History
import Mathlib.Algebra.BigOperators.Group.List.Basic

/-!
# What the percentages make of any lines

The table takes the counts of the lines of three fields, in their order, until a
line is no count or takes a sum out of range, and it passes over every other
line.  The totals of the keys add up to the grand total, so the shares that are
written at the end are a matter of these totals and their order alone.
-/

namespace FactStream

namespace Counting

open KeyCount

/-- A count that stands under one of several keys is all that they add up to. -/
theorem sum_of_one_key {keys : List Text} (hkeys : keys.Nodup) {wanted : Text}
    (hwanted : wanted ∈ keys) (count : Int) :
    (keys.map fun key => if key = wanted then count else 0).sum = count := by
  -- Sums over a list count with decidable equality, not with that of lists.
  have honce := @List.count_eq_one_of_mem _ instBEqOfDecidableEq inferInstance
    wanted keys hkeys hwanted
  rw [List.sum_map_ite_eq, honce]
  simp

/-- The totals of all keys add up to the sum of all counts. -/
theorem grandTotal_tallies (counts : List KeyCount) :
    grandTotal (tallies counts) = grandTotal counts := by
  induction counts using List.reverseRecOn with
  | nil => rfl
  | append_singleton counts next ih =>
      rw [grandTotal_concat, ← ih]
      by_cases hkey : next.key ∈ counts.map KeyCount.key
      · have hmem : next.key ∈ (counts.map KeyCount.key).eraseDups :=
          List.mem_eraseDups.mpr hkey
        rw [tallies_concat_of_mem hkey, grandTotal, grandTotal, tallies,
          List.map_map, List.map_map]
        simp only [Function.comp_def, eq_comm (a := next.key)]
        rw [List.sum_map_add, sum_of_one_key (Text.nodup_eraseDups _) hmem]
      · rw [tallies_concat_of_not_mem hkey, grandTotal_concat]

end Counting

namespace Percentage

open KeyCount Counting

/-- The line, once trimmed, has three fields. -/
def HasThreeFields (line : Text) : Prop :=
  (Fact.fields line.trim).length = 3

instance hasThreeFieldsDecidable (line : Text) :
    Decidable (HasThreeFields line) :=
  inferInstanceAs (Decidable (_ = _))

/-- What a line of three fields is read as, if its last field is a count. -/
def reading? (line : Text) : Option KeyCount :=
  match Fact.fields line.trim with
  | [_, detection, count] =>
      (Count.read count).toOption.map (KeyCount.mk detection)
  | _ => none

/-- The counts that lines are read as, in their order. -/
def readings (lines : List Text) : List KeyCount :=
  lines.filterMap reading?

/-- What is wrong with a line of three fields behind lines that have been read as
`counts`: its last field is no count, or the sum of all counts or that of its
detection leaves the range with it. -/
inductive Offends (counts : List KeyCount) (line : Text) : StageError → Prop
  | unread {detection value : Text} {fault : NumeralFault}
      (hline : IsRecord line.trim detection value)
      (hread : Count.read value = .error (.invalidCount value fault)) :
      Offends counts line (.invalidCount value fault)
  | overflow {next : KeyCount} {value : Text}
      (hline : IsRecord line.trim next.key value)
      (hread : Count.read value = .ok next.count)
      (hover : ¬ (Count.inRange (grandTotal counts + next.count) ∧
        Count.inRange (total next.key counts + next.count))) :
      Offends counts line (.countOverflow next.key)

/-- No line offends behind the lines before it. -/
def TakesAll (lines : List Text) : Prop :=
  ∀ before line, before ++ [line] <+: lines →
    ∀ error, ¬ Offends (readings before) line error

/-- No line has three fields, or the counts of those that have add up to zero. -/
def NothingToShare (lines : List Text) : Prop :=
  (∀ line ∈ lines, ¬ HasThreeFields line) ∨ grandTotal (readings lines) = 0

instance nothingToShareDecidable (lines : List Text) :
    Decidable (NothingToShare lines) :=
  inferInstanceAs (Decidable (_ ∨ _))

/-- Every key with its total, as a percentage of the sum of all of them. -/
def shareFacts (totals : List KeyCount) : List Fact :=
  totals.map fun total => Share.fact
    ⟨total.key, PercentageTable.percentage total.count (grandTotal totals)⟩

section Reading

variable {line detection value : Text} {lines : List Text} {next : KeyCount}

theorem hasThreeFields_iff :
    HasThreeFields line ↔
      ∃ detection value, IsRecord line.trim detection value := by
  rw [HasThreeFields, List.length_eq_three]
  constructor
  · rintro ⟨label, detection, value, hfields⟩
    exact ⟨detection, value, label, hfields⟩
  · rintro ⟨detection, value, label, hfields⟩
    exact ⟨label, detection, value, hfields⟩

theorem reading?_of_isRecord (hline : IsRecord line.trim detection value) :
    reading? line =
      (Count.read value).toOption.map (KeyCount.mk detection) := by
  obtain ⟨label, hfields⟩ := hline
  rw [reading?, hfields]

theorem reading?_eq_some :
    reading? line = some next ↔
      ∃ value, IsRecord line.trim next.key value ∧
        Count.read value = .ok next.count := by
  constructor
  · intro hreading
    rw [reading?] at hreading
    split at hreading
    · rename_i label detection value hfields
      cases hread : Count.read value with
      | error error => simp [hread, Except.toOption] at hreading
      | ok count =>
          simp only [hread, Except.toOption, Option.map_some,
            Option.some.injEq] at hreading
          subst hreading
          exact ⟨value, ⟨label, hfields⟩, hread⟩
    · cases hreading
  · rintro ⟨value, hline, hread⟩
    rw [reading?_of_isRecord hline, hread]
    rfl

theorem reading?_of_not_hasThreeFields (hline : ¬ HasThreeFields line) :
    reading? line = none := by
  cases hreading : reading? line with
  | none => rfl
  | some next =>
      obtain ⟨value, hrecord, -⟩ := reading?_eq_some.mp hreading
      exact absurd (hasThreeFields_iff.mpr ⟨_, _, hrecord⟩) hline

theorem readings_concat (lines : List Text) (line : Text) :
    readings (lines ++ [line]) = readings lines ++ (reading? line).toList := by
  rw [readings, List.filterMap_append, readings]
  cases hreading : reading? line <;> simp [hreading]

theorem readings_eq_nil (hlines : ∀ line ∈ lines, ¬ HasThreeFields line) :
    readings lines = [] := by
  rw [readings, List.filterMap_eq_nil_iff]
  exact fun line hmem => reading?_of_not_hasThreeFields (hlines line hmem)

/-- Without lines of three fields there is no count to add up. -/
theorem nothingToShare_iff :
    NothingToShare lines ↔ grandTotal (readings lines) = 0 := by
  rw [NothingToShare, or_iff_right_of_imp]
  intro hlines
  rw [readings_eq_nil hlines]
  rfl

/-- A detection is part of its line. -/
theorem lineFeed_not_mem_key (hlines : ∀ line ∈ lines, '\n' ∉ line) :
    ∀ next ∈ readings lines, '\n' ∉ next.key := by
  intro next hmem hfeed
  obtain ⟨line, hline, hreading⟩ := List.mem_filterMap.mp hmem
  obtain ⟨value, ⟨label, hfields⟩, -⟩ := reading?_eq_some.mp hreading
  have hpiece : next.key ∈ Fact.fields line.trim := by simp [hfields]
  exact hlines line hline
    (Text.mem_of_mem_trim (Text.mem_of_mem_piece hpiece hfeed))

theorem takesAll_nil : TakesAll [] := by
  intro before line hbegins
  simp at hbegins

theorem takesAll_concat :
    TakesAll (lines ++ [line]) ↔
      TakesAll lines ∧ ∀ error, ¬ Offends (readings lines) line error := by
  constructor
  · intro htakes
    refine ⟨fun before other hbegins => ?_, htakes lines line List.prefix_rfl⟩
    exact htakes before other (hbegins.trans (List.prefix_append _ _))
  · rintro ⟨htakes, hlast⟩ before other hbegins
    rcases List.prefix_concat_iff.mp hbegins with heq | hbefore
    · obtain ⟨rfl, hother⟩ := List.append_inj' heq rfl
      rw [List.singleton_inj.mp hother]
      exact hlast
    · exact htakes before other hbefore

theorem IsRecord.eq {text other count : Text}
    (hline : IsRecord text detection value) (hother : IsRecord text other count) :
    other = detection ∧ count = value := by
  obtain ⟨label, hfields⟩ := hline
  obtain ⟨first, hothers⟩ := hother
  rw [hfields] at hothers
  cases hothers
  exact ⟨rfl, rfl⟩

/-- A line that is read as a count offends only by its sums. -/
theorem not_offends_iff {counts : List KeyCount}
    (hreading : reading? line = some next) :
    (∀ error, ¬ Offends counts line error) ↔
      Count.inRange (grandTotal counts + next.count) ∧
        Count.inRange (total next.key counts + next.count) := by
  obtain ⟨value, hline, hread⟩ := reading?_eq_some.mp hreading
  constructor
  · intro htakes
    by_contra hover
    exact htakes _ (.overflow hline hread hover)
  · rintro hfits error (⟨hother, hunread⟩ | ⟨hother, hagain, hover⟩)
    · obtain ⟨rfl, rfl⟩ := hline.eq hother
      rw [hread] at hunread
      cases hunread
    · rename_i other count
      obtain ⟨hkey, rfl⟩ := hline.eq hother
      rw [hread] at hagain
      rw [hkey, ← Except.ok.inj hagain] at hover
      exact hover hfits

/-- Lines that are all read as counts are taken exactly if the sums fit. -/
theorem takesAll_iff_sharesFit
    (hread : ∀ line ∈ lines, (reading? line).isSome) :
    TakesAll lines ↔ SharesFit (readings lines) := by
  induction lines using List.reverseRecOn with
  | nil => exact iff_of_true takesAll_nil sharesFit_nil
  | append_singleton lines line ih =>
      rw [List.forall_mem_append, List.forall_mem_singleton] at hread
      obtain ⟨next, hnext⟩ := Option.isSome_iff_exists.mp hread.2
      rw [takesAll_concat, ih hread.1, readings_concat, hnext,
        Option.toList_some, sharesFit_concat, not_offends_iff hnext]

end Reading

section Step

variable {lines : List Text} {line : Text} {counts : List KeyCount}
  {error : StageError}

theorem step_of_offends (hoffends : Offends counts line error) :
    step (.ofCounts counts) line.trim = .refuse error (.ofCounts counts) := by
  cases hoffends with
  | unread hline hread => exact step_of_unread hline hread _
  | overflow hline hread hover =>
      rw [step_of_read hline hread, absorb,
        PercentageTable.add_ofCounts (Count.inRange_of_read hread),
        if_neg hover]

theorem step_of_not_offends
    (htakes : ∀ error, ¬ Offends (readings lines) line error) :
    ∃ outcome : Outcome,
      step (.ofCounts (readings lines)) line.trim =
        .pass (.ofCounts (readings (lines ++ [line]))) outcome ∧
      outcome.skips = if HasThreeFields line then 0 else 1 := by
  rw [readings_concat]
  rcases step_cases (.ofCounts (readings lines)) line.trim with
    ⟨hother, hskip⟩ | ⟨detection, value, hline⟩
  · have hfields : ¬ HasThreeFields line := by
      rw [hasThreeFields_iff]
      rintro ⟨detection, value, hline⟩
      exact hother detection value hline
    refine ⟨.skipped, ?_, (if_neg hfields).symm⟩
    rw [hskip, reading?_of_not_hasThreeFields hfields, Option.toList_none,
      List.append_nil]
  · have hfields : HasThreeFields line :=
      hasThreeFields_iff.mpr ⟨detection, value, hline⟩
    cases hread : Count.read value with
    | error error =>
        obtain ⟨fault, rfl, -⟩ := Count.invalidCount_of_read hread
        exact absurd (.unread hline hread) (htakes _)
    | ok count =>
        have hfits : Count.inRange (grandTotal (readings lines) + count) ∧
            Count.inRange (total detection (readings lines) + count) := by
          by_contra hover
          exact htakes _
            (@Offends.overflow _ _ ⟨detection, count⟩ _ hline hread hover)
        have hreading : reading? line = some ⟨detection, count⟩ :=
          reading?_eq_some.mpr ⟨value, hline, hread⟩
        refine ⟨.consumed, ?_, (if_pos hfields).symm⟩
        rw [step_of_read hline hread, absorb,
          PercentageTable.add_ofCounts (Count.inRange_of_read hread),
          if_pos hfits, hreading]
        rfl

def history : History PercentageTable where
  Accepts := TakesAll
  written _ := []
  skipped lines := lines.countP fun line => ¬ HasThreeFields line
  state lines := .ofCounts (readings lines)

theorem follows_history :
    stage.Follows history fun lines => Offends (readings lines) where
  accepts_nil := takesAll_nil
  accepts_of_concat haccepts := (takesAll_concat.mp haccepts).1
  written_nil := rfl
  skipped_nil := rfl
  state_nil := rfl
  accept := by
    intro lines line haccepts
    obtain ⟨outcome, hstep, hskips⟩ :=
      step_of_not_offends (takesAll_concat.mp haccepts).2
    refine ⟨[], _, outcome, hstep, rfl, ?_⟩
    rw [hskips]
    simp [history, List.countP_append, List.countP_cons]
  refuse := by
    intro lines line haccepts hrefused
    have hoffends : ∃ error, Offends (readings lines) line error := by
      by_contra hnone
      exact hrefused (takesAll_concat.mpr ⟨haccepts, not_exists.mp hnone⟩)
    obtain ⟨error, hoffends⟩ := hoffends
    exact ⟨error, _, step_of_offends hoffends, hoffends⟩
  not_isStream := by
    rintro lines line error (_ | _) <;> rfl

end Step

section Finish

variable {counts : List KeyCount}

theorem finish_of_grandTotal_eq_zero (hzero : grandTotal counts = 0) :
    stage.finish (.ofCounts counts) =
      .refuse .divideByZero (.ofCounts counts) := by
  rcases finish_cases (.ofCounts counts) with hrefuse | ⟨-, htotal, -⟩
  · exact hrefuse
  · exact absurd hzero htotal

theorem finish_of_grandTotal_ne_zero (htotal : grandTotal counts ≠ 0) :
    stage.finish (.ofCounts counts) =
      .write (shareFacts (tallies counts)) (.ofCounts counts)
        (.ofCounts counts) () := by
  have hne : tallies counts ≠ [] := by
    intro hnil
    rw [← grandTotal_tallies, hnil] at htotal
    exact htotal rfl
  have hdivides : ¬ ((PercentageTable.ofCounts counts).isEmpty ||
      (PercentageTable.ofCounts counts).total == 0) := by
    simpa [PercentageTable.ofCounts, PercentageTable.isEmpty] using
      ⟨hne, htotal⟩
  change finish (.ofCounts counts) = _
  rw [finish, PercentageTable.shares, if_neg hdivides]
  simp only [shareFacts, grandTotal_tallies, List.map_map]
  rfl

end Finish

section Run

variable {text : Text}

theorem lines_stream_shareFacts (text : Text) :
    (Fact.stream (shareFacts (tallies (readings text.lines)))).lines =
      (shareFacts (tallies (readings text.lines))).map fun fact =>
        fact.text.encode := by
  have hkeys : ∀ key ∈ ((readings text.lines).map KeyCount.key).eraseDups,
      '\n' ∉ key := by
    intro key hkey
    obtain ⟨next, hnext, rfl⟩ := List.mem_map.mp (List.mem_eraseDups.mp hkey)
    exact lineFeed_not_mem_key (fun _ => Text.lineFeed_not_mem_of_mem_lines)
      next hnext
  apply Fact.lines_stream
  rw [shareFacts, List.forall_mem_map, tallies, List.forall_mem_map]
  exact fun key hkey => Share.lineFeed_not_mem_fact (hkeys key hkey)

theorem run_of_takesAll (htakes : TakesAll text.lines)
    (hshares : ¬ NothingToShare text.lines) :
    stage.run .unbounded text.encode =
      ⟨Fact.stream (shareFacts (tallies (readings text.lines))),
        .ok ⟨stage.name, text.lines.length,
          (tallies (readings text.lines)).length,
          text.lines.countP fun line => ¬ HasThreeFields line⟩⟩ := by
  rw [nothingToShare_iff] at hshares
  rw [follows_history.run_of_accepts htakes
    (finish_of_grandTotal_ne_zero hshares)]
  simp only [history, List.nil_append, shareFacts, List.length_map]

theorem run_of_nothingToShare (htakes : TakesAll text.lines)
    (hnothing : NothingToShare text.lines) :
    stage.run .unbounded text.encode = ⟨[], .error ⟨none, .divideByZero⟩⟩ :=
  follows_history.run_of_finish_refuse htakes
    (finish_of_grandTotal_eq_zero (nothingToShare_iff.mp hnothing))

theorem run_of_not_takesAll (hoffends : ¬ TakesAll text.lines) :
    ∃ before line after error, text.lines = before ++ line :: after ∧
      TakesAll before ∧ Offends (readings before) line error ∧
      stage.run .unbounded text.encode =
        ⟨[], .error ⟨some (before.length + 1), error⟩⟩ := by
  obtain ⟨before, line, after, error, hlines, hbefore, -, herror, hrun⟩ :=
    follows_history.run_of_not_accepts hoffends
  exact ⟨before, line, after, error, hlines, hbefore, herror, hrun⟩

/-- A run that does not succeed has written nothing. -/
theorem run_cases (text : Text) :
    (TakesAll text.lines ∧ ¬ NothingToShare text.lines) ∨
      ∃ failure, stage.run .unbounded text.encode = .failed failure := by
  by_cases htakes : TakesAll text.lines
  · by_cases hnothing : NothingToShare text.lines
    · exact .inr ⟨_, run_of_nothingToShare htakes hnothing⟩
    · exact .inl ⟨htakes, hnothing⟩
  · obtain ⟨before, line, after, error, -, -, -, hrun⟩ :=
      run_of_not_takesAll htakes
    exact .inr ⟨_, hrun⟩

theorem succeeds_iff :
    (stage.run .unbounded text.encode).Succeeds ↔
      TakesAll text.lines ∧ ¬ NothingToShare text.lines := by
  constructor
  · rintro ⟨summary, hresult⟩
    rcases run_cases text with hboth | ⟨failure, hrun⟩
    · exact hboth
    · rw [hrun] at hresult
      cases hresult
  · rintro ⟨htakes, hshares⟩
    rw [run_of_takesAll htakes hshares]
    exact ⟨_, rfl⟩

end Run

/-- On any lines the run ends at the first line of three fields that is no count
or takes a sum out of range, or at the end if there is nothing to share, and then
it has written nothing.  Otherwise it writes one line for every detection, in the
order in which they first came; what it writes depends on nothing but the totals
in this order. -/
theorem run_writes_shares (text : Text) :
    let report := stage.run .unbounded text.encode
    let totals := tallies (readings text.lines)
    (¬ TakesAll text.lines → ∃ before line after error,
      text.lines = before ++ line :: after ∧
      TakesAll before ∧ Offends (readings before) line error ∧
      report = ⟨[], .error ⟨some (before.length + 1), error⟩⟩) ∧
    (TakesAll text.lines →
      (report = ⟨[], .error ⟨none, .divideByZero⟩⟩ ↔
        NothingToShare text.lines) ∧
      (¬ NothingToShare text.lines →
        report = ⟨Fact.stream (shareFacts totals),
          .ok ⟨stage.name, text.lines.length, totals.length,
            text.lines.countP fun line => ¬ HasThreeFields line⟩⟩ ∧
        report.output.lines =
          (shareFacts totals).map fun fact => fact.text.encode)) ∧
    (¬ report.Succeeds → report.output = []) ∧
    ∀ other : Text,
      let again := stage.run .unbounded other.encode
      report.Succeeds → again.Succeeds →
        tallies (readings other.lines) = totals →
          again.output = report.output := by
  intro report totals
  refine ⟨run_of_not_takesAll, fun htakes => ⟨⟨fun hzero => ?_,
    run_of_nothingToShare htakes⟩, fun hshares => ?_⟩, fun hfails => ?_,
    fun other => ?_⟩
  · by_contra hshares
    have hrun := run_of_takesAll htakes hshares
    have hresult := congrArg RunReport.result (hzero.symm.trans hrun)
    cases hresult
  · have hrun : report = _ := run_of_takesAll htakes hshares
    refine ⟨hrun, ?_⟩
    rw [hrun]
    exact lines_stream_shareFacts text
  · rcases run_cases text with hboth | ⟨failure, hrun⟩
    · exact absurd (succeeds_iff.mpr hboth) hfails
    · exact congrArg RunReport.output hrun
  · intro again hsucceeds hagain hsame
    obtain ⟨htakes, hshares⟩ := succeeds_iff.mp hsucceeds
    obtain ⟨htakes_again, hshares_again⟩ := succeeds_iff.mp hagain
    have hrun : report = _ := run_of_takesAll htakes hshares
    have hrun_again : again = _ := run_of_takesAll htakes_again hshares_again
    rw [hrun_again, hrun, hsame]

theorem run_writes_shares_of_signed_counts :
    let text : Text := "x\tLoop\t-5\nLoop\t3\n \tRadar\t1\n".toList ++
      "x\tRadar\t1\ny\tLoop\t 1 ".toList
    let other : Text := "x\tLoop\t-4\nx\tRadar\t+2\nx\tRadar\t-1\n".toList
    let overflowing : Text := "x\tLoop\t9223372036854775807\n".toList ++
      "x\tRadar\t-1\nx\tLoop\t1".toList
    let report := stage.run .unbounded text.encode
    TakesAll text.lines ∧ ¬ NothingToShare text.lines ∧
    report.result = .ok ⟨"percentage".toList, 5, 2, 2⟩ ∧
    report.output.lines.length = 2 ∧
    (stage.run .unbounded other.encode).output = report.output ∧
    ¬ TakesAll overflowing.lines ∧
    (stage.run .unbounded overflowing.encode).output = [] := by
  intro text other overflowing report
  have hresult : report.result = .ok ⟨"percentage".toList, 5, 2, 2⟩ := by rfl
  have hagain : (stage.run .unbounded other.encode).Succeeds :=
    ⟨⟨"percentage".toList, 3, 2, 0⟩, by rfl⟩
  have htakes : TakesAll text.lines := by
    by_contra hnot
    obtain ⟨before, line, after, error, -, -, -, hrun⟩ :=
      (run_writes_shares text).1 hnot
    rw [show report = _ from hrun] at hresult
    cases hresult
  have hshares : ¬ NothingToShare text.lines := by decide +kernel
  have hsame : tallies (readings other.lines) =
      tallies (readings text.lines) := by decide +kernel
  have hoverflows : ¬ TakesAll overflowing.lines := by
    intro hall
    exact hall ["x\tLoop\t9223372036854775807".toList, "x\tRadar\t-1".toList]
      "x\tLoop\t1".toList ⟨[], by decide⟩ _
      (@Offends.overflow _ _ ⟨"Loop".toList, 1⟩ "1".toList
        ⟨"x".toList, by decide⟩ (by rfl) (by decide))
  obtain ⟨-, hwrites⟩ := (run_writes_shares text).2.1 htakes
  obtain ⟨-, hlines⟩ := hwrites hshares
  obtain ⟨before, line, after, error, -, -, -, hrun⟩ :=
    (run_writes_shares overflowing).1 hoverflows
  refine ⟨htakes, hshares, hresult, ?_,
    (run_writes_shares text).2.2.2 other ⟨_, hresult⟩ hagain hsame, hoverflows,
    ?_⟩
  · rw [show report.output.lines = _ from hlines, List.length_map]
    rfl
  · rw [hrun]

end Percentage

end FactStream
