import FactStream.Proofs.Join.Invariant
import FactStream.Proofs.Join.Registers
import FactStream.Proofs.Join.RowRuns
import Mathlib.Data.List.DropRight

/-!
# Rows stay in their group

A joiner that is driven by hand may be given rows of any key in any order, may
fail at the end of a group or within its pairs, and may be told of the end of
its lines more than once.  At any time it holds the rows of one key that it has
consumed since that key began, and no others; and whenever a call has failed or
the lines have ended it is as new.
-/

namespace FactStream

namespace Exchange

/-- The row that was consumed, if the call brought one and has not failed. -/
def row? (exchange : Exchange) : Option JoinRow :=
  match exchange.call with
  | .line text => if exchange.succeeded then JoinRow.ofLine? text else none
  | .finish => none

/-- The call has failed, or it was the word that there are no more lines. -/
def Ends (exchange : Exchange) : Prop :=
  exchange.succeeded = false ∨ exchange.call = .finish

instance endsDecidable (exchange : Exchange) : Decidable exchange.Ends :=
  inferInstanceAs (Decidable (_ ∨ _))

/-- The call ends nothing and brings no row of another key. -/
def staysWith (key : Text) (exchange : Exchange) : Bool :=
  !exchange.Ends && exchange.row?.all fun row => row.key = key

end Exchange

/-- The rows of a key since it began: those behind the last exchange that ended
something or brought a row of another key. -/
def rowsSince (key : Text) (exchanges : List Exchange) : List JoinRow :=
  (exchanges.rtakeWhile (Exchange.staysWith key)).filterMap Exchange.row?

section RowsSince

variable {key : Text} {exchanges : List Exchange} {exchange : Exchange}
  {row : JoinRow}

theorem key_of_mem_rowsSince (hrow : row ∈ rowsSince key exchanges) :
    row.key = key := by
  obtain ⟨exchange, hmem, hread⟩ := List.mem_filterMap.mp hrow
  have hstays := List.mem_rtakeWhile_imp hmem
  simpa [Exchange.staysWith, hread] using (Bool.and_eq_true_iff.mp hstays).2

theorem rowsSince_concat_of_ends (hends : exchange.Ends) :
    rowsSince key (exchanges ++ [exchange]) = [] := by
  rw [rowsSince, List.rtakeWhile_concat_neg, List.filterMap_nil]
  simp [Exchange.staysWith, hends]

theorem rowsSince_concat_of_other (hrow : exchange.row? = some row)
    (hother : row.key ≠ key) :
    rowsSince key (exchanges ++ [exchange]) = [] := by
  rw [rowsSince, List.rtakeWhile_concat_neg, List.filterMap_nil]
  simp [Exchange.staysWith, hrow, hother]

theorem rowsSince_concat_of_same (hends : ¬ exchange.Ends)
    (hrow : exchange.row? = some row) :
    rowsSince row.key (exchanges ++ [exchange]) =
      rowsSince row.key exchanges ++ [row] := by
  rw [rowsSince, List.rtakeWhile_concat_pos, List.filterMap_append, rowsSince]
  · simp [hrow]
  · simp [Exchange.staysWith, hends, hrow]

theorem rowsSince_concat_of_none (hends : ¬ exchange.Ends)
    (hrow : exchange.row? = none) :
    rowsSince key (exchanges ++ [exchange]) = rowsSince key exchanges := by
  rw [rowsSince, List.rtakeWhile_concat_pos, List.filterMap_append, rowsSince]
  · simp [hrow]
  · simp [Exchange.staysWith, hends, hrow]

end RowsSince

namespace JoinBucket

/-- A side for every tag of the rows, in the order in which the tags are first
seen, with the contents of the rows of the tag in the order of their arrival. -/
def holding (rows : List JoinRow) : JoinBucket :=
  ⟨(rows.map JoinRow.tag).eraseDups.map fun tag =>
    ⟨tag, (rows.filter fun row => row.tag = tag).map JoinRow.content⟩⟩

theorem pushAll_empty (rows : List JoinRow) :
    empty.pushAll rows = holding rows := by
  let placed := rows.map fun row => PlacedRow.mk row 0
  have hrows : placed.map PlacedRow.toJoinRow = rows := by
    rw [List.map_map]
    exact List.map_id rows
  have hsides := sides_groupOf placed
  rw [groupOf, hrows] at hsides
  have hbucket : empty.pushAll rows = ⟨sidesOf placed⟩ :=
    congrArg JoinBucket.mk hsides
  simp only [hbucket, holding, sidesOf, tagsOf_eq, contentsOf_eq, hrows]

theorem tags_holding (rows : List JoinRow) :
    (holding rows).tags = (rows.map JoinRow.tag).eraseDups := by
  rw [tags, holding, List.map_map]
  exact List.map_id _

theorem contents_ne_nil_of_mem_holding {rows : List JoinRow} {side : JoinSide}
    (hside : side ∈ (holding rows).sides) : side.contents ≠ [] := by
  obtain ⟨tag, htag, rfl⟩ := List.mem_map.mp hside
  obtain ⟨row, hrow, rfl⟩ := List.mem_map.mp (List.mem_eraseDups.mp htag)
  have hkept : row ∈ rows.filter fun other => other.tag = row.tag :=
    List.mem_filter.mpr ⟨hrow, decide_eq_true rfl⟩
  exact List.ne_nil_of_mem (List.mem_map.mpr ⟨row, hkept, rfl⟩)

theorem holding_eq_empty_iff {rows : List JoinRow} :
    holding rows = empty ↔ rows = [] := by
  constructor
  · intro hempty
    have htags := tags_holding rows
    rw [hempty] at htags
    cases rows with
    | nil => rfl
    | cons row rows =>
        rw [List.map_cons, List.eraseDups_cons] at htags
        cases htags
  · rintro rfl
    rfl

end JoinBucket

namespace Joiner

/-- What the joiner holds behind some exchanges: nothing if no key has rows
since it began, and otherwise the rows of the one key that has. -/
inductive Holds (exchanges : List Exchange) : Joiner → Prop
  | nothing (hrows : ∀ key, rowsSince key exchanges = []) : Holds exchanges idle
  | group {key : Text} (hrows : rowsSince key exchanges ≠ [])
      (hothers : ∀ other, other ≠ key → rowsSince other exchanges = []) :
      Holds exchanges ⟨some (.collect key (rowsSince key exchanges))⟩

section Step

variable {exchanges : List Exchange} {exchange : Exchange} {joiner : Joiner}
  {row : JoinRow}

theorem holds_of_ends (hends : exchange.Ends) :
    Holds (exchanges ++ [exchange]) idle :=
  .nothing fun _ => rowsSince_concat_of_ends hends

theorem Holds.of_none (hholds : Holds exchanges joiner)
    (hends : ¬ exchange.Ends) (hrow : exchange.row? = none) :
    Holds (exchanges ++ [exchange]) joiner := by
  have hsame : ∀ key, rowsSince key (exchanges ++ [exchange]) =
      rowsSince key exchanges := fun key => rowsSince_concat_of_none hends hrow
  cases hholds with
  | nothing hrows => exact .nothing fun key => (hsame key).trans (hrows key)
  | @group key hrows hothers =>
      rw [← hsame key]
      refine .group ?_ fun other hother =>
        (hsame other).trans (hothers other hother)
      rwa [hsame key]

theorem holds_of_first (hends : ¬ exchange.Ends)
    (hrow : exchange.row? = some row)
    (hnone : rowsSince row.key exchanges = []) :
    Holds (exchanges ++ [exchange]) ⟨some (.start row)⟩ := by
  have hrows : rowsSince row.key (exchanges ++ [exchange]) = [row] := by
    rw [rowsSince_concat_of_same hends hrow, hnone, List.nil_append]
  have hstart : JoinGroup.start row =
      .collect row.key (rowsSince row.key (exchanges ++ [exchange])) := by
    rw [hrows]
    rfl
  rw [hstart]
  refine .group ?_ fun other hother => ?_
  · rw [hrows]
    exact List.cons_ne_nil row []
  · exact rowsSince_concat_of_other hrow hother.symm

theorem Holds.of_row {facts : List Fact} {group : JoinGroup}
    (hholds : Holds exchanges joiner)
    (hreceives : Receives row joiner.group facts group)
    (hends : ¬ exchange.Ends) (hrow : exchange.row? = some row) :
    Holds (exchanges ++ [exchange]) ⟨some group⟩ := by
  cases hholds with
  | nothing hrows =>
      cases hreceives
      exact holds_of_first hends hrow (hrows row.key)
  | @group key hrows hothers =>
      cases hreceives with
      | same hkey =>
          change key = row.key at hkey
          subst hkey
          have hmore :=
            @rowsSince_concat_of_same exchanges exchange row hends hrow
          have hpush :
              (JoinGroup.collect row.key (rowsSince row.key exchanges)).push row =
                .collect row.key
                  (rowsSince row.key (exchanges ++ [exchange])) := by
            rw [JoinGroup.push_collect, hmore]
          rw [hpush]
          refine .group ?_ fun other hother => ?_
          · rw [hmore]
            exact List.append_ne_nil_of_left_ne_nil hrows [row]
          · exact rowsSince_concat_of_other hrow hother.symm
      | other hkey hfacts =>
          exact holds_of_first hends hrow (hothers row.key (Ne.symm hkey))

end Step

section Calls

theorem failsInto_flush {Answer : Type} (joiner next : Joiner)
    (answer : Answer) : (joiner.flush next answer).FailsInto idle := by
  obtain ⟨_ | group⟩ := joiner
  · exact .inl rfl
  · cases hfacts : group.facts with
    | error error =>
        rw [flush_of_facts_error hfacts]
        exact Eq.refl idle
    | ok facts =>
        rw [flush_of_facts hfacts]
        exact .inr rfl

theorem failsInto_step (joiner : Joiner) (line : Text) :
    (joiner.step line).FailsInto idle := by
  rw [step_eq_receive]
  cases JoinRow.ofLine? line with
  | none => exact .inl rfl
  | some row =>
      obtain ⟨_ | group⟩ := joiner
      · exact .inl rfl
      · by_cases hkey : group.key = row.key
        · have hpass : receive ⟨some group⟩ (some row) =
              .pass ⟨some (group.push row)⟩ .consumed := if_pos hkey
          rw [hpass]
          exact .inl rfl
        · have hflush : receive ⟨some group⟩ (some row) =
              flush ⟨some group⟩ ⟨some (.start row)⟩ .consumed := if_neg hkey
          rw [hflush]
          exact failsInto_flush _ _ _

theorem state_finish (joiner : Joiner) : joiner.finish.state = idle := by
  rcases joiner.finish_cases with
    ⟨-, hpass⟩ | ⟨group, -, ⟨facts, -, hwrite⟩ | ⟨error, -, hrefuse⟩⟩
  · rw [hpass]
    rfl
  · rw [hwrite]
    rfl
  · rw [hrefuse]
    rfl

variable {session : Session Joiner}

/-- A call that fails gives up the group, and so does the end of the lines. -/
theorem state_of_ends {call : Call}
    (hends : (session.exchange stage call).Ends) :
    (session.call stage call).2.state = idle := by
  cases call with
  | line text =>
      have hfails : (session.exchange stage (.line text)).succeeded = false :=
        hends.resolve_right nofun
      rw [Session.succeeded_exchange_line] at hfails
      exact Session.state_perform_of_failed (failsInto_step _ text) hfails
  | finish =>
      let reply := stage.finish session.state
      cases hok : (session.perform reply).1.result.isOk with
      | false =>
          exact Session.state_perform_of_failed (failsInto_flush _ _ _) hok
      | true =>
          obtain ⟨facts, interrupted, answer, hreply⟩ :=
            Session.exists_write_of_succeeded hok
          have hidle : reply.state = idle := state_finish session.state
          rw [hreply] at hidle
          exact hidle

theorem row?_exchange_of_succeeded {text : Text}
    (hok : (session.exchange stage (.line text)).succeeded) :
    (session.exchange stage (.line text)).row? = JoinRow.ofLine? text :=
  if_pos hok

/-- A call ends the group, passes over a line, or takes a row. -/
theorem Holds.call {exchanges : List Exchange}
    (hholds : Holds exchanges session.state) (call : Call) :
    Holds (exchanges ++ [session.exchange stage call])
      (session.call stage call).2.state := by
  by_cases hends : (session.exchange stage call).Ends
  · rw [state_of_ends hends]
    exact holds_of_ends hends
  · obtain ⟨hfails, hfinish⟩ := not_or.mp hends
    cases call with
    | finish => exact absurd rfl hfinish
    | line text =>
        have hok := Bool.eq_true_of_not_eq_false hfails
        have hrow := row?_exchange_of_succeeded hok
        rw [Session.succeeded_exchange_line] at hok
        obtain ⟨facts, interrupted, answer, hreply⟩ :=
          Session.exists_write_of_succeeded hok
        change Holds _ (session.perform (stage.step session.state text)).2.state
        rcases step_write hreply with
          ⟨hread, -, hsame, -⟩ | ⟨row, group, hread, hreceives, hnext, -⟩
        · rw [hsame]
          exact hholds.of_none hends (hrow.trans hread)
        · rw [hnext]
          exact hholds.of_row hreceives hends (hrow.trans hread)

/-- The induction is on the turns, the last one first. -/
theorem holds_takeTurns (turns : List Turn) :
    Holds ((Session.start stage .unbounded).takeTurns stage turns).exchanges
      ((Session.start stage .unbounded).takeTurns stage turns).last.state := by
  induction turns using List.reverseRecOn with
  | nil => exact .nothing fun _ => rfl
  | append_singleton turns turn ih =>
      rw [Session.takeTurns_concat]
      let session :=
        ((Session.start stage .unbounded).takeTurns stage turns).last
      have hholds : Holds _ (session.into turn.sink).state := ih
      exact hholds.call turn.call

theorem state_takeTurns_of_ends {turns : List Turn} {exchange : Exchange}
    (hlast : exchange ∈ ((Session.start stage .unbounded).takeTurns stage
      turns).exchanges.getLast?)
    (hends : exchange.Ends) :
    ((Session.start stage .unbounded).takeTurns stage turns).last.state =
      idle := by
  rcases List.eq_nil_or_concat' turns with rfl | ⟨before, turn, rfl⟩
  · cases hlast
  · rw [Session.takeTurns_concat] at hlast ⊢
    simp only [List.getLast?_concat, Option.mem_some_iff] at hlast
    subst hlast
    exact state_of_ends hends

end Calls

end Joiner

namespace JoinRegisters

/-- Behind some exchanges the registers hold the rows of one key that have been
consumed since it began, with a side for each of their tags. -/
structure HoldOneGroup (registers : JoinRegisters) (exchanges : List Exchange) :
    Prop where
  key_eq_none_iff : registers.key = none ↔ registers.bucket = .empty
  tags_nodup : registers.bucket.tags.Nodup
  contents_ne_nil : ∀ side ∈ registers.bucket.sides, side.contents ≠ []
  key_eq_some_iff : ∀ key,
    registers.key = some key ↔ rowsSince key exchanges ≠ []
  bucket_eq : ∀ key ∈ registers.key,
    registers.bucket = .holding (rowsSince key exchanges)
  key_eq : ∀ key ∈ registers.key, ∀ row ∈ rowsSince key exchanges, row.key = key

theorem holdOneGroup_of_holds {exchanges : List Exchange} {joiner : Joiner}
    (hholds : joiner.Holds exchanges) :
    (ofJoiner joiner).HoldOneGroup exchanges := by
  cases hholds with
  | nothing hrows =>
      exact
        { key_eq_none_iff := iff_of_true rfl rfl
          tags_nodup := List.nodup_nil
          contents_ne_nil := List.forall_mem_nil _
          key_eq_some_iff := fun key => iff_of_false nofun (absurd (hrows key))
          bucket_eq := nofun
          key_eq := nofun }
  | @group key hrows hothers =>
      have hholding :
          (ofJoiner ⟨some (.collect key (rowsSince key exchanges))⟩).bucket =
            .holding (rowsSince key exchanges) := JoinBucket.pushAll_empty _
      refine
        { key_eq_none_iff := ?_
          tags_nodup := ?_
          contents_ne_nil := ?_
          key_eq_some_iff := fun other => ⟨?_, fun hother => ?_⟩
          bucket_eq := ?_
          key_eq := ?_ }
      · rw [hholding, JoinBucket.holding_eq_empty_iff]
        exact iff_of_false nofun hrows
      · rw [hholding, JoinBucket.tags_holding]
        exact Text.nodup_eraseDups _
      · rw [hholding]
        exact fun side => JoinBucket.contents_ne_nil_of_mem_holding
      · rintro ⟨⟩
        exact hrows
      · by_contra hne
        apply hother
        apply hothers other
        rintro rfl
        exact hne rfl
      · rintro other ⟨⟩
        exact hholding
      · rintro other ⟨⟩ row
        exact key_of_mem_rowsSince

end JoinRegisters

namespace Joiner

/-- Whatever calls a joiner is given, and wherever their sinks give out, it
holds no rows but those of one key since that key began; and once a call has
failed or the lines have ended it cannot be told from a new one. -/
theorem rows_stay_in_their_group (turns : List Turn) :
    let transcript :=
      (Session.start stage .unbounded).takeTurns stage turns
    let registers :=
      (Session.start JoinRegisters.stage .unbounded).takeTurns
        JoinRegisters.stage turns
    registers.exchanges = transcript.exchanges ∧
    registers.last.state = .ofJoiner transcript.last.state ∧
    registers.last.state.HoldOneGroup transcript.exchanges ∧
    ∀ exchange ∈ transcript.exchanges.getLast?, exchange.Ends →
      transcript.last.IsAsNew stage ∧
      registers.last.IsAsNew JoinRegisters.stage := by
  intro transcript registers
  have hregisters : registers =
      ⟨transcript.exchanges, transcript.last.map JoinRegisters.ofJoiner⟩ :=
    JoinRegisters.mirrors_joiner.takeTurns_map (.start stage .unbounded) turns
  rw [hregisters]
  refine ⟨rfl, rfl, JoinRegisters.holdOneGroup_of_holds (holds_takeTurns turns),
    ?_⟩
  intro exchange hlast hends
  have hidle : transcript.last.state = idle :=
    state_takeTurns_of_ends hlast hends
  exact ⟨Session.isAsNew_of_state hidle,
    Session.isAsNew_of_state (congrArg JoinRegisters.ofJoiner hidle)⟩

theorem rows_stay_in_their_group_when_sink_fills :
    let row : String → Turn := fun line => ⟨.line line.toList, .unbounded⟩
    let turns := [row "j\ta\t1", row "k\tb\t1", row "k\tx\t1", row "noise",
      row "k\ty\t2 ", row "k\tz\t1"]
    let filled := turns ++ [⟨.line "i\tu\t1".toList, .bounded 6⟩]
    let held := ((Session.start stage .unbounded).takeTurns stage turns).last
    let left := ((Session.start stage .unbounded).takeTurns stage filled)
    held.state = ⟨some ⟨"k".toList,
      ⟨[⟨"1".toList, ["x".toList, "z".toList]⟩, ⟨"2".toList, ["y".toList]⟩]⟩⟩⟩ ∧
    left.exchanges.getLast?.map (fun exchange => exchange.response.written) =
      some (Text.encode "x\ty\nz\t".toList) ∧
    left.last.IsAsNew stage := by
  intro row turns filled held left
  have hlast : ∃ exchange ∈ left.exchanges.getLast?, exchange.Ends :=
    ⟨_, rfl, .inl rfl⟩
  obtain ⟨exchange, hmem, hends⟩ := hlast
  exact ⟨by decide, by decide,
    ((rows_stay_in_their_group filled).2.2.2 exchange hmem hends).1⟩

end Joiner

end FactStream
