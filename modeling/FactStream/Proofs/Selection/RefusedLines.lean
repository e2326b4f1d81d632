import FactStream.Proofs.Selection.Invariant
import FactStream.Proofs.Selection.HeaderRows
import FactStream.Proofs.Stage.Calls

/-!
# What a refused line leaves behind

A filter that is driven by hand goes on after a line that it refuses.  It takes
the positions from a header row one after the other, so a row that has the name
of the matched column but lacks that of the projected one is refused when the
matched column has already been moved.  Every other line that is refused leaves
both columns where they were.
-/

namespace FactStream

/-- The line is refused, and not because the sink is full. -/
def Session.Refuses {State : Type} (session : Session State)
    (stage : Stage State) (line : Text) : Prop :=
  ∃ error, (session.feed stage line).1.result = .error error ∧
    error.isStream = false

/-- What is refused is neither written nor does it take any room. -/
theorem Session.feed_of_refuses {State : Type} {session : Session State}
    {stage : Stage State} {line : Text}
    (hrefuses : session.Refuses stage line) :
    ∃ error left, stage.step session.state line = .refuse error left ∧
      (session.feed stage line).2 = { session with state := left } := by
  obtain ⟨error, hresult, hstream⟩ := hrefuses
  rw [feed] at hresult ⊢
  cases hreply : stage.step session.state line with
  | refuse refusal left => exact ⟨refusal, left, rfl, rfl⟩
  | write facts interrupted next outcome =>
      rw [hreply, perform] at hresult
      split at hresult
      · cases hresult
      · cases hresult
        cases hstream

/-- A column that is named is found in a header row, any other one stays. -/
theorem Column.resolved_cases {column : Column} {known resolved : Option Nat}
    {header : Record} (hresolve : column.resolve known header = .ok resolved) :
    (column.name? = none ∧ resolved = known) ∨
    ∃ name ∈ column.name?, ∃ position,
      header.position? name = some position ∧ resolved = some position := by
  cases column with
  | index index =>
      cases hresolve
      exact .inl ⟨rfl, rfl⟩
  | named name =>
      rw [resolve] at hresolve
      split at hresolve
      · rename_i position hposition
        cases hresolve
        exact .inr ⟨name, rfl, position, hposition, rfl⟩
      · cases hresolve

namespace FieldFilter

/-- A header row that has the name of the matched column, at `position`, but
lacks that of the projected one. -/
structure MovesMatchedOnly (filter : FieldFilter) (record : Record)
    (position : Nat) : Prop where
  isHeader : record.IsHeader
  found : ∃ name ∈ filter.matched.name?, record.position? name = some position
  missing : ∃ name ∈ filter.projected.name?, record.position? name = none

/-- The state that a refused line leaves. -/
inductive Leaves (filter : FieldFilter) (positions : Positions)
    (record : Record) : Positions → Prop
  | same (hkeeps : ∀ position, ¬ filter.MovesMatchedOnly record position) :
      Leaves filter positions record positions
  | moved {position : Nat} (hmoves : filter.MovesMatchedOnly record position) :
      Leaves filter positions record
        { positions with matched := some position }

variable {filter : FieldFilter} {positions left : Positions} {record : Record}
  {line : Text} {error : StageError} {position : Nat}

/-- The position is that of the first field with the name. -/
theorem MovesMatchedOnly.unique {other : Nat}
    (hmoves : filter.MovesMatchedOnly record position)
    (hother : filter.MovesMatchedOnly record other) : position = other := by
  obtain ⟨name, hname, hposition⟩ := hmoves.found
  obtain ⟨otherName, hotherName, hotherPosition⟩ := hother.found
  cases hname.symm.trans hotherName
  exact Option.some_inj.mp (hposition.symm.trans hotherPosition)

theorem leaves_of_readHeader (hheader : record.IsHeader)
    (hreply : filter.readHeader positions record = .refuse error left) :
    filter.Leaves positions record left := by
  rw [readHeader] at hreply
  split at hreply
  · rename_i found hmatched
    cases hreply
    obtain ⟨name, hname, hmissing, -⟩ := Column.named_of_resolve hmatched
    refine .same fun position hmoves => ?_
    obtain ⟨otherName, hotherName, hposition⟩ := hmoves.found
    rw [hname] at hotherName
    cases hotherName
    rw [hmissing] at hposition
    cases hposition
  · rename_i resolved hmatched
    split at hreply
    · rename_i found hprojected
      cases hreply
      obtain ⟨lacked, hlacked, hmissing, -⟩ :=
        Column.named_of_resolve hprojected
      rcases Column.resolved_cases hmatched with
        ⟨hindex, rfl⟩ | ⟨name, hname, position, hposition, rfl⟩
      · refine .same fun position hmoves => ?_
        obtain ⟨name, hname, -⟩ := hmoves.found
        rw [hindex] at hname
        cases hname
      · exact .moved ⟨hheader, ⟨name, hname, hposition⟩,
          lacked, Column.name?_eq_some_iff.mpr hlacked, hmissing⟩
    · cases hreply

theorem leaves_of_step
    (hstep : filter.stage.step positions line = .refuse error left) :
    filter.Leaves positions ⟨line⟩ left := by
  change filter.step positions (Record.mk line).line = _ at hstep
  by_cases hheader : (Record.mk line).IsHeader
  · rw [step_of_isHeader hheader] at hstep
    exact leaves_of_readHeader hheader hstep
  · rw [step_of_not_isHeader hheader] at hstep
    split at hstep
    · cases hstep
      exact .same fun position hmoves => hheader hmoves.isHeader
    · cases hstep

/-- A refused line leaves both columns as they were, and what is fed after it is
responded to as if it had not been there, unless it is a header row that has the
name of the matched column only.  Such a row leaves the projected column, and
what is fed after it is responded to with the matched column where the row has
it. -/
theorem refused_line_moves_matched_column_only (filter : FieldFilter)
    (session : Session Positions) {line : Text}
    (hrefuses : session.Refuses filter.stage line) (later : List Call) :
    let columns := session.state
    let left := (session.feed filter.stage line).2.state
    let transcript := session.drive filter.stage (.line line :: later)
    let exchange := session.exchange filter.stage (.line line)
    ((∀ position, ¬ filter.MovesMatchedOnly ⟨line⟩ position) →
      left = columns ∧
      transcript = (session.drive filter.stage later).behind exchange) ∧
    ∀ position, filter.MovesMatchedOnly ⟨line⟩ position →
      left = { columns with matched := some position } ∧
      transcript =
        (Session.drive filter.stage
          { session with state := { columns with matched := some position } }
          later).behind exchange := by
  intro columns left transcript exchange
  obtain ⟨error, reached, hstep, hnext⟩ := Session.feed_of_refuses hrefuses
  have hleft : left = reached := congrArg Session.state hnext
  have htranscript : transcript =
      (Session.drive filter.stage { session with state := reached } later).behind
        exchange := by
    rw [← hnext]
    rfl
  rw [hleft, htranscript]
  cases leaves_of_step hstep with
  | same hkeeps =>
      exact ⟨fun _ => ⟨rfl, rfl⟩,
        fun position hmoves => absurd hmoves (hkeeps position)⟩
  | moved hmoves =>
      refine ⟨fun hkeeps => absurd hmoves (hkeeps _), fun position hother => ?_⟩
      rw [hmoves.unique hother]
      exact ⟨rfl, rfl⟩

theorem refused_line_moves_matched_column_only_on_missing_name :
    let filter : FieldFilter := ⟨"t".toList, .named "A".toList, .named "B".toList⟩
    let session : Session Positions := ⟨⟨some 1, some 2⟩, .unbounded, 0⟩
    let later : List Call := [.line "t,u,v".toList]
    let known := session.drive filter.stage (.line "B,Interconne".toList :: later)
    let moved := session.drive filter.stage (.line "A,Interconne".toList :: later)
    session.Refuses filter.stage "B,Interconne".toList ∧
    session.Refuses filter.stage "A,Interconne".toList ∧
    known = (session.drive filter.stage later).behind
      (session.exchange filter.stage (.line "B,Interconne".toList)) ∧
    moved = (Session.drive filter.stage ⟨⟨some 0, some 2⟩, .unbounded, 0⟩
        later).behind
      (session.exchange filter.stage (.line "A,Interconne".toList)) ∧
    known.last.emitted = 0 ∧ moved.last.emitted = 1 := by
  intro filter session later known moved
  have hknown : session.Refuses filter.stage "B,Interconne".toList :=
    ⟨_, rfl, rfl⟩
  have hmoved : session.Refuses filter.stage "A,Interconne".toList :=
    ⟨_, rfl, rfl⟩
  have hkeeps : ∀ position,
      ¬ filter.MovesMatchedOnly ⟨"B,Interconne".toList⟩ position := by
    rintro position ⟨-, ⟨name, ⟨rfl⟩, hposition⟩, -⟩
    have hnone : (Record.mk "B,Interconne".toList).position? "A".toList = none := by
      decide
    rw [hnone] at hposition
    cases hposition
  have hmoves : filter.MovesMatchedOnly ⟨"A,Interconne".toList⟩ 0 :=
    ⟨by decide, ⟨_, rfl, by decide⟩, ⟨_, rfl, by decide⟩⟩
  exact ⟨hknown, hmoved,
    ((filter.refused_line_moves_matched_column_only session hknown later).1
      hkeeps).2,
    ((filter.refused_line_moves_matched_column_only session hmoved later).2 0
      hmoves).2, by rfl, by rfl⟩

/-- Behind `Interconne,A,B` the row `A,Interconne` is refused for want of `B`,
but it has moved the matched column, so that a record is written that does not
match where the column was. -/
theorem not_every_refused_line_keeps_columns :
    ¬ ∀ (filter : FieldFilter) (earlier : List Text) (line : Text)
      (later : List Call),
      let session := (Session.drive filter.stage
        (.start filter.stage .unbounded) (earlier.map Call.line)).last
      session.Refuses filter.stage line →
        (session.feed filter.stage line).2.state = session.state ∧
        session.drive filter.stage (.line line :: later) =
          (session.drive filter.stage later).behind
            (session.exchange filter.stage (.line line)) := by
  intro hall
  have hsame := hall ⟨"t".toList, .named "A".toList, .named "B".toList⟩
    ["Interconne,A,B".toList] "A,Interconne".toList [.line "t,u,v".toList]
    ⟨_, rfl, rfl⟩
  have hemitted := congrArg (fun transcript => transcript.last.emitted) hsame.2
  exact absurd hemitted (by decide)

end FieldFilter

end FactStream
