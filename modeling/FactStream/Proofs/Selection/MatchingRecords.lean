import FactStream.Proofs.Selection.HeaderRows
import FactStream.Proofs.Stage.History

/-!
# What a filter makes of any lines

A filter goes through lines whose records it admits, each under the nearest
header row before it, and writes the projected fields of those that match.  It
stops at the first record that it does not admit, with what it has written of the
records before.
-/

namespace FactStream.FieldFilter

/-- Every record is admitted under the nearest header row before it. -/
def AdmitsAll (filter : FieldFilter) (records : List Record) : Prop :=
  ∀ headed ∈ underHeaders records, filter.Admits headed

instance admitsAllDecidable (filter : FieldFilter) (records : List Record) :
    Decidable (filter.AdmitsAll records) :=
  inferInstanceAs (Decidable (∀ headed ∈ underHeaders records, _))

/-- The keys that are selected, record by record. -/
def selectedKeys (filter : FieldFilter) (records : List Record) : List Text :=
  (underHeaders records).filterMap filter.selected?

variable {filter : FieldFilter} {records : List Record} {record : Record}

theorem admitsAll_concat :
    filter.AdmitsAll (records ++ [record]) ↔
      filter.AdmitsAll records ∧
        filter.Admits ⟨nearestHeader? records, record⟩ := by
  rw [AdmitsAll, underHeaders_concat, List.forall_mem_append,
    List.forall_mem_singleton, AdmitsAll]

theorem selectedKeys_concat :
    filter.selectedKeys (records ++ [record]) =
      filter.selectedKeys records ++
        (filter.selected? ⟨nearestHeader? records, record⟩).toList := by
  rw [selectedKeys, underHeaders_concat, List.filterMap_append, selectedKeys]
  cases hselected : filter.selected? ⟨nearestHeader? records, record⟩ <;>
    simp [hselected]

/-- A header row that has been admitted has all names. -/
theorem isSome_position?_of_admitsAll (hadmits : filter.AdmitsAll records) :
    ∀ header ∈ nearestHeader? records, ∀ name ∈ filter.names,
      (header.position? name).isSome := by
  intro header hheader name hname
  have hmem := List.mem_of_getLast? hheader
  rw [List.mem_filter, decide_eq_true_iff] at hmem
  obtain ⟨headed, hheaded, rfl⟩ := mem_iff_exists_underHeaders.mp hmem.1
  exact Record.isSome_position?_iff.mpr
    ((hadmits headed hheaded).names_found hmem.2 name hname)

variable {lines : List Text} {line : Text}

theorem recordsOf_concat (lines : List Text) (line : Text) :
    recordsOf (lines ++ [line]) = recordsOf lines ++ [⟨line.trim⟩] := by
  rw [recordsOf, List.map_append, recordsOf, List.map_singleton]

theorem positionsUnder_none (filter : FieldFilter) :
    filter.positionsUnder none = unresolved := by
  have hknown : ∀ column : Column, column.known? none = none := by
    intro column
    cases column <;> rfl
  rw [positionsUnder, hknown, hknown, unresolved]

def history (filter : FieldFilter) : History Positions where
  Accepts lines := filter.AdmitsAll (recordsOf lines)
  written lines := (filter.selectedKeys (recordsOf lines)).map countOnce
  skipped _ := 0
  state lines := filter.positionsUnder (nearestHeader? (recordsOf lines))

theorem follows_history (filter : FieldFilter) :
    filter.stage.Follows filter.history fun lines line =>
      filter.Violates ⟨nearestHeader? (recordsOf lines), ⟨line.trim⟩⟩ where
  accepts_nil := List.forall_mem_nil _
  accepts_of_concat := by
    intro lines line haccepts
    simp only [history, recordsOf_concat, admitsAll_concat] at haccepts
    exact haccepts.1
  written_nil := rfl
  skipped_nil := rfl
  state_nil := filter.positionsUnder_none
  accept := by
    intro lines line haccepts
    simp only [history, recordsOf_concat, admitsAll_concat] at haccepts ⊢
    obtain ⟨interrupted, hstep⟩ := step_of_admits haccepts.2
      (isSome_position?_of_admitsAll haccepts.1)
    rw [nearestHeader?_concat, selectedKeys_concat, List.map_append]
    exact ⟨_, interrupted, .consumed, hstep, rfl, rfl⟩
  refuse := by
    intro lines line haccepts hrefused
    simp only [history, recordsOf_concat, admitsAll_concat, not_and] at hrefused
    exact step_of_not_admits (hrefused haccepts)
      (isSome_position?_of_admitsAll haccepts)
  not_isStream := by
    rintro lines line error (_ | _ | _) <;> rfl

variable {text : Text}

theorem alwaysFinishes_stage (filter : FieldFilter) :
    filter.stage.AlwaysFinishes :=
  fun _ => ⟨_, _, _, rfl⟩

theorem succeeds_iff_admitsAll (filter : FieldFilter) (text : Text) :
    (filter.stage.run .unbounded text.encode).Succeeds ↔
      filter.AdmitsAll (recordsOf text.lines) :=
  filter.follows_history.succeeds_iff_accepts filter.alwaysFinishes_stage

theorem run_of_admitsAll (hadmits : filter.AdmitsAll (recordsOf text.lines)) :
    filter.stage.run .unbounded text.encode =
      ⟨Fact.stream ((filter.selectedKeys (recordsOf text.lines)).map countOnce),
        .ok ⟨filter.stage.name, text.lines.length,
          (filter.selectedKeys (recordsOf text.lines)).length, 0⟩⟩ := by
  rw [filter.follows_history.run_of_accepts hadmits rfl]
  simp only [history, List.append_nil, List.length_map]

/-- A filter writes, in their order, the keys of the records that match under the
columns of the nearest header row before them, unless one of the records is not
admitted; then it has written those of the records before. -/
theorem run_writes_matching_records (filter : FieldFilter) (text : Text) :
    let report := filter.stage.run .unbounded text.encode
    let records := recordsOf text.lines
    (report.Succeeds ↔ filter.AdmitsAll records) ∧
      (report.Succeeds →
        report = ⟨Fact.stream ((filter.selectedKeys records).map countOnce),
          .ok ⟨filter.stage.name, text.lines.length,
            (filter.selectedKeys records).length, 0⟩⟩) ∧
      (¬ report.Succeeds → ∃ before line after error,
        text.lines = before ++ line :: after ∧
        filter.AdmitsAll (recordsOf before) ∧
        filter.Violates ⟨nearestHeader? (recordsOf before), ⟨line.trim⟩⟩ error ∧
        report =
          ⟨Fact.stream ((filter.selectedKeys (recordsOf before)).map countOnce),
            .error ⟨some (before.length + 1), error⟩⟩) := by
  intro report records
  refine ⟨filter.succeeds_iff_admitsAll text, fun hsucceeds => ?_,
    filter.follows_history.run_of_not_succeeds filter.alwaysFinishes_stage⟩
  exact run_of_admitsAll ((filter.succeeds_iff_admitsAll text).mp hsucceeds)

theorem run_writes_matching_records_under_new_headers :
    let filter : FieldFilter :=
      ⟨"t".toList, .named "A".toList, .named "B".toList⟩
    let text : Text :=
      "Interconne, A ,B\nx, t ,y\nx,u,z\n".toList ++
        "B,Interconne,A\nw,x,t\nInterconne,B,A\nx, ,t".toList
    let short : Text := "Interconne,x,A,B\nInterconne,A,B\nx,t,y\nx,t".toList
    (filter.stage.run .unbounded text.encode).output =
        Text.encode "y\t1\nw\t1\n' '\t1\n".toList ∧
      ∃ failure, (filter.stage.run .unbounded short.encode).result =
        .error failure := by
  intro filter text short
  have hsucceeds :=
    (run_writes_matching_records filter text).1.mpr (by decide +kernel)
  have hfails : ¬ (filter.stage.run .unbounded short.encode).Succeeds := by
    rw [(run_writes_matching_records filter short).1]
    decide +kernel
  constructor
  · rw [(run_writes_matching_records filter text).2.1 hsucceeds]
    decide +kernel
  · obtain ⟨before, line, after, error, -, -, -, hrun⟩ :=
      (run_writes_matching_records filter short).2.2 hfails
    rw [hrun]
    exact ⟨_, rfl⟩

end FactStream.FieldFilter
