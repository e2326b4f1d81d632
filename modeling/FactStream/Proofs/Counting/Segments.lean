import FactStream.Proofs.Attempts
import FactStream.Proofs.Counting.MaximalRuns
import Mathlib.Data.List.ReduceOption

/-!
# What an accumulator has given up

An accumulator may be advanced by counts and told to give up its run, in any
order.  The runs that it has given up, and the one that it still holds, are the
counts that it has taken, cut wherever it was told to give up its run and
wherever the key changed.  The key and the sum may also be kept in registers of
their own; a sum that stayed behind when its key is gone would then be added to
the next run.
-/

namespace FactStream

/-- What an accumulator can be asked: to go on with a count, or to give up the
run that it holds. -/
inductive CountRequest where
  | advance (next : KeyCount)
  | take
  deriving DecidableEq, Repr

namespace CountRequest

/-- The counts between one time that a run is given up and the next. -/
def cutAtTakes : List CountRequest → List (List KeyCount)
  | [] => [[]]
  | take :: requests => [] :: cutAtTakes requests
  | advance next :: requests => (cutAtTakes requests).modifyHead (next :: ·)

/-- The counts, cut at every take and at every change of key. -/
def segments (requests : List CountRequest) : List (List KeyCount) :=
  (cutAtTakes requests).flatMap (keyRuns KeyCount.key)

variable {run next : KeyCount} (requests : List CountRequest)

theorem cutAtTakes_ne_nil : cutAtTakes requests ≠ [] := by
  induction requests with
  | nil => exact List.cons_ne_nil _ _
  | cons request requests ih =>
      cases request with
      | take => exact List.cons_ne_nil _ _
      | advance next => simpa [cutAtTakes] using ih

theorem segments_take : segments (take :: requests) = segments requests := by
  simp [segments, cutAtTakes]

/-- A run that is given up is a segment. -/
theorem segments_advance_take :
    segments (advance run :: take :: requests) = [run] :: segments requests := by
  simp [segments, cutAtTakes, keyRuns_singleton]

theorem segments_singleton : segments [advance run] = [[run]] := by
  simp [segments, cutAtTakes, keyRuns_singleton]

/-- A run that another key follows is a segment. -/
theorem segments_advance_of_ne (hkey : run.key ≠ next.key) :
    segments (advance run :: advance next :: requests) =
      [run] :: segments (advance next :: requests) := by
  obtain ⟨block, blocks, hblocks⟩ :=
    List.exists_cons_of_ne_nil (cutAtTakes_ne_nil requests)
  have hruns : keyRuns KeyCount.key (run :: next :: block) =
      [run] :: keyRuns KeyCount.key (next :: block) :=
    keyRuns_append (List.cons_ne_nil run [])
      (List.forall_mem_singleton.mpr rfl) (by simpa using hkey)
  simp only [segments, cutAtTakes, hblocks, List.modifyHead_cons,
    List.flatMap_cons, hruns, List.cons_append]

end CountRequest

namespace KeyCount

/-- Two counts of one key that come first may as well come as their sum. -/
theorem mergedRuns_cons_cons {run next : KeyCount} (hkey : run.key = next.key)
    (counts : List KeyCount) :
    mergedRuns (run :: next :: counts) =
      mergedRuns (⟨run.key, run.count + next.count⟩ :: counts) := by
  obtain ⟨front, rest, rfl, hfront, hrest⟩ :=
    exists_append_of_key KeyCount.key run.key counts
  let sum : KeyCount := ⟨run.key, run.count + next.count⟩
  have hboth : ∀ total ∈ run :: next :: front, total.key = run.key :=
    List.forall_mem_cons.mpr
      ⟨rfl, List.forall_mem_cons.mpr ⟨hkey.symm, hfront⟩⟩
  have hsum : ∀ total ∈ sum :: front, total.key = run.key :=
    List.forall_mem_cons.mpr ⟨rfl, hfront⟩
  have hsums : ((run :: next :: front).map count).sum =
      ((sum :: front).map count).sum := by
    simp [sum, Int.add_assoc]
  rw [← List.cons_append, ← List.cons_append, ← List.cons_append,
    mergedRuns_append (List.cons_ne_nil _ _) hboth hrest,
    mergedRuns_append (List.cons_ne_nil _ _) hsum hrest, hsums]

end KeyCount

namespace CountRequest

open KeyCount

/-- Two counts of one key with no take between them fall in one segment. -/
theorem merged_segments_advance_of_eq {run next : KeyCount}
    (hkey : run.key = next.key) (requests : List CountRequest) :
    (segments (advance run :: advance next :: requests)).map merged =
      (segments (advance ⟨run.key, run.count + next.count⟩ :: requests)).map
        merged := by
  obtain ⟨block, blocks, hblocks⟩ :=
    List.exists_cons_of_ne_nil (cutAtTakes_ne_nil requests)
  have hruns := mergedRuns_cons_cons hkey block
  simp only [mergedRuns] at hruns
  simp only [segments, cutAtTakes, hblocks, List.modifyHead_cons,
    List.flatMap_cons, List.map_append, hruns]

end CountRequest

namespace Accumulator

open KeyCount CountRequest

/-- What an accumulator answers to a request, and what it is then. -/
def respond (held : Accumulator) :
    CountRequest → Except StageError (Option KeyCount) × Accumulator
  | .advance next =>
      match held.advance next with
      | .error error => (.error error, held)
      | .ok (finished, held) => (.ok finished, held)
  | .take => (.ok held.take.1, held.take.2)

variable {run next : KeyCount}

theorem respond_same (hkey : run.key = next.key)
    (hrange : Count.inRange (run.count + next.count)) :
    respond ⟨some run⟩ (.advance next) =
      (.ok none, ⟨some ⟨run.key, run.count + next.count⟩⟩) := by
  rw [respond, advance_some, if_pos hkey, KeyCount.add_of_inRange hrange]
  rfl

theorem respond_overflow (hkey : run.key = next.key)
    (hrange : ¬ Count.inRange (run.count + next.count)) :
    respond ⟨some run⟩ (.advance next) =
      (.error (.countOverflow run.key), ⟨some run⟩) := by
  rw [respond, advance_some, if_pos hkey, KeyCount.add_of_not_inRange hrange]
  rfl

theorem respond_other (hkey : run.key ≠ next.key) :
    respond ⟨some run⟩ (.advance next) = (.ok (some run), ⟨some next⟩) := by
  rw [respond, advance_some, if_neg hkey]

/-- The induction is on the requests, and the run held at the beginning stands
for a history that has led to it. -/
theorem finished_append_held (held : Accumulator)
    (requests : List CountRequest) :
    (attemptAll respond held requests).answers.reduceOption ++
        (attemptAll respond held requests).last.run.toList =
      (segments (held.run.toList.map .advance ++
        (attemptAll respond held requests).granted)).map merged := by
  induction requests generalizing held with
  | nil =>
      obtain ⟨_ | run⟩ := held
      · rfl
      · change [run] = (segments [.advance run]).map merged
        rw [segments_singleton, List.map_singleton, merged_singleton]
  | cons request requests ih =>
      obtain ⟨_ | run⟩ := held
      · cases request with
        | take =>
            have hrespond : respond ⟨none⟩ .take = (.ok none, ⟨none⟩) := rfl
            rw [attemptAll_cons hrespond]
            simpa [segments_take] using ih ⟨none⟩
        | advance next =>
            have hrespond : respond ⟨none⟩ (.advance next) =
                (.ok none, ⟨some next⟩) := rfl
            rw [attemptAll_cons hrespond]
            simpa using ih ⟨some next⟩
      · cases request with
        | take =>
            have hrespond : respond ⟨some run⟩ .take =
                (.ok (some run), ⟨none⟩) := rfl
            rw [attemptAll_cons hrespond]
            simpa [segments_advance_take, merged_singleton] using ih ⟨none⟩
        | advance next =>
            by_cases hkey : run.key = next.key
            · by_cases hrange : Count.inRange (run.count + next.count)
              · rw [attemptAll_cons (respond_same hkey hrange)]
                simpa [merged_segments_advance_of_eq hkey] using
                  ih ⟨some ⟨run.key, run.count + next.count⟩⟩
              · rw [attemptAll_cons (respond_overflow hkey hrange)]
                simpa using ih ⟨some run⟩
            · rw [attemptAll_cons (respond_other hkey)]
              simpa [segments_advance_of_ne _ hkey, merged_singleton] using
                ih ⟨some next⟩

end Accumulator

/-- The key and the sum of a run, each by itself. -/
structure CountRegisters where
  key : Option Text
  count : Int
  deriving DecidableEq, Repr

namespace CountRegisters

open KeyCount CountRequest

def cleared : CountRegisters := ⟨none, 0⟩

/-- The run held, if there is a key. -/
def run (registers : CountRegisters) : Option KeyCount :=
  registers.key.map fun key => ⟨key, registers.count⟩

/-- Gives up the run held, and both registers. -/
def take (registers : CountRegisters) : Option KeyCount × CountRegisters :=
  (registers.run, cleared)

def advance (registers : CountRegisters) (next : KeyCount) :
    Except StageError (Option KeyCount) × CountRegisters :=
  if registers.key = some next.key then
    match Count.add? registers.count next.count with
    | none => (.error (.countOverflow next.key), registers)
    | some sum => (.ok none, { registers with count := sum })
  else
    (.ok registers.take.1, ⟨some next.key, next.count⟩)

def respond (registers : CountRegisters) :
    CountRequest → Except StageError (Option KeyCount) × CountRegisters
  | .advance next => registers.advance next
  | .take => (.ok registers.take.1, registers.take.2)

/-- What an accumulator holds, in two registers. -/
def ofAccumulator (held : Accumulator) : CountRegisters :=
  ⟨held.key?, held.count⟩

theorem run_ofAccumulator (held : Accumulator) :
    (ofAccumulator held).run = held.run := by
  obtain ⟨_ | run⟩ := held <;> rfl

theorem respond_ofAccumulator (held : Accumulator) (request : CountRequest) :
    (ofAccumulator held).respond request =
      ((held.respond request).1, ofAccumulator (held.respond request).2) := by
  cases request with
  | take =>
      rw [respond, take, run_ofAccumulator]
      rfl
  | advance next =>
      obtain ⟨_ | run⟩ := held
      · rfl
      · by_cases hkey : run.key = next.key
        · have hsame : (ofAccumulator ⟨some run⟩).key = some next.key :=
            congrArg some hkey
          have hcount : (ofAccumulator ⟨some run⟩).count = run.count := rfl
          rw [respond, advance, if_pos hsame, hcount, Accumulator.respond,
            Accumulator.advance_some, if_pos hkey, KeyCount.add]
          cases Count.add? run.count next.count with
          | none =>
              rw [hkey]
              rfl
          | some sum => rfl
        · have hother : (ofAccumulator ⟨some run⟩).key ≠ some next.key :=
            fun heq => hkey (Option.some_inj.mp heq)
          rw [respond, advance, if_neg hother, Accumulator.respond_other hkey]
          rfl

theorem count_eq_zero_of_key {held : Accumulator}
    (hnone : (ofAccumulator held).key = none) :
    (ofAccumulator held).count = 0 := by
  obtain ⟨_ | run⟩ := held
  · rfl
  · cases hnone

/-- A count is refused if it goes on with the key and takes the sum out of
range. -/
theorem refusesIff_advance (registers : CountRegisters) (next : KeyCount) :
    RefusesIff registers (registers.advance next) (.countOverflow next.key)
      (registers.key = some next.key ∧
        ¬ Count.inRange (registers.count + next.count)) := by
  rw [advance, Count.add?]
  by_cases hkey : registers.key = some next.key
  · rw [if_pos hkey]
    by_cases hrange : Count.inRange (registers.count + next.count)
    · rw [if_pos hrange]
      exact .of_ok (fun hover => hover.2 hrange) rfl
    · rw [if_neg hrange]
      exact .of_error ⟨hkey, hrange⟩ rfl
  · rw [if_neg hkey]
    exact .of_ok (fun hover => hkey hover.1) rfl

/-- Whatever counts and takes two empty registers are given, they answer as the
accumulator does; the runs given up and the one held are the counts taken, cut
at every take and at every change of key, each as one exact sum; without a key
there is no sum; and a count is refused exactly if it goes on with the key and
takes its sum out of range, without a trace. -/
theorem history_is_cut_into_runs (requests : List CountRequest) :
    let trail := attemptAll respond cleared requests
    let plain := attemptAll Accumulator.respond .empty requests
    let held := trail.last
    trail.attempts = plain.attempts ∧
    held = ofAccumulator plain.last ∧
    trail.answers.reduceOption ++ held.run.toList =
      (segments trail.granted).map merged ∧
    (held.key = none → held.count = 0) ∧
    ∀ next, RefusesIff held (held.advance next) (.countOverflow next.key)
      (held.key = some next.key ∧
        ¬ Count.inRange (held.count + next.count)) := by
  intro trail plain held
  obtain ⟨hattempts, hheld⟩ :
      trail.attempts = plain.attempts ∧ held = ofAccumulator plain.last := by
    have hempty : cleared = ofAccumulator .empty := rfl
    refine attemptAll_of_related
      (fun registers accumulator => registers = ofAccumulator accumulator) ?_
      hempty requests
    rintro _ accumulator request rfl
    rw [respond_ofAccumulator]
    exact ⟨rfl, rfl⟩
  refine ⟨hattempts, hheld, ?_, fun hnone => ?_, held.refusesIff_advance⟩
  · rw [Trail.answers, Trail.granted, hattempts, hheld, run_ofAccumulator]
    exact Accumulator.finished_append_held .empty requests
  · rw [hheld] at hnone ⊢
    exact count_eq_zero_of_key hnone

/-- A take ends a run though the key stays, and a count that is refused does
not. -/
example :
    let requests : List CountRequest :=
      [.advance ⟨"a".toList, 9223372036854775807⟩, .advance ⟨"a".toList, 1⟩,
        .advance ⟨"a".toList, -7⟩, .take, .take, .advance ⟨"a".toList, 2⟩,
        .advance ⟨[], 5⟩]
    let trail := attemptAll respond cleared requests
    trail.answers.reduceOption =
        [⟨"a".toList, 9223372036854775800⟩, ⟨"a".toList, 2⟩] ∧
      trail.last = ⟨some [], 5⟩ := by
  decide

end CountRegisters

end FactStream
