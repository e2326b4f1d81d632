import FactStream.Counting.Streaming
import FactStream.Proofs.Counting.KeyCount
import FactStream.Proofs.Stage.Traversal

/-!
# What the streaming counter does with a count

Lines matter to the counter only as the counts they are read as.  A count begins
the run held, goes on with it, takes its sum out of range, or ends it.
-/

namespace FactStream

theorem Accumulator.advance_some (run next : KeyCount) :
    advance ⟨some run⟩ next =
      if run.key = next.key then
        (run.add next.count).map fun sum => (none, ⟨some sum⟩)
      else
        .ok (some run, ⟨some next⟩) := rfl

namespace StreamingCount

/-- What the counter replies to a count it has read. -/
def absorb (held : Accumulator) (next : KeyCount) : Reply Accumulator Outcome :=
  match held.advance next with
  | .error error => .refuse error held
  | .ok (ended, held) => .write (closingFacts ended) held held .consumed

theorem step_of_ofLine {line : Text} {next : KeyCount}
    (hread : KeyCount.ofLine line = .ok next) (held : Accumulator) :
    step held line = absorb held next := by
  rw [step, hread]
  rfl

theorem readLine_of_reading {line : Bytes} {next : KeyCount}
    (hreading : KeyCount.reading? line = some next) (held : Accumulator) :
    stage.readLine held line = absorb held next := by
  obtain ⟨text, hdecode, hread⟩ := KeyCount.reading?_eq_some hreading
  rw [Stage.readLine, hdecode]
  exact step_of_ofLine hread held

theorem closingFacts_some {run : KeyCount} (hkey : run.key ≠ []) :
    closingFacts (some run) = [run.fact] := by
  rw [closingFacts, if_neg (by simpa using hkey)]

theorem absorb_first (next : KeyCount) :
    absorb stage.initial next =
      .write [] ⟨some next⟩ ⟨some next⟩ .consumed := rfl

theorem absorb_same {run next : KeyCount} (hkey : run.key = next.key)
    (hrange : Count.inRange (run.count + next.count)) :
    absorb ⟨some run⟩ next =
      .write [] ⟨some ⟨run.key, run.count + next.count⟩⟩
        ⟨some ⟨run.key, run.count + next.count⟩⟩ .consumed := by
  rw [absorb, Accumulator.advance_some, if_pos hkey,
    KeyCount.add_of_inRange hrange]
  rfl

theorem absorb_overflow {run next : KeyCount} (hkey : run.key = next.key)
    (hrange : ¬ Count.inRange (run.count + next.count)) :
    absorb ⟨some run⟩ next = .refuse (.countOverflow run.key) ⟨some run⟩ := by
  rw [absorb, Accumulator.advance_some, if_pos hkey,
    KeyCount.add_of_not_inRange hrange]
  rfl

theorem absorb_next {run next : KeyCount} (hkey : run.key ≠ next.key)
    (hne : run.key ≠ []) :
    absorb ⟨some run⟩ next =
      .write [run.fact] ⟨some next⟩ ⟨some next⟩ .consumed := by
  rw [absorb, Accumulator.advance_some, if_neg hkey]
  simp only [closingFacts_some hne]

end StreamingCount

end FactStream
