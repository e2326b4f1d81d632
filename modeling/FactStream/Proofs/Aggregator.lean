import FactStream.Proofs.Counting.Invariant
import FactStream.Proofs.Percentage.Invariant
import FactStream.Proofs.Stage.Calls

/-!
# Aggregators

The two counters and the percentages add up what they are given.  A line that
cannot be read, or whose count would take a sum out of range, is refused with
all sums as they were, and so is the end of an input without a total.  Driven by
hand, an aggregator therefore forgets what it has refused.
-/

namespace FactStream

namespace StreamingCount

theorem keepsState_stage : stage.KeepsState where
  step := by
    intro held line error left hstep
    change step held line = _ at hstep
    cases hread : KeyCount.ofLine line with
    | error found =>
        rw [step, hread] at hstep
        cases hstep
        rfl
    | ok next =>
        rw [step_of_ofLine hread] at hstep
        rcases absorb_cases held next with ⟨ended, run, -, hwrite⟩ | hrefuse
        · rw [hwrite] at hstep
          cases hstep
        · rw [hrefuse] at hstep
          cases hstep
          rfl
  finish := nofun

end StreamingCount

namespace GroupedCount

theorem keepsState_stage : stage.KeepsState where
  step := by
    intro totals line error left hstep
    change step totals line = _ at hstep
    rw [step] at hstep
    split at hstep
    · cases hstep
      rfl
    · split at hstep
      · cases hstep
        rfl
      · cases hstep
  finish := nofun

end GroupedCount

namespace Percentage

theorem keepsState_stage : stage.KeepsState where
  step := by
    intro table line error left hstep
    change step table line = _ at hstep
    rw [step] at hstep
    split at hstep
    · split at hstep
      · cases hstep
        rfl
      · cases hstep
    · cases hstep
  finish := by
    intro table error left hfinish
    change finish table = _ at hfinish
    rcases finish_cases table with hrefuse | ⟨-, -, hwrite⟩
    · rw [hrefuse] at hfinish
      cases hfinish
      rfl
    · rw [hwrite] at hfinish
      cases hfinish

end Percentage

/-- Of any sequence of lines and ends that an aggregator is given by hand, the
calls that fail can be struck out: they have written nothing, the others are
responded to as before, and the session that is left is the same. -/
theorem aggregators_forget_failures :
    StreamingCount.stage.ForgetsFailures ∧
      GroupedCount.stage.ForgetsFailures ∧ Percentage.stage.ForgetsFailures :=
  ⟨StreamingCount.keepsState_stage.forgetsFailures,
    GroupedCount.keepsState_stage.forgetsFailures,
    Percentage.keepsState_stage.forgetsFailures⟩

theorem aggregators_forget_failures_on_overflow :
    let start := Session.start GroupedCount.stage .unbounded
    let added : Call := .line " a\t9223372036854775807".toList
    let overflowing : Call := .line " a\t1".toList
    let unread : Call := .line "b\tmany".toList
    let transcript := start.drive GroupedCount.stage
      [added, overflowing, unread, .line "b\t2".toList, .finish]
    transcript.kept.map Exchange.call =
        [added, .line "b\t2".toList, .finish] ∧
      start.drive GroupedCount.stage [added, .line "b\t2".toList, .finish] =
        ⟨transcript.kept, transcript.last⟩ ∧
      transcript.last.emitted = 2 := by
  intro start added overflowing unread transcript
  have hkept : transcript.kept.map Exchange.call =
      [added, .line "b\t2".toList, .finish] := by rfl
  have hforgets := (aggregators_forget_failures.2.1
    [added, overflowing, unread, .line "b\t2".toList, .finish]).2
  refine ⟨hkept, ?_, by rfl⟩
  rw [← hkept]
  exact hforgets

end FactStream
