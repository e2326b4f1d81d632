import FactStream.Proofs.Join.Row
import FactStream.Proofs.Selection.FieldFilter
import FactStream.Proofs.Stage.Splitting
import FactStream.Selection.PatternTag

/-!
# Mappers

Three stages take their input line by line: filters with columns given by index,
taggers and extractors.  An input may therefore be cut at the end of any line
and its parts run one by one, also where a part is not text or a line is
refused.
-/

namespace FactStream

namespace PatternTagger

variable (tagger : PatternTagger)

/-- What the tagger makes of a line; it consumes every line it accepts. -/
def answer (line : Text) : Answer :=
  (tagger.searched line).map fun text =>
    (if tagger.found text then [⟨tagKey, line⟩] else [], .consumed)

theorem isMapper_stage : tagger.stage.IsMapper tagger.answer := by
  constructor
  · intro line
    change tagger.step () line = _
    rw [step, answer]
    cases tagger.searched line with
    | error error => rfl
    | ok text =>
        by_cases hfound : tagger.found text
        · simp [hfound, Except.map, Answer.replyIn]
        · simp [hfound, Except.map, Answer.replyIn, Reply.pass]
  · rfl

end PatternTagger

/-- A stage that answers every line by itself. -/
inductive Mapper where
  | fieldFilter (target : Text) (matched projected : Nat)
  | patternTag (found : Text → Bool) (field : Option Nat)
  | joinKey (column : Nat) (tag : Text)

namespace Mapper

def stage : Mapper → AnyStage
  | fieldFilter target matched projected =>
      ⟨_, (FieldFilter.atIndices target matched projected).stage⟩
  | patternTag found field => ⟨_, PatternTagger.stage ⟨found, field⟩⟩
  | joinKey column tag => ⟨_, JoinKeyExtractor.stage ⟨column, tag⟩⟩

/-- A run of its own, with a sink that takes everything. -/
def run (mapper : Mapper) (input : Bytes) : RunReport :=
  mapper.stage.stage.run .unbounded input

theorem exists_answer (mapper : Mapper) :
    ∃ answer, mapper.stage.stage.IsMapper answer := by
  cases mapper with
  | fieldFilter target matched projected =>
      exact ⟨_, FieldFilter.isMapper_stage target matched projected⟩
  | patternTag found field => exact ⟨_, PatternTagger.isMapper_stage _⟩
  | joinKey column tag => exact ⟨_, JoinKeyExtractor.isMapper_stage _⟩

/-- A run over two inputs, the first of which ends with a line, is told by a
run over each: it succeeds if both do, with the outputs put together and the
figures added up, it fails as the run over the first if that fails, and
otherwise as the run over the second, further down by the lines of the first. -/
theorem run_append_of_terminated (mapper : Mapper) {front : Bytes}
    (hfront : IsTerminated lineFeed front) (rest : Bytes) :
    let whole := mapper.run (front ++ rest)
    let first := mapper.run front
    let second := mapper.run rest
    (whole.Succeeds ↔ first.Succeeds ∧ second.Succeeds) ∧
    (∀ left right, first.result = .ok left → second.result = .ok right →
      whole.output = first.output ++ second.output ∧
      whole.result = .ok ⟨left.stage, left.linesRead + right.linesRead,
        left.linesEmitted + right.linesEmitted,
        left.linesSkipped + right.linesSkipped⟩) ∧
    (∀ failure, first.result = .error failure →
      whole.output = first.output ∧ whole.result = .error failure) ∧
    (∀ left failure, first.result = .ok left → second.result = .error failure →
      whole.output = first.output ++ second.output ∧
      whole.result = .error
        ⟨failure.line.map (front.lines.length + ·), failure.error⟩) := by
  intro whole first second
  obtain ⟨answer, hmapper⟩ := mapper.exists_answer
  have hwhole : whole = first.followedBy second :=
    hmapper.run_append hfront rest
  rw [hwhole]
  refine ⟨RunReport.succeeds_followedBy, ?_, ?_, ?_⟩
  · intro left right hleft hright
    rw [RunReport.followedBy_of_ok hleft hright]
    exact ⟨rfl, rfl⟩
  · intro failure hfailure
    rw [RunReport.followedBy_of_error hfailure]
    exact ⟨rfl, hfailure⟩
  · intro left failure hleft hfailure
    rw [RunReport.followedBy_of_ok_of_error hleft hfailure, Failure.behind,
      hmapper.linesRead_eq hleft]
    exact ⟨rfl, rfl⟩

theorem run_append_of_terminated_on_short_record :
    let mapper := patternTag (·.contains 'A') (some 1)
    let front : Text := "h,Al\nx,\n".toList
    let rest : Text := "b,A\r\nshort\nc,A".toList
    let whole := mapper.run (front.encode ++ rest.encode)
    IsTerminated lineFeed front.encode ∧
    whole.output = (mapper.run front.encode).output ++
      (mapper.run rest.encode).output ∧
    whole.result = .error ⟨some 4, .malformedRecord 1 1⟩ := by
  intro mapper front rest whole
  have hfront : IsTerminated lineFeed front.encode := .inr rfl
  have hfirst : (mapper.run front.encode).result =
      .ok ⟨"pattern-tag".toList, 2, 1, 0⟩ := by rfl
  have hsecond : (mapper.run rest.encode).result =
      .error ⟨some 2, .malformedRecord 1 1⟩ := by rfl
  exact ⟨hfront,
    (mapper.run_append_of_terminated hfront rest.encode).2.2.2 _ _ hfirst hsecond⟩

end Mapper

end FactStream
