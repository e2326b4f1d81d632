import FactStream.Join.Key
import FactStream.Join.Stage
import FactStream.Percentage.Stage
import FactStream.Proofs.Record
import FactStream.Proofs.Stage.Edges

/-!
# Noise among the lines

Three stages pass over lines that do not have the expected shape and stay in
the state they are in.  Such lines may be put anywhere into an input, also
within a group of rows or in front of the line that shows that a group is amiss:
the stage writes the same and comes to the same end, and only the figures of the
run and the number of a failing line tell how many there were.
-/

namespace FactStream

/-- A line of an input that noise has been put into. -/
inductive NoisyLine where
  | signal (line : Bytes)
  | noise (line : Text)
  deriving DecidableEq, Repr

namespace NoisyLine

def bytes : NoisyLine → Bytes
  | signal line => line
  | noise line => line.encode

def signal? : NoisyLine → Option Bytes
  | signal line => some line
  | noise _ => none

def noise? : NoisyLine → Option Text
  | signal _ => none
  | noise line => some line

/-- The lines of the input before noise was put into it. -/
def signals (lines : List NoisyLine) : List Bytes :=
  lines.filterMap signal?

/-- The lines that were put in. -/
def noises (lines : List NoisyLine) : List Text :=
  lines.filterMap noise?

@[simp]
theorem signals_append (front rest : List NoisyLine) :
    signals (front ++ rest) = signals front ++ signals rest :=
  List.filterMap_append

@[simp]
theorem noises_append (front rest : List NoisyLine) :
    noises (front ++ rest) = noises front ++ noises rest :=
  List.filterMap_append

@[simp]
theorem signals_nil : signals [] = [] := rfl

@[simp]
theorem signals_cons_signal (line : Bytes) (lines : List NoisyLine) :
    signals (signal line :: lines) = line :: signals lines := rfl

@[simp]
theorem signals_cons_noise (line : Text) (lines : List NoisyLine) :
    signals (noise line :: lines) = signals lines := rfl

@[simp]
theorem noises_nil : noises [] = [] := rfl

@[simp]
theorem noises_cons_signal (line : Bytes) (lines : List NoisyLine) :
    noises (signal line :: lines) = noises lines := rfl

@[simp]
theorem noises_cons_noise (line : Text) (lines : List NoisyLine) :
    noises (noise line :: lines) = line :: noises lines := rfl

end NoisyLine

open NoisyLine

/-- Two reports that tell of the same run, `noisy` over all the lines and
`report` over those that are not noise. -/
structure RunReport.IsSameAmid (lines : List NoisyLine)
    (report noisy : RunReport) : Prop where
  output : noisy.output = report.output
  success : ∀ summary, report.result = .ok summary →
    noisy.result = .ok
      ⟨summary.stage, summary.linesRead + (noises lines).length,
        summary.linesEmitted, summary.linesSkipped + (noises lines).length⟩
  failure : ∀ error, report.result = .error ⟨none, error⟩ →
    noisy.result = .error ⟨none, error⟩
  failureAt : ∀ number error, report.result = .error ⟨some number, error⟩ →
    ∃ before failing after, lines = before ++ .signal failing :: after ∧
      number = (signals before).length + 1 ∧
      noisy.result = .error ⟨some (number + (noises before).length), error⟩

namespace RunReport

variable {lines : List NoisyLine} {report noisy : RunReport}

theorem precededBy_nil (report : RunReport) :
    report.precededBy [] = report := rfl

theorem IsSameAmid.precededBy (hsame : IsSameAmid lines report noisy)
    (written : Bytes) :
    IsSameAmid lines (report.precededBy written)
      (noisy.precededBy written) where
  output := congrArg (written ++ ·) hsame.output
  success := hsame.success
  failure := hsame.failure
  failureAt := hsame.failureAt

/-- What concerns no line is the same wherever noise has been put. -/
theorem isSameAmid_of_error (written : Bytes) (error : StageError)
    (lines : List NoisyLine) :
    IsSameAmid lines ⟨written, .error (.ofError error)⟩
      ⟨written, .error (.ofError error)⟩ where
  output := rfl
  success := nofun
  failure := fun _ hfailure => hfailure
  failureAt := nofun

/-- A line that is refused is numbered among the lines that are read. -/
theorem isSameAmid_of_refused (written : Bytes) (error : StageError)
    (front rest : List NoisyLine) (line : Bytes) :
    IsSameAmid (front ++ .signal line :: rest)
      ⟨written, .error
        ((Failure.ofError error).atLine ((signals front).length + 1))⟩
      ⟨written, .error ((Failure.ofError error).atLine
        ((signals front).length + (noises front).length + 1))⟩ := by
  cases hstream : error.isStream with
  | true =>
      rw [Failure.atLine_of_isStream hstream,
        Failure.atLine_of_isStream hstream]
      exact isSameAmid_of_error written error _
  | false =>
      rw [Failure.atLine_of_not_isStream hstream,
        Failure.atLine_of_not_isStream hstream]
      refine ⟨rfl, nofun, nofun, ?_⟩
      rintro number other ⟨⟩
      refine ⟨front, line, rest, rfl, rfl, ?_⟩
      rw [Nat.add_right_comm]

end RunReport

namespace Stage

variable {State : Type} {stage : Stage State}

/-- Whatever its state, the stage passes over the line. -/
def Ignores (stage : Stage State) (line : Text) : Prop :=
  ∀ state, stage.step state line = .pass state .skipped

/-- Nothing is left in a session of a line that is passed over. -/
theorem feed_of_ignores {line : Text} (hignores : stage.Ignores line)
    (session : Session State) :
    session.feed stage line = (⟨[], .ok .skipped⟩, session) := by
  rw [Session.feed, hignores session.state]
  rfl

theorem conclude_of_noise (session : Session State) (skipped : Nat)
    (lines : List NoisyLine) :
    (stage.conclude session (signals lines).length skipped).IsSameAmid lines
      (stage.conclude session ((signals lines).length + (noises lines).length)
        (skipped + (noises lines).length)) := by
  rw [conclude, conclude]
  cases hresult : (session.finish stage).1.result with
  | error error =>
      simp only [hresult]
      exact RunReport.isSameAmid_of_error _ error lines
  | ok answer =>
      simp only [hresult]
      refine ⟨rfl, ?_, nofun, nofun⟩
      rintro summary ⟨⟩
      rfl

/-- The induction is on the lines that are still to be read, behind those in
front of them; noise is passed over in the noisy run alone, and with every other
line the two sessions remain the same. -/
theorem runFrom_of_noise (front lines : List NoisyLine)
    (hignores : ∀ line ∈ noises lines, stage.Ignores line.trim)
    (session : Session State) (skipped : Nat) :
    (stage.runFrom session (signals front).length skipped
      (signals lines)).IsSameAmid (front ++ lines)
      (stage.runFrom session ((signals front).length + (noises front).length)
        (skipped + (noises front).length) (lines.map bytes)) := by
  induction lines generalizing front session skipped with
  | nil =>
      rw [List.append_nil]
      exact conclude_of_noise session skipped front
  | cons line lines ih =>
      cases line with
      | noise line =>
          rw [noises_cons_noise, List.forall_mem_cons] at hignores
          have hfeed := feed_of_ignores hignores.1
          have hafter := ih (front ++ [.noise line]) hignores.2 session skipped
          rw [List.map_cons, bytes,
            runFrom_cons_of_trimmed stage (Bytes.trimmed?_encode line)]
          simp only [hfeed, RunReport.precededBy_nil, Outcome.skips]
          simpa [Nat.add_assoc] using hafter
      | signal line =>
          rw [List.map_cons, signals_cons_signal, bytes]
          cases htrimmed : line.trimmed? with
          | none =>
              rw [runFrom_cons_of_not_text stage htrimmed,
                runFrom_cons_of_not_text stage htrimmed]
              exact RunReport.isSameAmid_of_error [] _ _
          | some text =>
              rw [runFrom_cons_of_trimmed stage htrimmed,
                runFrom_cons_of_trimmed stage htrimmed]
              cases hresult : (session.feed stage text).1.result with
              | error error =>
                  exact RunReport.isSameAmid_of_refused _ error front lines line
              | ok outcome =>
                  have hafter := ih (front ++ [.signal line]) hignores
                    (session.feed stage text).2 (skipped + outcome.skips)
                  simpa [Nat.add_right_comm] using hafter.precededBy
                    (session.feed stage text).1.written

/-- A run over an input with noise in it tells of the same run. -/
theorem run_of_noise (sink : Sink) {lines : List NoisyLine}
    (hignores : ∀ line ∈ noises lines, stage.Ignores line.trim)
    {input noisy : Bytes} (hinput : input.lines = signals lines)
    (hnoisy : noisy.lines = lines.map bytes) :
    (stage.run sink input).IsSameAmid lines (stage.run sink noisy) := by
  rw [run, run, hinput, hnoisy]
  exact runFrom_of_noise [] lines hignores (.start stage sink) 0

end Stage

section Ignored

variable {line : Text}

theorem Percentage.ignores_of_length_ne
    (hfields : (Fact.fields line).length ≠ 3) : stage.Ignores line := by
  intro table
  change step table line = _
  rw [step]
  split
  · rename_i hthree
    rw [hthree] at hfields
    exact absurd rfl hfields
  · rfl

theorem JoinRow.ofLine?_of_length_ne (hfields : (Fact.fields line).length ≠ 3) :
    ofLine? line = none := by
  rw [ofLine?]
  split
  · rename_i hthree
    rw [hthree] at hfields
    exact absurd rfl hfields
  · rfl

theorem Joiner.ignores_of_length_ne (hfields : (Fact.fields line).length ≠ 3) :
    stage.Ignores line := by
  intro joiner
  change step joiner line = _
  rw [step, JoinRow.ofLine?_of_length_ne hfields]

theorem JoinKeyExtractor.ignores_of_size_le {extractor : JoinKeyExtractor}
    (hsize : (Record.mk line).size ≤ extractor.column) :
    extractor.stage.Ignores line := by
  intro state
  change extractor.step state line = _
  rw [step, row?, Record.get?_eq_none_iff.mpr hsize]
  rfl

end Ignored

/-- A stage that passes over lines of another shape. -/
inductive Sifter where
  | percentage
  | join
  | joinKey (column : Nat) (tag : Text)
  deriving DecidableEq, Repr

namespace Sifter

def stage : Sifter → AnyStage
  | percentage => ⟨_, Percentage.stage⟩
  | join => ⟨_, Joiner.stage⟩
  | joinKey column tag => ⟨_, JoinKeyExtractor.stage ⟨column, tag⟩⟩

/-- The line has not the shape that the stage expects: three fields with tabs
between them, or as many with commas between them as make up the join
column. -/
def IsNoise : Sifter → Text → Prop
  | percentage, line => (Fact.fields line.trim).length ≠ 3
  | join, line => (Fact.fields line.trim).length ≠ 3
  | joinKey column _, line => (Record.mk line).size ≤ column

instance isNoiseDecidable (sifter : Sifter) (line : Text) :
    Decidable (sifter.IsNoise line) :=
  match sifter with
  | percentage => inferInstanceAs (Decidable (_ ≠ 3))
  | join => inferInstanceAs (Decidable (_ ≠ 3))
  | joinKey column _ => inferInstanceAs (Decidable (_ ≤ column))

theorem ignores_of_isNoise {sifter : Sifter} {line : Text}
    (hnoise : sifter.IsNoise line) : sifter.stage.stage.Ignores line.trim := by
  cases sifter with
  | percentage => exact Percentage.ignores_of_length_ne hnoise
  | join => exact Joiner.ignores_of_length_ne hnoise
  | joinKey column tag =>
      apply JoinKeyExtractor.ignores_of_size_le
      rw [Record.size_trim]
      exact hnoise

/-- Noise at any place in an input changes neither what is written nor how the
run ends: with it the run reads and skips as many lines more, and a line that is
refused is as much further down as there is noise in front of it. -/
theorem run_passes_over_noise (sifter : Sifter) (sink : Sink)
    {lines : List NoisyLine}
    (hnoise : ∀ line ∈ noises lines, sifter.IsNoise line)
    {input noisy : Bytes} (hinput : input.lines = signals lines)
    (hnoisy : noisy.lines = lines.map bytes) :
    (sifter.stage.stage.run sink input).IsSameAmid lines
      (sifter.stage.stage.run sink noisy) :=
  Stage.run_of_noise sink
    (fun line hline => ignores_of_isNoise (hnoise line hline)) hinput hnoisy

theorem run_passes_over_noise_before_refused_row :
    let lines : List NoisyLine :=
      [.noise "?".toList, .signal (Text.encode "k\tx\t1".toList),
        .noise "\tk\ty\t".toList, .noise "k\ty".toList,
        .signal (Text.encode " k\ty\t2 ".toList), .noise [],
        .signal (Text.encode "j\tz\t1".toList), .noise "i\tu\t1\t2".toList,
        .signal (Text.encode "i\tu\t2".toList), .noise "!".toList]
    let input : Text := "k\tx\t1\n k\ty\t2 \nj\tz\t1\ni\tu\t2".toList
    let noisy : Text :=
      "?\nk\tx\t1\n\tk\ty\t\nk\ty\n k\ty\t2 \n".toList ++
        "\nj\tz\t1\ni\tu\t1\t2\ni\tu\t2\n!\n".toList
    let report := join.stage.stage.run .unbounded input.encode
    let other := join.stage.stage.run .unbounded noisy.encode
    report.result = .error ⟨some 4, .joinArity "j".toList ["1".toList]⟩ ∧
    other.result = .error ⟨some 9, .joinArity "j".toList ["1".toList]⟩ ∧
    report.IsSameAmid lines other := by
  intro lines input noisy report other
  have hnoise : ∀ line ∈ noises lines, join.IsNoise line := by decide
  exact ⟨by rfl, by rfl,
    join.run_passes_over_noise .unbounded hnoise (by decide) (by decide)⟩

end Sifter

end FactStream
