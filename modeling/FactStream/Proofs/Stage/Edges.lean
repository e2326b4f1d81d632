import FactStream.Command.Basic
import FactStream.Proofs.Text.Lines
import FactStream.Proofs.Text.Trim
import Mathlib.Data.List.Forall2

/-!
# Blanks at the edges of lines

A run decodes and trims every line before its stage sees it.  Blanks around a
line, a carriage return at its end among them, and the line feed behind the last
line therefore reach no stage, and whatever a stage says of a line, in what it
writes or in an error, it says of the trimmed line.
-/

namespace FactStream

/-- Blanks have been put in front of the line and behind it. -/
def Text.IsPadded (line padded : Text) : Prop :=
  ∃ front rear : Text, (∀ character ∈ front ++ rear, isBlank character) ∧
    padded = front ++ line ++ rear

theorem Text.IsPadded.trim_eq {line padded : Text}
    (hpadded : line.IsPadded padded) : padded.trim = line.trim := by
  obtain ⟨front, rear, hblank, rfl⟩ := hpadded
  rw [List.forall_mem_append] at hblank
  rw [trim_append_blank _ hblank.2, trim_blank_append hblank.1]

/-- What a run makes of a line before its stage sees it, unless it is not
text. -/
def Bytes.trimmed? (line : Bytes) : Option Text :=
  line.decode?.map Text.trim

theorem Bytes.trimmed?_encode (line : Text) :
    trimmed? line.encode = some line.trim := by
  rw [trimmed?, decode?_encode, Option.map_some]

namespace Stage

variable {State : Type}

theorem runFrom_cons_of_trimmed (stage : Stage State) {line : Bytes}
    {text : Text} (hline : line.trimmed? = some text) (session : Session State)
    (read skipped : Nat) (lines : List Bytes) :
    stage.runFrom session read skipped (line :: lines) =
      match (session.feed stage text).1.result with
      | .error error =>
          ⟨(session.feed stage text).1.written,
            .error ((Failure.ofError error).atLine (read + 1))⟩
      | .ok outcome =>
          (stage.runFrom (session.feed stage text).2 (read + 1)
            (skipped + outcome.skips) lines).precededBy
              (session.feed stage text).1.written := by
  obtain ⟨decoded, hdecode, rfl⟩ := Option.map_eq_some_iff.mp hline
  rewrite [runFrom, hdecode]
  rfl

theorem runFrom_cons_of_not_text (stage : Stage State) {line : Bytes}
    (hline : line.trimmed? = none) (session : Session State)
    (read skipped : Nat) (lines : List Bytes) :
    stage.runFrom session read skipped (line :: lines) =
      .failed (.ofError (.stream .notUtf8)) := by
  rw [runFrom, Option.map_eq_none_iff.mp hline]

end Stage

namespace Command

end Command

end FactStream
