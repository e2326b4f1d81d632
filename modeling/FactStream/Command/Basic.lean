import FactStream.Counting.Grouped
import FactStream.Counting.Streaming
import FactStream.Environment
import FactStream.Join.Key
import FactStream.Join.Stage
import FactStream.Pattern.Reader
import FactStream.Pattern.Search
import FactStream.Percentage.Stage
import FactStream.Selection.FieldFilter
import FactStream.Selection.PatternTag

/-!
# Commands

A command chooses a stage and its options.  The stage is built before any
input is read, so what is wrong with its configuration is found first.  The words
that explain what is wrong with a pattern are not chosen here: they are asked of
a function that is handed in.
-/

namespace FactStream

inductive Command where
  /-- A column that is named is found by its name, otherwise by its index. -/
  | fieldFilter (matchColumn projectColumn : Nat)
      (matchHeader projectHeader : Option Text)
  | count (grouped : Bool)
  | percentage
  | patternTag (pattern : Text) (field : Option Nat)
  | joinKey (tag variableName : Text)
  | join
  deriving DecidableEq, Repr

namespace Command

def name : Command → Text
  | fieldFilter .. => "field-filter".toList
  | count _ => "count".toList
  | percentage => "percentage".toList
  | patternTag .. => "pattern-tag".toList
  | joinKey .. => "join-key".toList
  | join => "join".toList

def defaultFieldFilter : Command :=
  fieldFilter FieldFilter.defaultMatchColumn FieldFilter.defaultProjectColumn
    none none

def defaultPatternTag : Command :=
  patternTag PatternTagger.defaultPattern none

def defaultJoinKey : Command :=
  joinKey JoinKeyExtractor.defaultTag Environment.columnVariable

/-- The tagger of a written pattern, or what `explain` says of a text that is no
pattern. -/
def tagger (explain : Text → Text) (pattern : Text) (field : Option Nat) :
    Except StageError PatternTagger :=
  match Pattern.ofText? pattern with
  | some found => .ok ⟨found.isFoundIn, field⟩
  | none => .error (.configuration (.invalidPattern pattern (explain pattern)))

/-- Builds the stage of a command from what the environment holds. -/
def build (explain : Text → Text) (command : Command)
    (environment : Environment) :
    Except StageError AnyStage :=
  match command with
  | fieldFilter matchColumn projectColumn matchHeader projectHeader =>
      .ok ⟨_, FieldFilter.stage
        ⟨environment.target, .ofOptions matchColumn matchHeader,
          .ofOptions projectColumn projectHeader⟩⟩
  | count true => .ok ⟨_, GroupedCount.stage⟩
  | count false => .ok ⟨_, StreamingCount.stage⟩
  | percentage => .ok ⟨_, Percentage.stage⟩
  | patternTag pattern field =>
      (tagger explain pattern field).map fun tagger => ⟨_, tagger.stage⟩
  | joinKey tag variableName =>
      (environment.joinColumn variableName).map fun column =>
        ⟨_, JoinKeyExtractor.stage ⟨column, tag⟩⟩
  | join => .ok ⟨_, Joiner.stage⟩

/-- Runs the stage of a command over an input. -/
def execute (explain : Text → Text) (command : Command)
    (environment : Environment) (sink : Sink) (input : Bytes) : RunReport :=
  match command.build explain environment with
  | .error error => .failed (.ofError error)
  | .ok built => built.stage.run sink input

/-- The variables that matter to the command. -/
def variableNames : Command → List Text
  | fieldFilter .. => [Environment.targetVariable]
  | joinKey _ variableName => [variableName]
  | _ => []

end Command

end FactStream
