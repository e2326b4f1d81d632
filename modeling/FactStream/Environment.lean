import FactStream.Failure

/-!
# Configuration from the environment

Two stages take a setting from an environment variable: the field filter its
target and the join key its column.  Both are always looked up, but a value has
to be a column only for the stage that wants one.  A variable that is not set
has a default value, which is a fine target but no column.
-/

namespace FactStream

/-- The settings of the two stages, the column as it is written. -/
structure Configuration where
  target : Text
  columnVariable : Text
  columnText : Text
  deriving DecidableEq, Repr

namespace Configuration

/-- The join column, if one is written. -/
def joinColumn (configuration : Configuration) : Except StageError Nat :=
  (Numeral.readNatural configuration.columnText.trim).mapError fun fault =>
    .configuration (.invalidJoinColumn configuration.columnVariable
      configuration.columnText fault)

end Configuration

/-- The variables that are set, with their values. -/
structure Environment where
  bindings : List (Text × Text)
  deriving DecidableEq, Repr

namespace Environment

def lookup? (environment : Environment) (name : Text) : Option Text :=
  environment.bindings.lookup name

/-- The value of variables that are not set. -/
def defaultValue : Text := "default".toList

def value (environment : Environment) (name : Text) : Text :=
  (environment.lookup? name).getD defaultValue

/-- The variable that holds the target of the field filter. -/
def targetVariable : Text := "interconn".toList

/-- The variable that holds the join column, unless another one is named. -/
def columnVariable : Text := "d2_col".toList

/-- Looks up both settings, the column in the variable of that name. -/
def configuration (environment : Environment) (variableName : Text) :
    Configuration :=
  ⟨(environment.value targetVariable).trim, variableName,
    environment.value variableName⟩

def target (environment : Environment) : Text :=
  (environment.configuration columnVariable).target

/-- The join column that a variable holds. -/
def joinColumn (environment : Environment) (variableName : Text) :
    Except StageError Nat :=
  (environment.configuration variableName).joinColumn

end Environment

end FactStream
