import FactStream.Command.Usage

/-!
# Reading a command line

Arguments are read from left to right: options before the subcommand, the
subcommand, then its options.  The value of an option is checked when the next
option is read or the arguments end, so an argument that is unknown is reported
before a bad value in front of it.
-/

namespace FactStream.Command

/-- A command line that can be carried out. -/
structure Invocation where
  verbosity : Nat
  summary : Bool
  command : Command
  deriving DecidableEq, Repr

/-- The options that have been read. -/
structure Options where
  /-- Those that can be given once, the last one first. -/
  given : List (Parameter × Text)
  verbosity : Nat
  /-- An option that takes a value and has not been checked, with its value if
  that has been read. -/
  pending : Option (Parameter × Option Text)
  deriving DecidableEq, Repr

namespace Options

def none : Options := ⟨[], 0, .none⟩

def value? (options : Options) (parameter : Parameter) : Option Text :=
  options.given.lookup parameter

def has (options : Options) (parameter : Parameter) : Bool :=
  (options.value? parameter).isSome

def isEmpty (options : Options) : Bool :=
  options.given.isEmpty && options.verbosity == 0

/-- The verbosity goes no further than this. -/
def verbosityLimit : Nat := 255

/-- Whether a value is of the form that the option wants. -/
def isValid (parameter : Parameter) (value : Text) : Bool :=
  match parameter.form, Numeral.readNatural value with
  | .column, .error _ => false
  | _, _ => true

/-- Takes an option that can be given once. -/
def give (options : Options) (parameter : Parameter) (value : Text) :
    Except UsageError Options :=
  if options.has parameter then .error .argumentConflict
  else if isValid parameter value then
    .ok { options with given := (parameter, value) :: options.given }
  else .error .valueValidation

/-- Checks the option that is pending, if one is. -/
def settle (options : Options) : Except UsageError Options :=
  match options.pending with
  | .none => .ok options
  | some (_, .none) => .error .invalidValue
  | some (parameter, some value) =>
      { options with pending := .none }.give parameter value

/-- Takes an option given without a value. -/
def takeBare (options : Options) (parameter : Parameter) :
    Except UsageError Options := do
  let options ← options.settle
  match parameter.form with
  | .tally =>
      return { options with verbosity := min (options.verbosity + 1) verbosityLimit }
  | .switch => options.give parameter []
  | .display answer => throw answer
  | .text | .column => return { options with pending := some (parameter, .none) }

/-- Takes an option given with a value after an equals sign. -/
def takeWithValue (options : Options) (parameter : Parameter) (value : Text) :
    Except UsageError Options :=
  match parameter.form with
  | .text | .column => do (← options.settle).give parameter value
  | _ => .error .tooManyValues

def takeLong (parameters : List Parameter) (options : Options) (text : Text) :
    Except UsageError Options :=
  let name := text.takeWhile (· != '=')
  match parameters.find? fun parameter => parameter.long == name with
  | .none => .error .unknownArgument
  | some parameter =>
      match text.dropWhile (· != '=') with
      | [] => options.takeBare parameter
      | _ :: value => options.takeWithValue parameter value

/-- Takes the letters after one hyphen; no option with a letter has a value. -/
def takeShort (parameters : List Parameter) (options : Options) :
    Text → Except UsageError Options
  | [] => .ok options
  | letter :: letters =>
      match parameters.find? fun parameter => parameter.short? == some letter with
      | .none => .error .unknownArgument
      | some parameter => do
          takeShort parameters (← options.takeBare parameter) letters

/-- Takes an argument that is neither option nor subcommand: it is the value
that an option waits for, or out of place. -/
def takePlain (options : Options) (value : Text) : Except UsageError Options :=
  match options.pending with
  | some (parameter, .none) =>
      .ok { options with pending := some (parameter, some value) }
  | _ => .error .unknownArgument

/-- Two options that exclude each other. -/
def conflict (options : Options) : Bool :=
  options.given.any fun entry => entry.1.rival?.any options.has

end Options

/-- What an argument looks like. -/
inductive Argument where
  /-- Two hyphens, after which nothing is an option. -/
  | separator
  | long (text : Text)
  | short (letters : Text)
  | plain (text : Text)
  deriving DecidableEq, Repr

namespace Argument

def ofText : Text → Argument
  | ['-', '-'] => separator
  | '-' :: '-' :: text => long text
  | ['-'] => plain ['-']
  | '-' :: letters => short letters
  | text => plain text

end Argument

/-- Reads the options of a subcommand.  None takes a bare argument, so what
stands after two hyphens is unknown. -/
def readOptions (parameters : List Parameter) (options : Options) :
    List Text → Except UsageError Options
  | [] => options.settle
  | argument :: arguments =>
      match Argument.ofText argument with
      | .separator => if arguments.isEmpty then options.settle else .error .unknownArgument
      | .long text => do
          readOptions parameters (← options.takeLong parameters text) arguments
      | .short letters => do
          readOptions parameters (← options.takeShort parameters letters) arguments
      | .plain text => do
          readOptions parameters (← options.takePlain text) arguments

/-- What asking for help on the given subcommands comes to. -/
def helpAnswer : List Text → UsageError
  | [] => .displayHelp
  | [name] => if Subcommand.isKnownName name then .displayHelp else .invalidSubcommand
  | _ => .invalidSubcommand

/-- Reads up to the subcommand, and answers it with the arguments after it. -/
def readOutermost (options : Options) :
    List Text → Except UsageError (Options × Subcommand × List Text)
  | [] =>
      .error (if options.isEmpty then .displayHelpOnMissingSubcommand
        else .missingSubcommand)
  | argument :: arguments =>
      match Subcommand.named? argument with
      | some subcommand => .ok (options, subcommand, arguments)
      | .none =>
          if argument = Subcommand.helpName then .error (helpAnswer arguments)
          else
            match Argument.ofText argument with
            | .separator =>
                match arguments with
                | [] => readOutermost options []
                | next :: _ =>
                    .error (if Subcommand.isKnownName next then .unknownArgument
                      else .invalidSubcommand)
            | .long text => do
                readOutermost (← options.takeLong Parameter.outermost text) arguments
            | .short letters => do
                readOutermost (← options.takeShort Parameter.outermost letters) arguments
            | .plain _ => .error .invalidSubcommand

namespace Options

/-- The column that an option gives. -/
def column? (options : Options) (parameter : Parameter) : Option Nat :=
  (options.value? parameter).bind fun value => (Numeral.readNatural value).toOption

/-- The command with the options in place of their defaults. -/
def command (options : Options) : Subcommand → Command
  | .fieldFilter =>
      .fieldFilter
        ((options.column? .matchColumn).getD FieldFilter.defaultMatchColumn)
        ((options.column? .projectColumn).getD FieldFilter.defaultProjectColumn)
        (options.value? .matchHeader) (options.value? .projectHeader)
  | .count => .count (options.has .hashGrouped)
  | .percentage => .percentage
  | .patternTag =>
      .patternTag ((options.value? .pattern).getD PatternTagger.defaultPattern)
        (options.column? .field)
  | .joinKey =>
      .joinKey ((options.value? .tag).getD JoinKeyExtractor.defaultTag)
        ((options.value? .columnVariable).getD Environment.columnVariable)
  | .join => .join

end Options

/-- Reads a command line without the name of the program.  A verbosity given
after the subcommand replaces the one before it. -/
def readLine (arguments : List Text) : Except UsageError Invocation := do
  let (outer, subcommand, arguments) ← readOutermost .none arguments
  let inner ← readOptions subcommand.parameters .none arguments
  if inner.conflict then
    throw .argumentConflict
  return {
    verbosity := if inner.verbosity = 0 then outer.verbosity else inner.verbosity
    summary := inner.has .summary || outer.has .summary
    command := inner.command subcommand }

end FactStream.Command
