import FactStream.Command.Basic

/-!
# Options and subcommands

The words that a command line is made of: subcommands, one for every kind of
stage, and options, of which every subcommand has its own besides the common
ones.
-/

namespace FactStream.Command

/-- Why a command line is not carried out. -/
inductive UsageError where
  | displayHelp
  | displayVersion
  | displayHelpOnMissingSubcommand
  | missingSubcommand
  | invalidSubcommand
  | unknownArgument
  | argumentConflict
  /-- A value is missing. -/
  | invalidValue
  /-- A value is not of the wanted form. -/
  | valueValidation
  /-- A value is given to an option that takes none. -/
  | tooManyValues
  deriving DecidableEq, Repr

namespace UsageError

/-- Asking for help or for the version is no error. -/
def exitCode : UsageError → Nat
  | displayHelp => 0
  | displayVersion => 0
  | _ => 2

end UsageError

inductive Parameter where
  | verbose
  | summary
  | help
  | version
  | matchColumn
  | projectColumn
  | matchHeader
  | projectHeader
  | hashGrouped
  | pattern
  | field
  | tag
  | columnVariable
  deriving DecidableEq, Repr

/-- How an option is given. -/
inductive Form where
  /-- Any number of times; the number counts. -/
  | tally
  /-- At most once, without a value. -/
  | switch
  /-- At most once, with a text. -/
  | text
  /-- At most once, with the number of a column. -/
  | column
  /-- Instead of anything else. -/
  | display (answer : UsageError)
  deriving DecidableEq, Repr

namespace Parameter

def form : Parameter → Form
  | verbose => .tally
  | summary => .switch
  | help => .display .displayHelp
  | version => .display .displayVersion
  | matchColumn => .column
  | projectColumn => .column
  | matchHeader => .text
  | projectHeader => .text
  | hashGrouped => .switch
  | pattern => .text
  | field => .column
  | tag => .text
  | columnVariable => .text

/-- The name after two hyphens. -/
def long : Parameter → Text
  | verbose => "verbose".toList
  | summary => "summary".toList
  | help => "help".toList
  | version => "version".toList
  | matchColumn => "match-column".toList
  | projectColumn => "project-column".toList
  | matchHeader => "match-header".toList
  | projectHeader => "project-header".toList
  | hashGrouped => "hash-grouped".toList
  | pattern => "pattern".toList
  | field => "field".toList
  | tag => "tag".toList
  | columnVariable => "column-var".toList

/-- The letter after one hyphen. -/
def short? : Parameter → Option Char
  | verbose => some 'v'
  | help => some 'h'
  | version => some 'V'
  | _ => none

/-- The option that must not be given together with this one. -/
def rival? : Parameter → Option Parameter
  | matchHeader => some matchColumn
  | projectHeader => some projectColumn
  | _ => none

/-- The options before the subcommand. -/
def outermost : List Parameter := [verbose, summary, help, version]

/-- The options that can be given before a subcommand as well as after it. -/
def common : List Parameter := [verbose, summary, help]

end Parameter

inductive Subcommand where
  | fieldFilter
  | count
  | percentage
  | patternTag
  | joinKey
  | join
  deriving DecidableEq, Repr

namespace Subcommand

def all : List Subcommand :=
  [fieldFilter, count, percentage, patternTag, joinKey, join]

/-- The command without options. -/
def command : Subcommand → Command
  | fieldFilter => .defaultFieldFilter
  | count => .count false
  | percentage => .percentage
  | patternTag => .defaultPatternTag
  | joinKey => .defaultJoinKey
  | join => .join

def named? (name : Text) : Option Subcommand :=
  all.find? fun subcommand => subcommand.command.name == name

/-- The name that asks for help on a subcommand. -/
def helpName : Text := "help".toList

def isKnownName (name : Text) : Bool :=
  (named? name).isSome || name == helpName

def ownParameters : Subcommand → List Parameter
  | fieldFilter => [.matchColumn, .projectColumn, .matchHeader, .projectHeader]
  | count => [.hashGrouped]
  | percentage => []
  | patternTag => [.pattern, .field]
  | joinKey => [.tag, .columnVariable]
  | join => []

def parameters (subcommand : Subcommand) : List Parameter :=
  Parameter.common ++ subcommand.ownParameters

end Subcommand

end FactStream.Command
