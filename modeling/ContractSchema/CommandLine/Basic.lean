import ContractSchema.OutputFormat
import ContractSchema.Schema.Kind

/-!
# The command line

The program shows what is known about contracts. It is called with a command, which
may have operands and options of its own. Two options go with all commands: `-f`
chooses the format of the output and may also be set in the environment, and `-v` asks for
more messages. They may stand in front of the command or behind it.

* `ContractSchema.CommandLine.Command` is what is to be done, and
  `ContractSchema.CommandLine.Invocation` adds the format.
* `ContractSchema.CommandLine.Level` is the place of an argument, in front of the command or
  behind it. It says which switches and how many operands there may be.
* `ContractSchema.CommandLine.UsageError` says why arguments lead to no invocation.
-/

namespace ContractSchema.CommandLine

/-- The variable of the environment that sets the format. -/
def formatVariable : String := "CCDX_FORMAT"

/-! ### Commands -/

/-- **A command** with its operands and options. -/
inductive Command
  /-- Lists the contracts. -/
  | list
  /-- Lists the entrypoints of a contract. -/
  | entrypoints (contract : String)
  /-- Shows a schema of an entrypoint, or of the init function if none is given. -/
  | schema (contract : String) (entrypoint : Option String) (kind : SchemaKind) (raw : Bool)
  /-- Shows the schema of events. -/
  | events (contract : String)
  /-- Shows the documents of forms. -/
  | forms (contract : String)
  /-- Dumps all schemas of a contract into a directory. -/
  | dump (contract : String) (directory : Option String) (force : Bool)
deriving DecidableEq, Repr

/-- **What the program is called for.** -/
structure Invocation where
  /-- The format of the output. -/
  format : OutputFormat
  /-- The command. -/
  command : Command
deriving DecidableEq, Repr

/-- **Why arguments lead to no invocation.** -/
inductive UsageError
  /-- Help has been asked for. -/
  | help
  /-- The version has been asked for. -/
  | version
  /-- There are no arguments at all. -/
  | nothing
  /-- There is no command. -/
  | missingCommand
  /-- There is no such command. -/
  | unknownCommand
  /-- The contract is missing. -/
  | missingOperand
  /-- There is no such option, or an operand too many. -/
  | unknownArgument
  /-- A value is missing or not among those that are allowed. -/
  | invalidValue
  /-- There is no such kind of schema. -/
  | invalidKind
  /-- A value is given to an option that takes none. -/
  | unexpectedValue
  /-- An option that may be given once is given again. -/
  | repeatedOption
deriving DecidableEq, Repr

/-! ### Levels -/

/-- The name of a command. -/
inductive CommandName
  /-- Lists contracts. -/
  | list
  /-- Lists entrypoints. -/
  | entrypoints
  /-- Shows a schema. -/
  | schema
  /-- Shows the schema of events. -/
  | events
  /-- Shows the documents of forms. -/
  | forms
  /-- Dumps schemas. -/
  | dump
deriving DecidableEq, Repr

/-- The words for commands. -/
def commandWords : List (String × CommandName) :=
  [("list", .list), ("entrypoints", .entrypoints), ("schema", .schema), ("events", .events),
    ("ui", .forms), ("dump", .dump)]

/-- The word that asks for help on a command. -/
def helpWord : String := "help"

/-- Whether a word is that of a command or the one that asks for help. -/
def isWord (text : String) : Bool :=
  text = helpWord || (commandWords.lookup text).isSome

/-- An option with a value. -/
inductive Setting
  /-- The format of the output. -/
  | format
  /-- The kind of the schema. -/
  | kind
deriving DecidableEq, Repr

/-- An option without a value. -/
inductive Flag
  /-- Asks for more messages. -/
  | verbose
  /-- Shows the blob and not the type. -/
  | raw
  /-- Removes the directory first. -/
  | force
  /-- Asks for help. -/
  | help
  /-- Asks for the version. -/
  | version
deriving DecidableEq, Repr

/-- **An option.** -/
inductive Switch
  /-- An option with a value. -/
  | setting (setting : Setting)
  /-- An option without a value. -/
  | flag (flag : Flag)
deriving DecidableEq, Repr

namespace Switch

/-- The long name of an option. -/
def long : Switch → String
  | .setting .format => "format"
  | .setting .kind => "kind"
  | .flag .verbose => "verbose"
  | .flag .raw => "raw"
  | .flag .force => "force"
  | .flag .help => "help"
  | .flag .version => "version"

/-- The letter of an option, if it has one. -/
def letter? : Switch → Option Char
  | .setting .format => some 'f'
  | .setting .kind => some 'k'
  | .flag .verbose => some 'v'
  | .flag .raw => none
  | .flag .force => some 'F'
  | .flag .help => some 'h'
  | .flag .version => some 'V'

end Switch

/-- **The place of an argument.** -/
inductive Level
  /-- In front of the command. -/
  | root
  /-- Behind a command. -/
  | command (name : CommandName)
deriving DecidableEq, Repr

namespace Level

/-- The options that go with all commands. -/
def commonSwitches : List Switch :=
  [.setting .format, .flag .verbose, .flag .help]

/-- The options there may be at a level. -/
def switches : Level → List Switch
  | .root => .flag .version :: commonSwitches
  | .command .schema => .setting .kind :: .flag .raw :: commonSwitches
  | .command .dump => .flag .force :: commonSwitches
  | .command _ => commonSwitches

/-- The option with a long name. -/
def long? (level : Level) (name : String) : Option Switch :=
  level.switches.find? fun switch => switch.long = name

/-- The option with a letter. -/
def letter? (level : Level) (letter : Char) : Option Switch :=
  level.switches.find? fun switch => switch.letter? = some letter

/-- The number of operands there may be at a level. -/
def maxOperands : Level → Nat
  | .root => 0
  | .command .list => 0
  | .command .schema => 2
  | .command .dump => 2
  | .command _ => 1

/-- Whether the operand at a position is a path, which must not be empty. -/
def isPath (level : Level) (position : Nat) : Bool :=
  level = .command .dump && position = 1

end Level

end ContractSchema.CommandLine
