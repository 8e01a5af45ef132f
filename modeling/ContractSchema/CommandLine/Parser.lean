import ContractSchema.CommandLine.Basic

/-!
# Reading the command line

Arguments are read from left to right, first those in front of the command and then
those behind it.

* `ContractSchema.CommandLine.Argument` is an argument by its form.
* `ContractSchema.CommandLine.Reading` is what has been read at a level.
* `ContractSchema.CommandLine.Invocation.ofArguments` reads all arguments.

The value of an option may be attached, as in `--format=json` and `-fjson`, or be the
argument behind it. In the latter case it is looked at only when the next option or
operand comes, or when the arguments end. This decides which of several errors is reported.
What stands behind the command is judged as a whole before the rest of what stands in
front of it.
-/

namespace ContractSchema.CommandLine

/-! ### Arguments -/

/-- **An argument by its form.** -/
inductive Argument
  /-- Two dashes: only operands follow. -/
  | terminator
  /-- An option by its long name, perhaps with a value attached. -/
  | long (name : String) (value : Option String)
  /-- Letters of options behind a dash. -/
  | letters (letters : List Char)
  /-- Anything else. -/
  | plain (text : String)
deriving DecidableEq, Repr

/-- The form of an argument. -/
def Argument.ofString (text : String) : Argument :=
  match text.toList with
  | ['-', '-'] => .terminator
  | '-' :: '-' :: rest =>
    match rest.span (· ≠ '=') with
    | (name, []) => .long (String.ofList name) none
    | (name, _ :: value) => .long (String.ofList name) (some (String.ofList value))
  | '-' :: letter :: rest => .letters (letter :: rest)
  | _ => .plain text

/-! ### What has been read -/

/-- What has come but has not been looked at yet. -/
inductive Pending
  /-- Nothing. -/
  | nothing
  /-- An option, and its value if that has come as well. -/
  | setting (setting : Setting) (value : Option String)
  /-- An operand. -/
  | operand (text : String)
deriving DecidableEq, Repr

/-- **What has been read** at a level. -/
structure Reading where
  /-- The format, if it has been given. -/
  format : Option OutputFormat
  /-- The kind of schema, if it has been given. -/
  kind : Option SchemaKind
  /-- Whether more messages are asked for. -/
  verbose : Bool
  /-- Whether the blob is to be shown. -/
  raw : Bool
  /-- Whether the directory is to be removed first. -/
  force : Bool
  /-- The operands. -/
  operands : List String
  /-- What has not been looked at yet. -/
  pending : Pending
deriving DecidableEq, Repr

namespace Reading

/-- Nothing has been read. -/
def start : Reading :=
  ⟨none, none, false, false, false, [], .nothing⟩

/-- The number of operands that have come. -/
def operandCount (reading : Reading) : Nat :=
  match reading.pending with
  | .operand _ => reading.operands.length + 1
  | _ => reading.operands.length

/-- The option that waits for its value. -/
def waiting? (reading : Reading) : Option Setting :=
  match reading.pending with
  | .setting setting none => some setting
  | _ => none

/-- Takes the value of an option. -/
def assign (reading : Reading) (value : String) : Setting → Except UsageError Reading
  | .format =>
    if reading.format.isSome then .error .repeatedOption
    else
      match OutputFormat.ofName? value with
      | some format => .ok { reading with format := some format }
      | none => .error .invalidValue
  | .kind =>
    if reading.kind.isSome then .error .repeatedOption
    else
      match SchemaKind.ofString value with
      | .ok kind => .ok { reading with kind := some kind }
      | .error _ => .error .invalidKind

/-- Takes a flag. -/
def raise (reading : Reading) : Flag → Except UsageError Reading
  | .verbose => .ok { reading with verbose := true }
  | .raw => if reading.raw then .error .repeatedOption else .ok { reading with raw := true }
  | .force => if reading.force then .error .repeatedOption else .ok { reading with force := true }
  | .help => .error .help
  | .version => .error .version

/-- **Looks at what has come** and has not been looked at yet. -/
def settle (level : Level) (reading : Reading) : Except UsageError Reading :=
  let settled := { reading with pending := .nothing }
  match reading.pending with
  | .nothing => .ok reading
  | .setting _ none => .error .invalidValue
  | .setting setting (some value) => settled.assign value setting
  | .operand text =>
    if level.isPath reading.operands.length ∧ text = "" then .error .invalidValue
    else .ok { settled with operands := reading.operands ++ [text] }

/-! ### Single arguments -/

/-- Reads an option with a value that is attached. -/
def attach (level : Level) (reading : Reading) (setting : Setting) (value : String) :
    Except UsageError Reading := do
  (← reading.settle level).assign value setting

/-- Reads an option whose value is to come. -/
def await (level : Level) (reading : Reading) (setting : Setting) :
    Except UsageError Reading := do
  return { ← reading.settle level with pending := .setting setting none }

/-- Reads a flag. -/
def flag (level : Level) (reading : Reading) (flag : Flag) : Except UsageError Reading := do
  (← reading.settle level).raise flag

/-- Reads an option by its long name. -/
def long (level : Level) (reading : Reading) (name : String) (value : Option String) :
    Except UsageError Reading :=
  match level.long? name, value with
  | none, _ => .error .unknownArgument
  | some (.setting setting), some value => reading.attach level setting value
  | some (.setting setting), none => reading.await level setting
  | some (.flag _), some _ => .error .unexpectedValue
  | some (.flag flag), none => reading.flag level flag

/-- Reads letters of options. What follows the letter of an option with a value is the value,
with or without an equals sign. -/
def letters (level : Level) (reading : Reading) : List Char → Except UsageError Reading
  | [] => .ok reading
  | letter :: rest =>
    match level.letter? letter with
    | none => .error .unknownArgument
    | some (.flag flag) => do letters level (← reading.flag level flag) rest
    | some (.setting setting) =>
      match rest with
      | [] => reading.await level setting
      | '=' :: value => reading.attach level setting (String.ofList value)
      | value => reading.attach level setting (String.ofList value)

/-- Reads an operand; `terminated` says whether it stands behind two dashes. There the word of
a command is no command. -/
def operand (level : Level) (reading : Reading) (terminated : Bool) (text : String) :
    Except UsageError Reading :=
  if reading.operandCount < level.maxOperands then do
    return { ← reading.settle level with pending := .operand text }
  else if level = .root ∧ ¬(terminated ∧ isWord text) then .error .unknownCommand
  else .error .unknownArgument

end Reading

/-! ### All arguments -/

/-- What the words behind `help` lead to. -/
def helpOn (words : List String) : UsageError :=
  match words with
  | [] => .help
  | [word] => if isWord word then .help else .unknownCommand
  | _ => .unknownCommand

/-- **Reads arguments** at a level, up to the word of a command if there may be one. The result
has the command and the arguments behind it. -/
def readLevel (level : Level) (reading : Reading) (terminated : Bool) :
    List String → Except UsageError (Reading × Option (CommandName × List String))
  | [] => .ok (reading, none)
  | text :: rest =>
    if terminated then do
      readLevel level (← reading.operand level true text) true rest
    else
      match Argument.ofString text with
      | .terminator => readLevel level reading true rest
      | .long name value => do readLevel level (← reading.long level name value) false rest
      | .letters letters => do readLevel level (← reading.letters level letters) false rest
      | .plain text =>
        match reading.waiting?, level, commandWords.lookup text with
        | some setting, _, _ =>
          readLevel level { reading with pending := .setting setting (some text) } false rest
        | none, .root, some name => .ok (reading, some (name, rest))
        | none, _, _ =>
          if level = .root ∧ text = helpWord then .error (helpOn rest)
          else do readLevel level (← reading.operand level false text) false rest

/-- Ends a level: what has come last is looked at, and the environment has to be right if it
is needed. -/
def Reading.finish (level : Level) (environment : Option String) (reading : Reading) :
    Except UsageError Reading := do
  let reading ← reading.settle level
  match reading.format, environment with
  | none, some text =>
    if (OutputFormat.ofName? text).isSome then return reading else .error .invalidValue
  | _, _ => return reading

/-- The command that has been read behind its word. -/
def Reading.command (reading : Reading) (name : CommandName) : Except UsageError Command :=
  match name, reading.operands with
  | .list, _ => .ok .list
  | _, [] => .error .missingOperand
  | .entrypoints, contract :: _ => .ok (.entrypoints contract)
  | .schema, contract :: others =>
    .ok (.schema contract others.head? (reading.kind.getD .request) reading.raw)
  | .events, contract :: _ => .ok (.events contract)
  | .forms, contract :: _ => .ok (.forms contract)
  | .dump, contract :: others => .ok (.dump contract others.head? reading.force)

/-- The format: what stands behind the command goes first, then what stands in front of it,
then the environment. -/
def chooseFormat (behind front : Option OutputFormat) (environment : Option String) :
    OutputFormat :=
  ((behind <|> front) <|> environment.bind OutputFormat.ofName?).getD .text

/-- **Reads the arguments** of the program, given the format in the environment. -/
def Invocation.ofArguments (environment : Option String) (arguments : List String) :
    Except UsageError Invocation := do
  let (front, command?) ← readLevel .root .start false arguments
  match command? with
  | none =>
    let front ← front.finish .root environment
    if front.format.isSome ∨ front.verbose ∨ environment.isSome then .error .missingCommand
    else .error .nothing
  | some (name, rest) =>
    let (behind, _) ← readLevel (.command name) .start false rest
    let behind ← behind.finish (.command name) environment
    let command ← behind.command name
    let front ← front.finish .root environment
    return ⟨chooseFormat behind.format front.format environment, command⟩

end ContractSchema.CommandLine
