import ContractSchema.CommandLine.Parser
import ContractSchema.CommandLine.Task

/-!
# The program

Reads the arguments, carries out the command with real files, and ends with 0 if all is
well, with 1 if the command fails and with 2 if the arguments lead to no command.
-/

namespace ContractSchema.Program

open CommandLine

/-- What a failed operation on files comes down to. -/
def fileError : IO.Error → FileError
  | .noFileOrDirectory .. => .notFound
  | .alreadyExists .. => .alreadyExists
  | .inappropriateType .. => .notDirectory
  | .invalidArgument _ 36 _ => .nameTooLong
  | .invalidArgument .. => .invalidArgument
  | error => .other error.toString

/-- Carries out an operation on files. -/
def tryFiles {α : Type} (action : IO α) : IO (Except FileError α) := do
  try
    return .ok (← action)
  catch error =>
    return .error (fileError error)

/-- Makes the directories on a path that are missing. If something is in the way, a second
attempt tells whether it stands at the end of the path or before. -/
def makeDirectories (path : String) : IO (Except FileError Unit) := do
  match ← tryFiles (IO.FS.createDirAll path) with
  | .error .alreadyExists => tryFiles (IO.FS.createDir path)
  | result => return result

/-- Creates a file and writes its text, if there is one. -/
def createFile (path : String) (text : Except SchemaError String) :
    IO (Except DumpError Unit) := do
  let write : IO Unit := do
    let handle ← IO.FS.Handle.mk path .writeNew
    handle.putStr (text.toOption.getD "")
  match ← tryFiles write, text with
  | .error error, _ => return .error (.file error)
  | .ok (), .error error => return .error (.schema error)
  | .ok (), .ok _ => return .ok ()

/-- Takes the steps of a dump. -/
def takeSteps (directory : String) : List DumpStep → IO (Except DumpError Unit)
  | [] => return .ok ()
  | .report text :: rest => do
    IO.print text
    takeSteps directory rest
  | .create name text :: rest => do
    match ← createFile (directory ++ "/" ++ name) text with
    | .error error => return .error error
    | .ok () => takeSteps directory rest

/-- Runs a dump. -/
def runDump (directory : String) (force : Bool) (steps : List DumpStep) :
    IO (Except DumpError Unit) := do
  let cleared ← if force then tryFiles (IO.FS.removeDirAll directory) else pure (.ok ())
  match cleared with
  | .ok () | .error .notFound =>
    match ← makeDirectories directory with
    | .error error => return .error (.file error)
    | .ok () => takeSteps directory steps
  | .error error => return .error (.file error)

/-- Reports a failure. -/
def fail (error : CommandError) : IO UInt32 := do
  IO.eprintln ("Error: " ++ error.message)
  return 1

/-- Carries out a task. -/
def carryOut : Task → IO UInt32
  | .print text => do
    IO.print text
    return 0
  | .dump directory force steps => do
    match ← runDump directory force steps with
    | .error error => fail (.dump error)
    | .ok () => return 0

/-- How the program is to be called. -/
def usageText : String :=
  "Usage: ccdx [-f text|yaml|json] [-v] <command>\n\n" ++
  "  list\n  entrypoints <contract>\n  schema [-k <kind>] [--raw] <contract> [<entrypoint>]\n" ++
  "  events <contract>\n  ui <contract>\n  dump [-F] <contract> [<directory>]"

/-- Answers arguments which lead to no command. -/
def explain : UsageError → IO UInt32
  | .help => do
    IO.println usageText
    return 0
  | .version => do
    IO.println "ccdx"
    return 0
  | _ => do
    IO.eprintln usageText
    return 2

/-- Reads the arguments and carries out the command. -/
def run (arguments : List String) : IO UInt32 := do
  let environment ← IO.getEnv formatVariable
  match Invocation.ofArguments environment arguments with
  | .error error => explain error
  | .ok invocation =>
    match invocation.task with
    | .error error => fail error
    | .ok task => carryOut task

end ContractSchema.Program

/-- Runs the program. -/
def main (arguments : List String) : IO UInt32 :=
  ContractSchema.Program.run arguments
