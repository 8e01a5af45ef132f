import ContractSchema.CommandLine.Basic
import ContractSchema.Dump
import ContractSchema.Form.Registry
import ContractSchema.Registry
import ContractSchema.Schema.Text
import ContractSchema.Summary

/-!
# What commands do

Most commands only print something, and what they print is known before they run. A
dump is the only one to touch files.

* `ContractSchema.CommandLine.Task` is what a command comes down to,
  `ContractSchema.CommandLine.Invocation.task` finds it out.
* `ContractSchema.CommandLine.Task.run` carries a task out in a file tree.
* `ContractSchema.CommandLine.CommandError` says why a command fails.
-/

namespace ContractSchema.CommandLine

/-! ### Errors -/

/-- **Why a command fails.** -/
inductive CommandError
  /-- There is no such contract. -/
  | unknownContract (contract : String)
  /-- A schema of the init function is asked for that it cannot have. -/
  | onlyRequest
  /-- The contract has no such entrypoint. -/
  | unknownEntrypoint (contract entrypoint : String)
  /-- The method has no schema of that kind. -/
  | noSchema (method : String) (kind : SchemaKind)
  /-- The contract describes no events. -/
  | noEvents (contract : String)
  /-- There are no forms for the contract. -/
  | noForms (contract : String)
  /-- A schema cannot be read. -/
  | schema (error : SchemaError)
  /-- The dump fails. -/
  | dump (error : DumpError)
deriving DecidableEq, Repr

/-- The text of the error. -/
def CommandError.message : CommandError → String
  | .unknownContract contract =>
    s!"Unknown contract '{contract}'; known contracts are: " ++
      String.intercalate ", " Registry.names
  | .onlyRequest => "Init function has only a request schema"
  | .unknownEntrypoint contract entrypoint =>
    s!"Contract '{contract}' has no entrypoint '{entrypoint}'"
  | .noSchema method kind => s!"{method} has no {kind.text} schema"
  | .noEvents contract => s!"Contract '{contract}' does not log typed events"
  | .noForms contract => s!"Contract '{contract}' has no user interface"
  | .schema error => error.message
  | .dump error => error.message

/-! ### Tasks -/

/-- **What a command comes down to.** -/
inductive Task
  /-- Prints a text. -/
  | print (text : String)
  /-- Takes the steps of a dump in a directory, which may be removed before. -/
  | dump (directory : String) (force : Bool) (steps : List DumpStep)

/-- The bindings of a contract, which has to be known. -/
def findBindings (contract : String) : Except CommandError ContractBindings :=
  match Registry.find? contract with
  | some bindings => .ok bindings
  | none => .error (.unknownContract contract)

/-- Lines one below the other. -/
def textOfLines (lines : List String) : String :=
  String.join (lines.map fun line => line ++ "\n")

/-- The list of all contracts. -/
def listText (format : OutputFormat) : String :=
  let summaries := Registry.all.map fun bindings =>
    bindings.summary (Registry.forms? bindings.contract.text).isSome
  match format with
  | .text => textOfLines (summaries.map ContractSummary.line)
  | format => format.write (.list (summaries.map ContractSummary.document))

/-- The list of the entrypoints of a contract. -/
def entrypointsText (format : OutputFormat) (bindings : ContractBindings) : String :=
  let summaries := bindings.entrypointSummaries
  match format with
  | .text => textOfLines (summaries.map EntrypointSummary.line)
  | format => format.write (.list (summaries.map EntrypointSummary.document))

/-- The name of a method and one of its schemas. -/
def findSchema (contract : String) (bindings : ContractBindings) (kind : SchemaKind) :
    Option String → Except CommandError (String × Option SchemaBlob)
  | none =>
    if kind = .request then .ok (bindings.init.initName, bindings.init.request)
    else .error .onlyRequest
  | some entrypoint =>
    match bindings.resolve? entrypoint with
    | some (_, method) => .ok (method.receiveName, method.schema? kind)
    | none => .error (.unknownEntrypoint contract entrypoint)

/-- A schema in a format. -/
def schemaText (format : OutputFormat) (blob : SchemaBlob) : Except SchemaError String := do
  let type ← blob.parse
  match format with
  | .text => return type.text ++ "\n"
  | format => return format.write (blob.documentWith type)

/-- The line of an event with the names of its fields. -/
def eventLine (name : String) (fields : Fields) : String :=
  name ++ " \x7b " ++ String.intercalate ", " fields.names ++ " \x7d"

/-- The schema of events in a format. -/
def eventsText (format : OutputFormat) (blob : SchemaBlob) : Except SchemaError String := do
  let type ← blob.parse
  match format with
  | .text =>
    return textOfLines (type.variantNames.filterMap fun name =>
      (type.variant? name).map (eventLine name))
  | format => return format.write (blob.documentWith type)

/-- The documents of forms in a format; there is no text of their own. -/
def formsText (format : OutputFormat) (forms : ContractForms) : String :=
  let documents := Json.ofMembers (forms.documents.map fun (name, document) =>
    (name, document.json))
  let format : OutputFormat := match format with
    | .text => .json
    | format => format
  format.write (.ofJson documents)

/-- **What a command comes down to**, or why it fails at once. -/
def Invocation.task (invocation : Invocation) : Except CommandError Task :=
  match invocation.command with
  | .list => return .print (listText invocation.format)
  | .entrypoints contract => do
    return .print (entrypointsText invocation.format (← findBindings contract))
  | .schema contract entrypoint kind raw => do
    let bindings ← findBindings contract
    let (name, blob?) ← findSchema contract bindings kind entrypoint
    match blob? with
    | none => .error (.noSchema name kind)
    | some blob =>
      if raw then return .print (blob.base64 ++ "\n")
      else return .print (← (schemaText invocation.format blob).mapError .schema)
  | .events contract => do
    let bindings ← findBindings contract
    match bindings.events with
    | none => .error (.noEvents contract)
    | some blob => return .print (← (eventsText invocation.format blob).mapError .schema)
  | .forms contract => do
    let _bindings ← findBindings contract
    match Registry.forms? contract with
    | none => .error (.noForms contract)
    | some forms => return .print (formsText invocation.format forms)
  | .dump contract directory force => do
    let bindings ← findBindings contract
    return .dump (directory.getD bindings.contract.text) force
      (dumpSteps bindings (Registry.forms? contract))

/-! ### Running -/

/-- **What a command leads to.** -/
structure Outcome where
  /-- The file tree afterwards. -/
  tree : FileTree
  /-- What has been printed. -/
  output : String
  /-- Why the command has failed, if it has. -/
  failure : Option CommandError

/-- Removes a directory, if there is one. -/
def clearDirectory (directory : Path) (tree : FileTree) : FileTree × Except FileError Unit :=
  match tree.removeAll directory with
  | (tree, .error .notFound) => (tree, .ok ())
  | (tree, result) => (tree, result)

/-- **Carries out a task** in a file tree. -/
def Task.run (tree : FileTree) : Task → Outcome
  | .print text => ⟨tree, text, none⟩
  | .dump directory force steps =>
    let path := Path.ofString directory
    let (tree, cleared) := if force then clearDirectory path tree else (tree, .ok ())
    match cleared with
    | .error error => ⟨tree, "", some (.dump (.file error))⟩
    | .ok () =>
      let dump := Dump.run path steps tree
      ⟨dump.tree, dump.output, dump.failure.map .dump⟩

/-- **Carries out an invocation** in a file tree. -/
def Invocation.run (invocation : Invocation) (tree : FileTree) : Outcome :=
  match invocation.task with
  | .error error => ⟨tree, "", some error⟩
  | .ok task => task.run tree

end ContractSchema.CommandLine
