import ContractSchema.FileTree
import ContractSchema.Form.Basic
import ContractSchema.OutputFormat

/-!
# Dumps

A dump puts all schemas of a contract into a directory: each schema into a YAML file
that shows the blob and its type, and each document of a form into a JSON file. What
is going on is reported along the way.

* `ContractSchema.DumpStep` is a step of a dump. The steps of a dump are known in advance,
  `ContractSchema.dumpSteps` lists them.
* `ContractSchema.Dump.runSteps` takes the steps in a directory of a file tree, until one of
  them fails, and `ContractSchema.Dump.run` makes the directory first.

A file is created before the schema for it is looked into, so a schema that cannot be
read leaves an empty file behind. Files that are there already are never overwritten.
-/

namespace ContractSchema

/-! ### Steps -/

/-- **A step of a dump.** -/
inductive DumpStep
  /-- Reports something. -/
  | report (text : String)
  /-- Creates a file with the given text, or an empty one if there is no text for a reason. -/
  | create (name : String) (text : Except SchemaError String)

/-- The text of the file of a schema. -/
def schemaFileText (blob : SchemaBlob) : Except SchemaError String :=
  blob.document.map Document.yaml

/-- A number of at least two digits. -/
def twoDigits (n : Nat) : String :=
  if n < 10 then "0" ++ toString n else toString n

/-- The name of the file of a schema of the entrypoint with the given number. -/
def schemaFileName (number : Nat) (key : String) (kind : SchemaKind) : String :=
  twoDigits number ++ "-" ++ key ++ "." ++ kind.text ++ ".yaml"

/-- The name of the file of a document. -/
def documentFileName (name : String) : String :=
  "ui." ++ name ++ ".json"

/-- The steps for a schema that stands alone. -/
def singleSteps (name : String) : Option SchemaBlob → List DumpStep
  | some blob => [.create name (schemaFileText blob), .report "success\n"]
  | none => [.report "no schema\n"]

/-- The schemas of a method with their kinds. -/
def ReceiveMethod.schemas (method : ReceiveMethod) : List (SchemaKind × SchemaBlob) :=
  SchemaKind.all.filterMap fun kind => (method.schema? kind).map (kind, ·)

/-- The steps for entrypoints, of which the first has the given number; `count` schemas have
been dealt with before. -/
def entrypointSteps (number count : Nat) : List Entrypoint → List DumpStep
  | [] => [.report "\n"]
  | entry :: rest =>
    let schemas := entry.method.schemas
    let count := count + schemas.length
    (schemas.map fun (kind, blob) =>
      DumpStep.create (schemaFileName number entry.key kind) (schemaFileText blob)) ++
    .report s!"\rProcessing entrypoints ... {number} processed, {count} schemas" ::
    entrypointSteps (number + 1) count rest

/-- The steps for the documents of forms, if there are forms. -/
def documentSteps : Option ContractForms → List DumpStep
  | some forms =>
    .report "Processing user interface ... " ::
    (forms.documents.map fun (name, document) =>
      DumpStep.create (documentFileName name) (.ok document.json.pretty)) ++
    [.report s!"{forms.documents.length} JSON schemas\n"]
  | none => []

/-- **The steps of the dump** of a contract. -/
def dumpSteps (bindings : ContractBindings) (forms : Option ContractForms) : List DumpStep :=
  .report "Processing init function ... " ::
  singleSteps "init.request.yaml" bindings.init.request ++
  .report "Processing entrypoints ... none found" ::
  entrypointSteps 1 0 bindings.entries ++
  .report "Processing events ... " ::
  singleSteps "events.yaml" bindings.events ++
  documentSteps forms

/-! ### Running -/

/-- **Why a dump fails.** -/
inductive DumpError
  /-- A file or a directory cannot be made. -/
  | file (error : FileError)
  /-- A schema cannot be read. -/
  | schema (error : SchemaError)
deriving DecidableEq, Repr

/-- The text of the error. -/
def DumpError.message : DumpError → String
  | .file error => error.message
  | .schema error => error.message

/-- **What a dump leads to.** -/
structure Dump where
  /-- The file tree afterwards. -/
  tree : FileTree
  /-- What has been reported. -/
  output : String
  /-- Why the dump has failed, if it has. -/
  failure : Option DumpError

namespace Dump

/-- A dump that goes on after a report. -/
def after (text : String) (dump : Dump) : Dump :=
  { dump with output := text ++ dump.output }

/-- **Takes steps** in a directory, until one of them fails. -/
def runSteps (directory : Path) : List DumpStep → FileTree → Dump
  | [], tree => ⟨tree, "", none⟩
  | .report text :: rest, tree => (runSteps directory rest tree).after text
  | .create name text :: rest, tree =>
    match tree.createFile (directory ++ Path.ofString name) (text.toOption.getD "") with
    | .error error => ⟨tree, "", some (.file error)⟩
    | .ok tree =>
      match text with
      | .error error => ⟨tree, "", some (.schema error)⟩
      | .ok _ => runSteps directory rest tree

/-- **Runs a dump**: makes the directory and takes the steps in it. -/
def run (directory : Path) (steps : List DumpStep) (tree : FileTree) : Dump :=
  match tree.makeDirectories directory with
  | (tree, .error error) => ⟨tree, "", some (.file error)⟩
  | (tree, .ok ()) => runSteps directory steps tree

end Dump

end ContractSchema
