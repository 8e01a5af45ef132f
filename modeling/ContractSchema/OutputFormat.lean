import ContractSchema.Schema.Blob
import ContractSchema.Schema.Document
import ContractSchema.Yaml.Layout

/-!
# Formats of the output

* `ContractSchema.OutputFormat` is one of the formats that can be asked for.
* `ContractSchema.OutputFormat.write` writes a document in a format. Where there is no text
  of its own for a document, the text format is YAML.
* `ContractSchema.SchemaBlob.document` shows a blob together with the type it describes.
-/

namespace ContractSchema

/-- **A format of the output.** -/
inductive OutputFormat
  /-- Text for people. -/
  | text
  /-- YAML. -/
  | yaml
  /-- JSON. -/
  | json
deriving DecidableEq, Repr

namespace OutputFormat

/-- The name of a format. -/
def name : OutputFormat → String
  | .text => "text"
  | .yaml => "yaml"
  | .json => "json"

/-- The format with a name. -/
def ofName? (name : String) : Option OutputFormat :=
  [("text", OutputFormat.text), ("yaml", .yaml), ("json", .json)].lookup name

/-- **Writes a document**, which ends with a line break. -/
def write (format : OutputFormat) (document : Document) : String :=
  match format with
  | .json => document.json.pretty ++ "\n"
  | .text => document.yaml
  | .yaml => document.yaml

end OutputFormat

/-- The document of a blob which describes the given type. -/
def SchemaBlob.documentWith (blob : SchemaBlob) (type : SchemaType) : Document :=
  .record [("base64", .text blob.base64), ("type", type.document)]

/-- **The document of a blob**: its text and the type it describes. -/
def SchemaBlob.document (blob : SchemaBlob) : Except SchemaError Document := do
  return blob.documentWith (← blob.parse)

end ContractSchema
