import ContractSchema.JsonSchema

/-!
# Form documents

What a user enters into a form, or is shown by it, is described by a JSON-Schema with a
title. Any JSON value may be handed over as such a document. Whether it is a schema at
all is found out when it is validated or when a value is checked against it.

* `ContractSchema.FormDocument` is a document.
* `ContractSchema.FormDocument.validate` checks the document,
  `ContractSchema.FormDocument.check` a value against it.
* `ContractSchema.FormError` says what is wrong with documents, values and forms.
-/

namespace ContractSchema

/-! ### Errors -/

/-- A part of a form that comes with its method. -/
inductive FormPart
  /-- The document of what the method takes. -/
  | requestDocument
  /-- The schema of what the method takes. -/
  | request
  /-- The document of what the method returns. -/
  | responseDocument
  /-- The schema of what the method returns. -/
  | response
deriving DecidableEq, Repr

/-- The name of a part. -/
def FormPart.text : FormPart → String
  | .requestDocument => "request JSON"
  | .request => "request"
  | .responseDocument => "response JSON"
  | .response => "response"

/-- **What is wrong with a document, a value or a form.** -/
inductive FormError
  /-- The document with the title is no schema. -/
  | invalidDocument (title : String) (violation : JsonSchema.Violation)
  /-- The document with the title does not say of what type values are. -/
  | notASchema (title : String)
  /-- The value breaks the document with the title. -/
  | invalidInput (title : String) (violations : List JsonSchema.Violation)
  /-- The form of the method lacks a part. -/
  | missingPart (method : String) (part : FormPart)
  /-- There is no form for the entrypoint with the key. -/
  | unknownEntrypoint (key : String)

/-- The text of the error. -/
def FormError.message : FormError → String
  | .invalidDocument title violation =>
    s!"UI schema '{title}' is not a valid JSON-Schema document. Details: " ++ violation.message
  | .notASchema title =>
    s!"UI schema '{title}' must be a JSON object with a " ++ "`type` keyword."
  | .invalidInput title violations =>
    s!"value does not match UI schema '{title}': " ++
      String.intercalate "; " (violations.map JsonSchema.Violation.message)
  | .missingPart method part =>
    s!"entrypoint {method} has no {part.text} schema blob required by its form."
  | .unknownEntrypoint key => s!"contract has no UI for entrypoint '{key}'."

/-! ### Documents -/

/-- **A form document.** -/
structure FormDocument where
  /-- The JSON value. -/
  json : Json

namespace FormDocument

/-- The title, which is empty if there is none. -/
def title (document : FormDocument) : String :=
  ((document.json.get? "title").bind Json.string?).getD ""

/-- The type of values, if it is a single name. -/
def type? (document : FormDocument) : Option String :=
  (document.json.get? "type").bind Json.string?

/-- The schemas of properties. -/
def properties? (document : FormDocument) : Option (List (String × Json)) :=
  (document.json.get? "properties").bind Json.object?

/-- The schema of the property with a name. -/
def property? (document : FormDocument) (name : String) : Option Json :=
  document.properties?.bind fun properties => properties.lookup name

/-- The schema which the document is. -/
def schema (document : FormDocument) : Except FormError JsonSchema :=
  (JsonSchema.ofJson document.json).mapError (.invalidDocument document.title)

/-- **Checks the document**: it has to name the type of values, and it has to be a schema. -/
def validate (document : FormDocument) : Except FormError Unit :=
  match document.type? with
  | none => .error (.notASchema document.title)
  | some _ => document.schema.map fun _ => ()

/-- **Checks a value** against the document. -/
def check (document : FormDocument) (value : Json) : Except FormError Unit := do
  let schema ← document.schema
  let violations := schema.violations value
  if violations.isEmpty then return () else .error (.invalidInput document.title violations)

end FormDocument

end ContractSchema
