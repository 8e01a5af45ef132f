import ContractSchema.Text.LowerCase

/-!
# Kinds of schemas

A contract function has a schema for what it takes, one for what it returns, and one
for the error it may end with.

* `ContractSchema.SchemaKind` is one of the three.
* `ContractSchema.SchemaKind.ofString` reads a kind, in letters of either case and by any of
  its names.
-/

namespace ContractSchema

/-- **What a schema describes.** -/
inductive SchemaKind
  /-- What a function takes. -/
  | request
  /-- What a function returns. -/
  | response
  /-- What a function that fails ends with. -/
  | error
deriving DecidableEq, Repr

/-- A word that names no kind of schema, in lower case. -/
structure UnknownSchemaKind where
  /-- The word. -/
  word : String
deriving DecidableEq, Repr

/-- The text of the error. -/
def UnknownSchemaKind.message (unknown : UnknownSchemaKind) : String :=
  s!"unknown schema kind '{unknown.word}'."

namespace SchemaKind

/-- All kinds, in the order in which they are shown. -/
def all : List SchemaKind := [.request, .response, .error]

/-- The name of a kind. -/
def text : SchemaKind → String
  | .request => "request"
  | .response => "response"
  | .error => "error"

/-- All names of all kinds. -/
def names : List (String × SchemaKind) :=
  [("request", .request), ("req", .request), ("parameter", .request),
    ("response", .response), ("resp", .response), ("return", .response),
    ("error", .error), ("err", .error)]

/-- Reads a kind. -/
def ofString (text : String) : Except UnknownSchemaKind SchemaKind :=
  let word := LowerCase.ofString text
  match names.lookup word with
  | some kind => .ok kind
  | none => .error ⟨word⟩

end SchemaKind

end ContractSchema
