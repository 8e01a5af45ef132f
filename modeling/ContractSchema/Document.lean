import ContractSchema.Json.Basic

/-!
# Documents

What is shown to a reader as JSON or as YAML is first brought into the form that
both have in common: scalars, lists, and tables. The one difference between the two
lies in the keys of tables. A key may be a number, which YAML writes as such while
JSON puts it between quotes.

* `ContractSchema.Document` is the type of documents.
* `ContractSchema.Document.json` is a document as a JSON value, its tables in their order.
* `ContractSchema.Document.ofJson` goes the other way.
-/

namespace ContractSchema

/-- A key of a table. -/
inductive Document.Key
  /-- A name. -/
  | name (text : String)
  /-- A number of one byte. -/
  | tag (n : UInt8)
deriving DecidableEq, Repr

/-- **A document.** -/
inductive Document
  /-- The absence of a value. -/
  | null
  /-- A truth value. -/
  | bool (b : Bool)
  /-- A number. -/
  | number (n : Json.Number)
  /-- A text. -/
  | text (s : String)
  /-- A list with its items. -/
  | list (items : List Document)
  /-- A table with its rows. -/
  | table (rows : List (Document.Key × Document))

namespace Document

/-- A number below `2 ^ 64`. -/
def ofNat (n : Nat) : Document :=
  .number (.natural (UInt64.ofNat n))

/-- A document which may be missing. -/
def ofOption : Option Document → Document
  | some document => document
  | none => .null

/-- A table all of whose keys are names. -/
def record (rows : List (String × Document)) : Document :=
  .table (rows.map fun (name, value) => (.name name, value))

/-- The text of a key. -/
def Key.text : Key → String
  | .name text => text
  | .tag n => toString n.toNat

mutual

/-- **A document as a JSON value.** -/
def json : Document → Json
  | .null => .null
  | .bool b => .bool b
  | .number n => .number n
  | .text s => .string s
  | .list items => .array (jsonItems items)
  | .table rows => .object (jsonMembers rows)

/-- Items as JSON values. -/
def jsonItems : List Document → List Json
  | [] => []
  | item :: rest => json item :: jsonItems rest

/-- Rows as members. -/
def jsonMembers : List (Key × Document) → List (String × Json)
  | [] => []
  | (key, value) :: rest => (key.text, json value) :: jsonMembers rest

end

mutual

/-- A JSON value as a document. -/
def ofJson : Json → Document
  | .null => .null
  | .bool b => .bool b
  | .number n => .number n
  | .string s => .text s
  | .array items => .list (ofItems items)
  | .object members => .table (ofMembers members)

/-- Items as documents. -/
def ofItems : List Json → List Document
  | [] => []
  | item :: rest => ofJson item :: ofItems rest

/-- Members as rows. -/
def ofMembers : List (String × Json) → List (Key × Document)
  | [] => []
  | (key, value) :: rest => (.name key, ofJson value) :: ofMembers rest

end

end Document

end ContractSchema
