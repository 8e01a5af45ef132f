import ContractSchema.Document
import ContractSchema.Yaml.Scalar

/-!
# YAML layout

A document is written in block style: an item of a list stands behind a dash, a row
of a table begins with its key and a colon, and what belongs inside is indented by
two. A list that is the value of a row is not indented: its dashes stand below the
key. The first line of a list or table inside a list stands behind the dash. Empty
lists and tables are written as brackets.

* `ContractSchema.Document.yaml` is the text of a document.
-/

namespace ContractSchema

namespace Yaml

/-- Puts lines one below the other; those after the first are indented. -/
def stack (indent : Nat) : List (List Char) → List Char
  | [] => []
  | [block] => block
  | block :: next :: rest => block ++ '\n' :: indentation indent ++ stack indent (next :: rest)

/-- The text of a key. -/
def key : Document.Key → List Char
  | .name text => keyScalar text
  | .tag n => (toString n.toNat).toList

mutual

/-- A document whose first line begins at column `indent`, where that column is already
reached. -/
def block (indent : Nat) : Document → List Char
  | .null => "null".toList
  | .bool b => (if b then "true" else "false").toList
  | .number n => n.text.toList
  | .text s => scalar indent s
  | .list [] => "[]".toList
  | .list (item :: rest) => stack indent (items indent (item :: rest))
  | .table [] => "\x7b\x7d".toList
  | .table (row :: rest) => stack indent (rows indent (row :: rest))

/-- The items of a list whose dashes stand at column `indent`. -/
def items (indent : Nat) : List Document → List (List Char)
  | [] => []
  | item :: rest => ('-' :: ' ' :: block (indent + 2) item) :: items indent rest

/-- The rows of a table whose keys stand at column `indent`. -/
def rows (indent : Nat) : List (Document.Key × Document) → List (List Char)
  | [] => []
  | (name, value) :: rest => (key name ++ ':' :: rowValue indent value) :: rows indent rest

/-- The value of a row whose key stands at column `indent`, behind the colon. -/
def rowValue (indent : Nat) : Document → List Char
  | .list (item :: rest) =>
    '\n' :: indentation indent ++ stack indent (items indent (item :: rest))
  | .table (row :: rest) =>
    '\n' :: indentation (indent + 2) ++ stack (indent + 2) (rows (indent + 2) (row :: rest))
  | .list [] => " []".toList
  | .table [] => " \x7b\x7d".toList
  | .text s => ' ' :: scalar (indent + 2) s
  | .null => " null".toList
  | .bool b => ' ' :: (if b then "true" else "false").toList
  | .number n => ' ' :: n.text.toList

end

end Yaml

/-- **The text of a document in YAML.** -/
def Document.yaml (document : Document) : String :=
  String.ofList (Yaml.block 0 document ++ ['\n'])

end ContractSchema
