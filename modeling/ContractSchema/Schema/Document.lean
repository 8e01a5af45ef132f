import ContractSchema.Document
import ContractSchema.Schema.Type

/-!
# Types as documents

A type is shown in JSON and YAML as a table that names it, with what it is made of as
its value:

* `type: list` with the value `[u16, {type: u8}]` is a list of bytes;
* `fields: named` with the value `[[a, {type: bool}]]` is one field with a name.

`ContractSchema.SchemaType.document` and `ContractSchema.Fields.document` are these tables.
-/

namespace ContractSchema

/-- The table of a type, given its name and its value if it has one. -/
def typeTable (name : String) : Option Document → Document
  | none => .record [("type", .text name)]
  | some value => .record [("type", .text name), ("value", value)]

/-- The width of a length as a document. -/
def SizeLength.document (size : SizeLength) : Document :=
  .text size.text

mutual

/-- **The document of a type.** -/
def SchemaType.document : SchemaType → Document
  | .unit => typeTable "unit" none
  | .bool => typeTable "bool" none
  | .u8 => typeTable "u8" none
  | .u16 => typeTable "u16" none
  | .u32 => typeTable "u32" none
  | .u64 => typeTable "u64" none
  | .u128 => typeTable "u128" none
  | .i8 => typeTable "i8" none
  | .i16 => typeTable "i16" none
  | .i32 => typeTable "i32" none
  | .i64 => typeTable "i64" none
  | .i128 => typeTable "i128" none
  | .amount => typeTable "amount" none
  | .accountAddress => typeTable "accountAddress" none
  | .contractAddress => typeTable "contractAddress" none
  | .timestamp => typeTable "timestamp" none
  | .duration => typeTable "duration" none
  | .pair left right => typeTable "pair" (some (.list [left.document, right.document]))
  | .list size item => typeTable "list" (some (.list [size.document, item.document]))
  | .set size item => typeTable "set" (some (.list [size.document, item.document]))
  | .map size key value =>
    typeTable "map" (some (.list [size.document, key.document, value.document]))
  | .array length item => typeTable "array" (some (.list [.ofNat length.toNat, item.document]))
  | .struct fields => typeTable "struct" (some fields.document)
  | .enum variants => typeTable "enum" (some (.list (documentsOfVariants variants)))
  | .taggedEnum variants =>
    typeTable "taggedEnum" (some (.table
      ((tagEntries fun tag => documentOfVariant (variants tag)).map fun (tag, variant) =>
        (.tag tag, variant))))
  | .string size => typeTable "string" (some size.document)
  | .contractName size => typeTable "contractName" (some size.document)
  | .receiveName size => typeTable "receiveName" (some size.document)
  | .uLeb128 maxBytes => typeTable "uLeb128" (some (.ofNat maxBytes.toNat))
  | .iLeb128 maxBytes => typeTable "iLeb128" (some (.ofNat maxBytes.toNat))
  | .byteList size => typeTable "byteList" (some size.document)
  | .byteArray length => typeTable "byteArray" (some (.ofNat length.toNat))

/-- **The document of fields.** -/
def Fields.document : Fields → Document
  | .named fields =>
    .record [("fields", .text "named"), ("value", .list (documentsOfNamed fields))]
  | .unnamed fields =>
    .record [("fields", .text "unnamed"), ("value", .list (documentsOfUnnamed fields))]
  | .none => .record [("fields", .text "none")]

/-- The documents of fields with names. -/
def documentsOfNamed : List (String × SchemaType) → List Document
  | [] => []
  | (name, type) :: rest => .list [.text name, type.document] :: documentsOfNamed rest

/-- The documents of fields without names. -/
def documentsOfUnnamed : List SchemaType → List Document
  | [] => []
  | type :: rest => type.document :: documentsOfUnnamed rest

/-- The documents of variants. -/
def documentsOfVariants : List (String × Fields) → List Document
  | [] => []
  | (name, fields) :: rest => .list [.text name, fields.document] :: documentsOfVariants rest

/-- The document of a variant, if there is one. -/
def documentOfVariant : Option (String × Fields) → Option Document
  | none => none
  | some (name, fields) => some (.list [.text name, fields.document])

end

end ContractSchema
