import ContractSchema.Schema.Type

/-!
# The text of a type

Types are shown on one line in a notation close to that of the contracts' own
language: `(u8, bool)` for a pair, `[u8; 4]` for an array, `{name: bool}` for a struct
and `enum { A, B(u8) }` for an enum.

* `ContractSchema.SchemaType.text` and `ContractSchema.Fields.text` are these texts.
-/

namespace ContractSchema

/-- Texts in a row, divided by commas. -/
def commaSeparated (texts : List String) : String :=
  String.intercalate ", " texts

/-- A variant whose fields have names keeps them apart from its own name. -/
def variantText (name : String) (fields : Fields) (fieldsText : String) : String :=
  match fields with
  | .named _ => name ++ " " ++ fieldsText
  | .unnamed _ => name ++ fieldsText
  | .none => name ++ fieldsText

/-- Variants between the braces of an enum. -/
def enumText (variants : List String) : String :=
  "enum \x7b " ++ commaSeparated variants ++ " \x7d"

mutual

/-- **The text of a type.** -/
def SchemaType.text : SchemaType → String
  | .unit => "()"
  | .bool => "bool"
  | .u8 => "u8"
  | .u16 => "u16"
  | .u32 => "u32"
  | .u64 => "u64"
  | .u128 => "u128"
  | .i8 => "i8"
  | .i16 => "i16"
  | .i32 => "i32"
  | .i64 => "i64"
  | .i128 => "i128"
  | .amount => "Amount"
  | .accountAddress => "AccountAddress"
  | .contractAddress => "ContractAddress"
  | .timestamp => "Timestamp"
  | .duration => "Duration"
  | .pair left right => "(" ++ left.text ++ ", " ++ right.text ++ ")"
  | .list size item => "List<" ++ size.text ++ ", " ++ item.text ++ ">"
  | .set size item => "Set<" ++ size.text ++ ", " ++ item.text ++ ">"
  | .map size key value => "Map<" ++ size.text ++ ", " ++ key.text ++ ", " ++ value.text ++ ">"
  | .array length item => "[" ++ item.text ++ "; " ++ toString length.toNat ++ "]"
  | .struct .none => "\x7b\x7d"
  | .struct fields => fields.text
  | .enum variants => enumText (textsOfVariants variants)
  | .taggedEnum variants =>
    enumText ((tagEntries fun tag => textOfVariant (variants tag)).map fun (tag, text) =>
      toString tag.toNat ++ " => " ++ text)
  | .string size => "String<" ++ size.text ++ ">"
  | .contractName size => "ContractName<" ++ size.text ++ ">"
  | .receiveName size => "ReceiveName<" ++ size.text ++ ">"
  | .uLeb128 maxBytes => "ULeb128<" ++ toString maxBytes.toNat ++ ">"
  | .iLeb128 maxBytes => "ILeb128<" ++ toString maxBytes.toNat ++ ">"
  | .byteList size => "ByteList<" ++ size.text ++ ">"
  | .byteArray length => "ByteArray<" ++ toString length.toNat ++ ">"

/-- **The text of fields**, which is empty if there are none. -/
def Fields.text : Fields → String
  | .named fields => "\x7b" ++ commaSeparated (textsOfNamed fields) ++ "\x7d"
  | .unnamed fields => "(" ++ commaSeparated (textsOfUnnamed fields) ++ ")"
  | .none => ""

/-- The texts of fields with names. -/
def textsOfNamed : List (String × SchemaType) → List String
  | [] => []
  | (name, type) :: rest => (name ++ ": " ++ type.text) :: textsOfNamed rest

/-- The texts of fields without names. -/
def textsOfUnnamed : List SchemaType → List String
  | [] => []
  | type :: rest => type.text :: textsOfUnnamed rest

/-- The texts of variants. -/
def textsOfVariants : List (String × Fields) → List String
  | [] => []
  | (name, fields) :: rest => variantText name fields fields.text :: textsOfVariants rest

/-- The text of a variant, if there is one. -/
def textOfVariant : Option (String × Fields) → Option String
  | none => none
  | some (name, fields) => some (variantText name fields fields.text)

end

end ContractSchema
