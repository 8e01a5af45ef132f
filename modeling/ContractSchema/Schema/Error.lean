import ContractSchema.Text.Base64

/-!
# Errors of schemas

`ContractSchema.SchemaError` lists the reasons for which a schema is refused. Offsets
count bytes of the binary schema from its beginning.
-/

namespace ContractSchema

/-- **Why a schema is refused.** -/
inductive SchemaError
  /-- The text around the binary schema is no Base64. -/
  | base64 (error : Base64Error)
  /-- The data ends where more is needed; the read that failed began at the offset. -/
  | unexpectedEnd (offset : Nat)
  /-- The byte at the offset is the tag of no type. -/
  | unknownTypeTag (tag : UInt8) (offset : Nat)
  /-- The byte at the offset is the tag of no width of a length. -/
  | unknownSizeLength (tag : UInt8) (offset : Nat)
  /-- The byte at the offset is the tag of no shape of fields. -/
  | unknownFieldsTag (tag : UInt8) (offset : Nat)
  /-- The byte at the offset is the tag of an earlier variant of the same enum. -/
  | repeatedTag (tag : UInt8) (offset : Nat)
  /-- The name whose length stands at the offset is not valid UTF-8. -/
  | invalidUtf8 (offset : Nat)
  /-- The given number of bytes is left behind the type. -/
  | trailingData (count : Nat)
  /-- Types are nested more than the given number of times. -/
  | tooDeep (limit : Nat)
deriving DecidableEq, Repr

/-- The text of the error. -/
def SchemaError.message : SchemaError → String
  | .base64 error => "schema blob has invalid Base64 encoding. Details: " ++ error.message
  | .unexpectedEnd offset => s!"schema data ends unexpectedly at byte offset {offset}."
  | .unknownTypeTag tag offset => s!"unknown type tag {tag.toNat} at byte offset {offset}."
  | .unknownSizeLength tag offset =>
    s!"unknown size length tag {tag.toNat} at byte offset {offset}."
  | .unknownFieldsTag tag offset => s!"unknown fields tag {tag.toNat} at byte offset {offset}."
  | .repeatedTag tag offset =>
    s!"tagged enum repeats variant tag {tag.toNat} at byte offset {offset}."
  | .invalidUtf8 offset => s!"string starting at byte offset {offset} is not a valid UTF-8."
  | .trailingData count =>
    s!"schema data contains {count} trailing bytes after the type descriptor."
  | .tooDeep limit => s!"type descriptor is nested deeper than {limit} levels."

end ContractSchema
