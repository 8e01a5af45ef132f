import ContractSchema.Schema.Reader

/-!
# Schema blobs

Schemas are handed around as blobs: binary schemas in Base64. A blob is nothing but
its text. It may hold anything until it is looked into.

* `ContractSchema.SchemaBlob.ofBytes` and `ContractSchema.SchemaBlob.toBytes` go from a binary
  schema to its blob and back.
* `ContractSchema.SchemaBlob.parse` is the type a blob describes.
-/

namespace ContractSchema

/-- **A schema blob.** -/
structure SchemaBlob where
  /-- The Base64 text. -/
  base64 : String
deriving DecidableEq, Repr

namespace SchemaBlob

/-- The blob of a binary schema. -/
def ofBytes (data : List UInt8) : SchemaBlob :=
  ⟨Base64.encode data⟩

/-- The binary schema in a blob. -/
def toBytes (blob : SchemaBlob) : Except SchemaError (List UInt8) :=
  (Base64.decode blob.base64).mapError .base64

/-- **The type a blob describes.** -/
def parse (blob : SchemaBlob) : Except SchemaError SchemaType := do
  SchemaType.ofBytes (← blob.toBytes)

end SchemaBlob

end ContractSchema
