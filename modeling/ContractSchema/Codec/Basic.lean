import ContractSchema.Schema.Blob
import ContractSchema.Schema.Kind

/-!
# Codecs

The bindings of a contract carry schemas, but they leave it to a codec to turn
values into bytes and bytes into values according to a schema.

* `ContractSchema.SchemaCodec` is a codec for some type of values.
* `ContractSchema.BindingError` says why a call through the bindings fails: either a schema
  is missing, or the codec fails.
-/

namespace ContractSchema

/-- **A codec** between values and bytes. -/
structure SchemaCodec (Value Error : Type) where
  /-- The bytes of a value according to a schema. -/
  encode : SchemaBlob → Value → Except Error (List UInt8)
  /-- The value of bytes according to a schema. -/
  decode : SchemaBlob → List UInt8 → Except Error Value

/-- **Why a call through the bindings fails.** -/
inductive BindingError (Error : Type)
  /-- The method has no schema of the kind that is needed. -/
  | noSchema (method : String) (kind : SchemaKind)
  /-- The contract describes no events. -/
  | noEventSchema (contract : String)
  /-- The codec fails. -/
  | codec (error : Error)

/-- The text of the error, given the texts of the codec's errors. -/
def BindingError.message {Error : Type} (codecMessage : Error → String) :
    BindingError Error → String
  | .noSchema method kind => s!"{method} has no {kind.text} schema."
  | .noEventSchema contract => s!"contract {contract} does not define an event schema."
  | .codec error => "schema codec failure. Details: " ++ codecMessage error

end ContractSchema
