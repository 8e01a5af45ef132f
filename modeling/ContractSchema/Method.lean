import ContractSchema.Codec.Basic
import ContractSchema.ModuleRef
import ContractSchema.Name

/-!
# Methods of contracts

A method is all that is needed to call a contract function: its name on chain and
its schemas. There are two sorts.

* `ContractSchema.InitMethod` is the function that creates an instance of a contract.
* `ContractSchema.ReceiveMethod` is an entrypoint of an instance.

Values go through a codec which is given with each call. A call without the schema it
needs fails before the codec is asked.
-/

namespace ContractSchema

/-! ### Creating an instance -/

/-- **The init function** of a contract. -/
structure InitMethod where
  /-- The module the contract is deployed with, if it is known. -/
  moduleRef : Option ModuleRef
  /-- The contract. -/
  contract : ContractName
  /-- The schema of what the function takes. -/
  request : Option SchemaBlob

namespace InitMethod

/-- The name of the function on chain. -/
def initName (method : InitMethod) : String :=
  method.contract.initName

/-- The bytes of what the function is to take. -/
def encodeRequest {Value Error : Type} (method : InitMethod) (codec : SchemaCodec Value Error)
    (value : Value) : Except (BindingError Error) (List UInt8) :=
  match method.request with
  | some schema => (codec.encode schema value).mapError .codec
  | none => .error (.noSchema method.initName .request)

end InitMethod

/-! ### Calling an instance -/

/-- **An entrypoint** of a contract. -/
structure ReceiveMethod where
  /-- The contract. -/
  contract : ContractName
  /-- The name of the entrypoint on chain. -/
  entrypoint : EntrypointName
  /-- The schema of what the entrypoint takes. -/
  request : Option SchemaBlob
  /-- The schema of what it returns. -/
  response : Option SchemaBlob
  /-- The schema of the error it may end with. -/
  error : Option SchemaBlob

namespace ReceiveMethod

/-- An entrypoint without schemas. -/
def ofNames (contract : ContractName) (entrypoint : EntrypointName) : ReceiveMethod :=
  ⟨contract, entrypoint, none, none, none⟩

/-- The entrypoint with the given schema for what it takes. -/
def withRequest (method : ReceiveMethod) (schema : SchemaBlob) : ReceiveMethod :=
  { method with request := some schema }

/-- The entrypoint with the given schema for what it returns. -/
def withResponse (method : ReceiveMethod) (schema : SchemaBlob) : ReceiveMethod :=
  { method with response := some schema }

/-- The entrypoint with the given schema for its errors. -/
def withError (method : ReceiveMethod) (schema : SchemaBlob) : ReceiveMethod :=
  { method with error := some schema }

/-- The name of the receive function on chain: both names with a dot between them. -/
def receiveName (method : ReceiveMethod) : String :=
  method.contract.text ++ "." ++ method.entrypoint.text

/-- The schema of a kind. -/
def schema? (method : ReceiveMethod) : SchemaKind → Option SchemaBlob
  | .request => method.request
  | .response => method.response
  | .error => method.error

/-- The kinds of which the method has a schema. -/
def kinds (method : ReceiveMethod) : List SchemaKind :=
  SchemaKind.all.filter fun kind => (method.schema? kind).isSome

/-- The schema of a kind, which has to be there. -/
def require {Error : Type} (method : ReceiveMethod) (kind : SchemaKind) :
    Except (BindingError Error) SchemaBlob :=
  match method.schema? kind with
  | some schema => .ok schema
  | none => .error (.noSchema method.receiveName kind)

section Calls

variable {Value Error : Type} (method : ReceiveMethod) (codec : SchemaCodec Value Error)

/-- The bytes of what the entrypoint is to take. -/
def encodeRequest (value : Value) : Except (BindingError Error) (List UInt8) := do
  let schema ← method.require .request
  (codec.encode schema value).mapError .codec

/-- The value the entrypoint has returned. -/
def decodeResponse (data : List UInt8) : Except (BindingError Error) Value := do
  let schema ← method.require .response
  (codec.decode schema data).mapError .codec

/-- The error the entrypoint has ended with. -/
def decodeError (data : List UInt8) : Except (BindingError Error) Value := do
  let schema ← method.require .error
  (codec.decode schema data).mapError .codec

end Calls

end ReceiveMethod

end ContractSchema
