import ContractSchema.Document
import ContractSchema.Method

/-!
# Bindings of contracts

The bindings of a contract are its init function, its entrypoints and the schema of
the events it logs. They are made from a description in which all names are plain
texts. Each entrypoint has a key, by which the bindings know it, besides the name by
which the chain knows it, and a title for people.

* `ContractSchema.ContractDescriptor` is such a description.
* `ContractSchema.ContractBindings.ofDescriptor` checks it: names have to be valid, and keys
  neither empty nor repeated. The first fault in the order of the entrypoints is
  reported.
* `ContractSchema.ContractBindings.method?` finds an entrypoint by its key, and
  `ContractSchema.ContractBindings.resolve?` by its key or its name on chain, the keys going
  first.
-/

namespace ContractSchema

/-! ### Descriptions -/

/-- The description of an entrypoint. -/
structure EntrypointDescriptor where
  /-- The key by which the bindings know the entrypoint. -/
  key : String
  /-- The name by which the chain knows it. -/
  entrypoint : String
  /-- The title. -/
  title : String
  /-- The schema of what the entrypoint takes. -/
  request : Option SchemaBlob
  /-- The schema of what it returns. -/
  response : Option SchemaBlob
  /-- The schema of the error it may end with. -/
  error : Option SchemaBlob

/-- **The description of a contract.** -/
structure ContractDescriptor where
  /-- The name of the contract. -/
  name : String
  /-- The module the contract is deployed with, if it is known. -/
  moduleRef : Option ModuleRef
  /-- The schema of what the init function takes. -/
  init : Option SchemaBlob
  /-- The schema of events. -/
  events : Option SchemaBlob
  /-- The entrypoints. -/
  entrypoints : List EntrypointDescriptor

/-- **What is wrong with a description.** -/
inductive DescriptorError
  /-- The name of the contract or of an entrypoint is not valid. -/
  | name (error : NameError)
  /-- Two entrypoints have the same key. -/
  | repeatedKey (key : String)
  /-- A key is empty. -/
  | emptyKey
deriving DecidableEq, Repr

/-- The text of the error. -/
def DescriptorError.message : DescriptorError → String
  | .name error => "invalid contract or entrypoint name. Details: " ++ error.message
  | .repeatedKey key => s!"entrypoint key '{key}' is used more than once."
  | .emptyKey => "entrypoint key must not be empty."

/-! ### Bindings -/

/-- An entrypoint in the bindings of a contract. -/
structure Entrypoint where
  /-- The key by which the bindings know it. -/
  key : String
  /-- The title. -/
  title : String
  /-- The method that calls it. -/
  method : ReceiveMethod

/-- **The bindings of a contract.** -/
structure ContractBindings where
  /-- The init function. -/
  init : InitMethod
  /-- The entrypoints in the order of the description. -/
  entries : List Entrypoint
  /-- The schema of events. -/
  events : Option SchemaBlob

/-- The entrypoint of a description, given its checked name. -/
def EntrypointDescriptor.entry (descriptor : EntrypointDescriptor) (contract : ContractName)
    (name : EntrypointName) : Entrypoint where
  key := descriptor.key
  title := descriptor.title
  method := ⟨contract, name, descriptor.request, descriptor.response, descriptor.error⟩

namespace ContractBindings

/-- Checks the descriptions of entrypoints one after the other; `seen` are the keys of those
before. -/
def entriesOf (contract : ContractName) :
    List String → List EntrypointDescriptor → Except DescriptorError (List Entrypoint)
  | _, [] => .ok []
  | seen, descriptor :: rest =>
    if descriptor.key = "" then .error .emptyKey
    else
      match EntrypointName.ofString descriptor.entrypoint with
      | .error error => .error (.name error)
      | .ok name =>
        if descriptor.key ∈ seen then .error (.repeatedKey descriptor.key)
        else do
          let others ← entriesOf contract (descriptor.key :: seen) rest
          return descriptor.entry contract name :: others

/-- **Checks a description** and makes the bindings of the contract. -/
def ofDescriptor (descriptor : ContractDescriptor) :
    Except DescriptorError ContractBindings :=
  match ContractName.ofString descriptor.name with
  | .error error => .error (.name error)
  | .ok contract => do
    let entries ← entriesOf contract [] descriptor.entrypoints
    return ⟨⟨descriptor.moduleRef, contract, descriptor.init⟩, entries, descriptor.events⟩

/-! ### Tables -/

/-- The name of the contract. -/
def contract (bindings : ContractBindings) : ContractName :=
  bindings.init.contract

/-- The keys with the names on chain. -/
def entrypoints (bindings : ContractBindings) : List (String × EntrypointName) :=
  bindings.entries.map fun entry => (entry.key, entry.method.entrypoint)

/-- The keys with the titles. -/
def titles (bindings : ContractBindings) : List (String × String) :=
  bindings.entries.map fun entry => (entry.key, entry.title)

/-- The keys with the methods. -/
def methods (bindings : ContractBindings) : List (String × ReceiveMethod) :=
  bindings.entries.map fun entry => (entry.key, entry.method)

/-- The title of the entrypoint with a key. -/
def title? (bindings : ContractBindings) (key : String) : Option String :=
  bindings.titles.lookup key

/-- The method of the entrypoint with a key. -/
def method? (bindings : ContractBindings) (key : String) : Option ReceiveMethod :=
  bindings.methods.lookup key

/-- The key and the method of the entrypoint which a text means: the one with that key, or
else the first one with that name on chain. -/
def resolve? (bindings : ContractBindings) (text : String) : Option (String × ReceiveMethod) :=
  match bindings.method? text with
  | some method => some (text, method)
  | none => bindings.methods.find? fun (_, method) => method.entrypoint.text = text

/-- The event that bytes stand for. -/
def decodeEvent {Value Error : Type} (bindings : ContractBindings)
    (codec : SchemaCodec Value Error) (data : List UInt8) : Except (BindingError Error) Value :=
  match bindings.events with
  | some schema => (codec.decode schema data).mapError .codec
  | none => .error (.noEventSchema bindings.contract.text)

end ContractBindings

/-! ### Built-in descriptions -/

/-- A description that comes with the program and is wrong. -/
structure BuiltInError where
  /-- The name of the contract in the description. -/
  contract : String
  /-- What is wrong. -/
  error : DescriptorError
deriving DecidableEq, Repr

/-- The text of the error. -/
def BuiltInError.message (error : BuiltInError) : String :=
  s!"invalid built-in descriptor of contract '{error.contract}': " ++ error.error.message

/-- Makes the bindings of a description that comes with the program. -/
def ContractBindings.ofBuiltIn (descriptor : ContractDescriptor) :
    Except BuiltInError ContractBindings :=
  (ofDescriptor descriptor).mapError fun error => ⟨descriptor.name, error⟩

/-! ### Documents -/

/-- A blob that may be missing, as a document. -/
def blobDocument (blob : Option SchemaBlob) : Document :=
  .ofOption (blob.map fun blob => .text blob.base64)

/-- The document of an init function. -/
def InitMethod.document (method : InitMethod) : Document :=
  .record [("moduleRef", .ofOption (method.moduleRef.map fun ref => .text ref.text)),
    ("contractName", .text method.contract.text),
    ("requestSchema", blobDocument method.request)]

/-- The document of an entrypoint. -/
def ReceiveMethod.document (method : ReceiveMethod) : Document :=
  .record [("contractName", .text method.contract.text),
    ("entrypoint", .text method.entrypoint.text),
    ("requestSchema", blobDocument method.request),
    ("responseSchema", blobDocument method.response),
    ("errorSchema", blobDocument method.error)]

/-- **The document of bindings**: the init function, the three tables and the schema of
events. -/
def ContractBindings.document (bindings : ContractBindings) : Document :=
  .record [("init", bindings.init.document),
    ("entrypoints", .record (bindings.entrypoints.map fun (key, name) => (key, .text name.text))),
    ("displayNames", .record (bindings.titles.map fun (key, title) => (key, .text title))),
    ("methods", .record (bindings.methods.map fun (key, method) => (key, method.document))),
    ("eventSchema", blobDocument bindings.events)]

end ContractSchema
