import ContractSchema.Contract

/-!
# The multi-royalties contract

A contract for tokens of many kinds which pays royalties to their minters whenever a
token is transferred. It logs typed events, and most of its entrypoints may end with the
same error.

* `ContractSchema.MultiRoyalties.descriptor` describes the contract.
* `ContractSchema.MultiRoyalties.bindings` are its bindings.
-/

namespace ContractSchema.MultiRoyalties

/-! ### Schemas -/

/-- What the init function takes: whether royalties are paid. -/
def initRequest : SchemaBlob :=
  ⟨"FAABAAAACwAAAHBheV9yb3lhbHR5AQ=="⟩

/-- The error of all entrypoints that may end with one. -/
def contractError : SchemaBlob :=
  ⟨"FQQAAAAOAAAASW52YWxpZFRva2VuSWQCEQAAAEluc3VmZmljaWVudEZ1bmRzAgwAAABVbmF1dGhvcml6ZWQCBgAA" ++
    "AEN1c3RvbQEBAAAAFQsAAAALAAAAUGFyc2VQYXJhbXMCBwAAAExvZ0Z1bGwCDAAAAExvZ01hbGZvcm1lZAIMAAAA" ++
    "Q29udHJhY3RPbmx5AhMAAABJbnZva2VDb250cmFjdEVycm9yAhAAAABOb1JveWFsdHlQYXlhYmxlAhsAAABDb250" ++
    "cmFjdERvZXNOb3RQYXlSb3lhbHRpZXMCDgAAAEludmFsaWRUb2tlbklkAhMAAABJbnZhbGlkUm95YWx0eVZhbHVl" ++
    "AhUAAABJbnZhbGlkUm95YWx0eUFkZHJlc3MCCAAAAE92ZXJmbG93Ag=="⟩

/-- The events: token metadata, operator updates, burns, mints and transfers. -/
def event : SchemaBlob :=
  ⟨"HwUAAAD7DQAAAFRva2VuTWV0YWRhdGEAAgAAAAgAAAB0b2tlbl9pZB0ADAAAAG1ldGFkYXRhX3VybBQAAgAAAAMA" ++
    "AAB1cmwWAQQAAABoYXNoFQIAAAAEAAAATm9uZQIEAAAAU29tZQEBAAAAHiAAAAD8DgAAAFVwZGF0ZU9wZXJhdG9y" ++
    "AAMAAAAGAAAAdXBkYXRlFQIAAAAGAAAAUmVtb3ZlAgMAAABBZGQCBQAAAG93bmVyFQIAAAAHAAAAQWNjb3VudAEB" ++
    "AAAACwgAAABDb250cmFjdAEBAAAADAgAAABvcGVyYXRvchUCAAAABwAAAEFjY291bnQBAQAAAAsIAAAAQ29udHJh" ++
    "Y3QBAQAAAAz9BAAAAEJ1cm4AAwAAAAgAAAB0b2tlbl9pZB0ABgAAAGFtb3VudBslAAAABQAAAG93bmVyFQIAAAAH" ++
    "AAAAQWNjb3VudAEBAAAACwgAAABDb250cmFjdAEBAAAADP4EAAAATWludAADAAAACAAAAHRva2VuX2lkHQAGAAAA" ++
    "YW1vdW50GyUAAAAFAAAAb3duZXIVAgAAAAcAAABBY2NvdW50AQEAAAALCAAAAENvbnRyYWN0AQEAAAAM/wgAAABU" ++
    "cmFuc2ZlcgAEAAAACAAAAHRva2VuX2lkHQAGAAAAYW1vdW50GyUAAAAEAAAAZnJvbRUCAAAABwAAAEFjY291bnQB" ++
    "AQAAAAsIAAAAQ29udHJhY3QBAQAAAAwCAAAAdG8VAgAAAAcAAABBY2NvdW50AQEAAAALCAAAAENvbnRyYWN0AQEA" ++
    "AAAM"⟩

/-- What `balanceOf` takes. -/
def balanceOfRequest : SchemaBlob :=
  ⟨"EAEUAAIAAAAIAAAAdG9rZW5faWQdAAcAAABhZGRyZXNzFQIAAAAHAAAAQWNjb3VudAEBAAAACwgAAABDb250cmFj" ++
    "dAEBAAAADA=="⟩

/-- What `balanceOf` returns. -/
def balanceOfResponse : SchemaBlob :=
  ⟨"EAEbJQAAAA=="⟩

/-- What `checkRoyalty` takes. -/
def checkRoyaltyRequest : SchemaBlob :=
  ⟨"FAACAAAAAgAAAGlkHQAKAAAAc2FsZV9wcmljZQU="⟩

/-- What `contractPaysRoyalties` returns. -/
def contractPaysRoyaltiesResponse : SchemaBlob :=
  ⟨"AQ=="⟩

/-- What `mint` takes. -/
def mintRequest : SchemaBlob :=
  ⟨"FAADAAAABQAAAG93bmVyFQIAAAAHAAAAQWNjb3VudAEBAAAACwgAAABDb250cmFjdAEBAAAADAYAAAB0b2tlbnMS" ++
    "Ah0AGyUAAAASAAAAcm95YWx0eV9wZXJjZW50YWdlAg=="⟩

/-- What `operatorOf` takes. -/
def operatorOfRequest : SchemaBlob :=
  ⟨"EAEUAAIAAAAFAAAAb3duZXIVAgAAAAcAAABBY2NvdW50AQEAAAALCAAAAENvbnRyYWN0AQEAAAAMBwAAAGFkZHJl" ++
    "c3MVAgAAAAcAAABBY2NvdW50AQEAAAALCAAAAENvbnRyYWN0AQEAAAAM"⟩

/-- What `operatorOf` returns. -/
def operatorOfResponse : SchemaBlob :=
  ⟨"EAEB"⟩

/-- What `setImplementors` takes. -/
def setImplementorsRequest : SchemaBlob :=
  ⟨"FAACAAAAAgAAAGlkFgAMAAAAaW1wbGVtZW50b3JzEAIM"⟩

/-- What `supports` takes. -/
def supportsRequest : SchemaBlob :=
  ⟨"EAEWAA=="⟩

/-- What `supports` returns. -/
def supportsResponse : SchemaBlob :=
  ⟨"EAEVAwAAAAkAAABOb1N1cHBvcnQCBwAAAFN1cHBvcnQCCQAAAFN1cHBvcnRCeQEBAAAAEAAM"⟩

/-- What `tokenMetadata` takes. -/
def tokenMetadataRequest : SchemaBlob :=
  ⟨"EAEdAA=="⟩

/-- What `tokenMetadata` returns. -/
def tokenMetadataResponse : SchemaBlob :=
  ⟨"EAEUAAIAAAADAAAAdXJsFgEEAAAAaGFzaBUCAAAABAAAAE5vbmUCBAAAAFNvbWUBAQAAAB4gAAAA"⟩

/-- What `transfer` takes. -/
def transferRequest : SchemaBlob :=
  ⟨"EAEUAAUAAAAIAAAAdG9rZW5faWQdAAYAAABhbW91bnQbJQAAAAQAAABmcm9tFQIAAAAHAAAAQWNjb3VudAEBAAAA" ++
    "CwgAAABDb250cmFjdAEBAAAADAIAAAB0bxUCAAAABwAAAEFjY291bnQBAQAAAAsIAAAAQ29udHJhY3QBAgAAAAwW" ++
    "AQQAAABkYXRhHQE="⟩

/-- What `updateOperator` takes. -/
def updateOperatorRequest : SchemaBlob :=
  ⟨"EAEUAAIAAAAGAAAAdXBkYXRlFQIAAAAGAAAAUmVtb3ZlAgMAAABBZGQCCAAAAG9wZXJhdG9yFQIAAAAHAAAAQWNj" ++
    "b3VudAEBAAAACwgAAABDb250cmFjdAEBAAAADA=="⟩

/-- What `view` returns. -/
def viewResponse : SchemaBlob :=
  ⟨"FAACAAAABQAAAHN0YXRlEAIPFQIAAAAHAAAAQWNjb3VudAEBAAAACwgAAABDb250cmFjdAEBAAAADBQAAgAAAAgA" ++
    "AABiYWxhbmNlcxACDx0AGyUAAAAJAAAAb3BlcmF0b3JzEAIVAgAAAAcAAABBY2NvdW50AQEAAAALCAAAAENvbnRy" ++
    "YWN0AQEAAAAMBgAAAHRva2VucxACHQA="⟩

/-! ### The contract -/

/-- The module the contract is deployed with. -/
def moduleRef : ModuleRef where
  bytes := [0x1d, 0x45, 0x38, 0xb8, 0xa9, 0xf6, 0x90, 0xe5, 0x6a, 0x5a, 0x07, 0xe8,
    0x27, 0x64, 0x46, 0x95, 0x89, 0x0e, 0x17, 0x7a, 0xd1, 0xf5, 0x8d, 0xba,
    0x42, 0x2d, 0x9e, 0x19, 0xde, 0x3c, 0xee, 0xbb]
  length_eq := rfl

/-- The entrypoints. -/
def entrypoints : List EntrypointDescriptor :=
  [⟨"balanceOf", "balanceOf", "Balance Of",
      some balanceOfRequest, some balanceOfResponse, some contractError⟩,
    ⟨"checkRoyalty", "check_royalty", "Check Royalty",
      some checkRoyaltyRequest, none, some contractError⟩,
    ⟨"contractPaysRoyalties", "contract_pays_royalties", "Contract Pays Royalties",
      none, some contractPaysRoyaltiesResponse, none⟩,
    ⟨"mint", "mint", "Mint", some mintRequest, none, some contractError⟩,
    ⟨"onReceivingCis2", "onReceivingCIS2", "On Receiving Cis 2", none, none, some contractError⟩,
    ⟨"operatorOf", "operatorOf", "Operator Of",
      some operatorOfRequest, some operatorOfResponse, some contractError⟩,
    ⟨"setImplementors", "setImplementors", "Set Implementors",
      some setImplementorsRequest, none, some contractError⟩,
    ⟨"supports", "supports", "Supports",
      some supportsRequest, some supportsResponse, some contractError⟩,
    ⟨"tokenMetadata", "tokenMetadata", "Token Metadata",
      some tokenMetadataRequest, some tokenMetadataResponse, some contractError⟩,
    ⟨"transfer", "transfer", "Transfer", some transferRequest, none, some contractError⟩,
    ⟨"updateOperator", "updateOperator", "Update Operator",
      some updateOperatorRequest, none, some contractError⟩,
    ⟨"view", "view", "View", none, some viewResponse, none⟩]

/-- **The description of the contract.** -/
def descriptor : ContractDescriptor where
  name := "cis2_multi_royalties"
  moduleRef := some moduleRef
  init := some initRequest
  events := some event
  entrypoints := entrypoints

/-- The description has no faults. -/
theorem descriptor_isOk : (ContractBindings.ofDescriptor descriptor).toOption.isSome = true := by
  decide

/-- **The bindings of the contract.** -/
def bindings : ContractBindings :=
  (ContractBindings.ofDescriptor descriptor).toOption.get descriptor_isOk

end ContractSchema.MultiRoyalties
