import ContractSchema.Contract

/-!
# The off-chain transfers contract

A contract that holds deposits and settles them by batches of transfers which are agreed
on off the chain, under a validator and a judge. It is deployed once per validator, so no
module is known for it. It describes neither errors nor events.

* `ContractSchema.OffchainTransfers.descriptor` describes the contract.
* `ContractSchema.OffchainTransfers.bindings` are its bindings.
-/

namespace ContractSchema.OffchainTransfers

/-! ### Schemas -/

/-- What the init function takes: the validator, the judge, the time to finality and the limit
of settlements. -/
def initRequest : SchemaBlob :=
  ⟨"FAAEAAAACQAAAHZhbGlkYXRvcgsFAAAAanVkZ2ULEAAAAHRpbWVfdG9fZmluYWxpdHkOEAAAAHNldHRsZW1lbnRf" ++
    "bGltaXQE"⟩

/-- What `withdraw` takes. -/
def withdrawRequest : SchemaBlob :=
  ⟨"Cg=="⟩

/-- What `addSettlement` takes. -/
def addSettlementRequest : SchemaBlob :=
  ⟨"FAADAAAADgAAAHNlbmRfdHJhbnNmZXJzEAIUAAIAAAAHAAAAYWRkcmVzcwsGAAAAYW1vdW50ChEAAAByZWNlaXZl" ++
    "X3RyYW5zZmVycxACFAACAAAABwAAAGFkZHJlc3MLBgAAAGFtb3VudAoJAAAAbWV0YV9kYXRhEAIC"⟩

/-- What `settledBalanceOf` takes. -/
def settledBalanceOfRequest : SchemaBlob :=
  ⟨"Cw=="⟩

/-- What `settledBalanceOf` returns. -/
def settledBalanceOfResponse : SchemaBlob :=
  ⟨"Cg=="⟩

/-- What `getSettlement` takes. -/
def getSettlementRequest : SchemaBlob :=
  ⟨"BQ=="⟩

/-- What `getSettlement` returns. -/
def getSettlementResponse : SchemaBlob :=
  ⟨"FAADAAAAAgAAAGlkBQgAAAB0cmFuc2ZlchQAAwAAAA4AAABzZW5kX3RyYW5zZmVycxACFAACAAAABwAAAGFkZHJl" ++
    "c3MLBgAAAGFtb3VudAoRAAAAcmVjZWl2ZV90cmFuc2ZlcnMQAhQAAgAAAAcAAABhZGRyZXNzCwYAAABhbW91bnQK" ++
    "CQAAAG1ldGFfZGF0YRACAg0AAABmaW5hbGl0eV90aW1lDQ=="⟩

/-! ### The contract -/

/-- The entrypoints. -/
def entrypoints : List EntrypointDescriptor :=
  [⟨"deposit", "deposit", "Deposit", none, none, none⟩,
    ⟨"withdraw", "withdraw", "Withdraw", some withdrawRequest, none, none⟩,
    ⟨"addSettlement", "add-settlement", "Add Settlement", some addSettlementRequest, none, none⟩,
    ⟨"veto", "veto", "Veto", none, none, none⟩,
    ⟨"executeSettlements", "execute-settlements", "Execute Settlements", none, none, none⟩,
    ⟨"settledBalanceOf", "settled-balance-of", "Settled Balance Of",
      some settledBalanceOfRequest, some settledBalanceOfResponse, none⟩,
    ⟨"getSettlement", "get-settlement", "Get Settlement",
      some getSettlementRequest, some getSettlementResponse, none⟩]

/-- **The description of the contract.** -/
def descriptor : ContractDescriptor where
  name := "offchain-transfers"
  moduleRef := none
  init := some initRequest
  events := none
  entrypoints := entrypoints

/-- The description has no faults. -/
theorem descriptor_isOk : (ContractBindings.ofDescriptor descriptor).toOption.isSome = true := by
  decide

/-- **The bindings of the contract.** -/
def bindings : ContractBindings :=
  (ContractBindings.ofDescriptor descriptor).toOption.get descriptor_isOk

end ContractSchema.OffchainTransfers
