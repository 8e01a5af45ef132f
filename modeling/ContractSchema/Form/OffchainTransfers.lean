import ContractSchema.Form.Basic
import ContractSchema.Registry.OffchainTransfers

/-!
# Forms of the off-chain transfers contract

Four entrypoints of the contract have forms: `addSettlement` and `withdraw` change
the state, `getSettlement` and `settledBalanceOf` are asked. Times are entered and
shown as texts.

* `ContractSchema.OffchainTransfers.forms` are the forms.
-/

namespace ContractSchema.OffchainTransfers

/-! ### Parts of documents -/

/-- A document of a text. -/
def textDocument (title : String) : Json :=
  Json.ofMembers [("type", .string "string"), ("title", .string title)]

/-- A document of an object. -/
def objectDocument (title : String) (properties : List (String × Json)) : Json :=
  Json.ofMembers [("type", .string "object"), ("title", .string title),
    ("properties", Json.ofMembers properties)]

/-- A document of a list. -/
def listDocument (title : String) (items : Json) : Json :=
  Json.ofMembers [("type", .string "array"), ("title", .string title), ("items", items)]

/-- A document of an integer which is not negative. -/
def naturalDocument (title : String) : Json :=
  Json.ofMembers [("type", .string "integer"), ("minimum", Json.ofNat 0),
    ("title", .string title)]

/-- A document of an integer which is not negative and has an upper bound. -/
def boundedDocument (title : String) (maximum : Nat) : Json :=
  Json.ofMembers [("type", .string "integer"), ("minimum", Json.ofNat 0),
    ("maximum", Json.ofNat maximum), ("title", .string title)]

/-- A document of a list of transfers. -/
def transfersDocument (title : String) : Json :=
  listDocument title (objectDocument ""
    [("address", textDocument "Address"), ("amount", textDocument "Amount")])

/-- A document of a settlement: transfers in both directions, and bytes of the user's own. -/
def settlementDocument (title : String) : Json :=
  objectDocument title
    [("send_transfers", transfersDocument "Send Transfers"),
      ("receive_transfers", transfersDocument "Receive Transfers"),
      ("meta_data", listDocument "Meta Data" (boundedDocument "" 255))]

/-! ### Documents -/

/-- The document of what the init function takes. -/
def initDocument : FormDocument :=
  ⟨objectDocument "Init Request"
    [("validator", textDocument "Validator"),
      ("judge", textDocument "Judge"),
      ("time_to_finality", textDocument "Time To Finality"),
      ("settlement_limit", boundedDocument "Settlement Limit" 4294967295)]⟩

/-- The document of what `addSettlement` takes. -/
def addSettlementDocument : FormDocument :=
  ⟨settlementDocument "Add Settlement Request"⟩

/-- The document of what `getSettlement` takes. -/
def getSettlementDocument : FormDocument :=
  ⟨naturalDocument "Get Settlement Request"⟩

/-- The document of what `getSettlement` returns. -/
def settlementResponseDocument : FormDocument :=
  ⟨objectDocument "Get Settlement Response"
    [("id", naturalDocument "Id"),
      ("transfer", settlementDocument "Transfer"),
      ("finality_time", Json.ofMembers [("type", .string "string"),
        ("format", .string "date-time"), ("title", .string "Finality Time")])]⟩

/-- The document of what `settledBalanceOf` takes. -/
def settledBalanceOfDocument : FormDocument :=
  ⟨textDocument "Settled Balance Of Request"⟩

/-- The document of what `settledBalanceOf` returns. -/
def balanceResponseDocument : FormDocument :=
  ⟨textDocument "Settled Balance Of Response"⟩

/-- The document of what `withdraw` takes. -/
def withdrawDocument : FormDocument :=
  ⟨textDocument "Withdraw Request"⟩

/-! ### Forms -/

/-- The method of an entrypoint of the contract. -/
def method (key : String) (known : (bindings.method? key).isSome = true := by decide) :
    ReceiveMethod :=
  (bindings.method? key).get known

/-- **The forms of the contract.** -/
def forms : ContractForms where
  bindings := bindings
  initDocument := initDocument
  entrypoints :=
    [("addSettlement", .update (method "addSettlement") addSettlementDocument),
      ("getSettlement",
        .invoke (method "getSettlement") (some getSettlementDocument)
          settlementResponseDocument),
      ("settledBalanceOf",
        .invoke (method "settledBalanceOf") (some settledBalanceOfDocument)
          balanceResponseDocument),
      ("withdraw", .update (method "withdraw") withdrawDocument)]

end ContractSchema.OffchainTransfers
