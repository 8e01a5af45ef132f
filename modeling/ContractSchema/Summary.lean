import ContractSchema.Contract

/-!
# Summaries of contracts

What is known about a contract is summed up in two tables, for people as lines with
columns and otherwise as documents.

* `ContractSchema.ContractSummary` sums up a contract, `ContractSchema.ContractBindings.summary`
  makes it.
* `ContractSchema.EntrypointSummary` sums up an entrypoint,
  `ContractSchema.ContractBindings.entrypointSummaries` makes those of a contract.
-/

namespace ContractSchema

/-- A text of at least the given width, filled up with blanks on the right. -/
def padRight (width : Nat) (text : String) : String :=
  text ++ String.ofList (List.replicate (width - text.length) ' ')

/-! ### Contracts -/

/-- **The summary of a contract.** -/
structure ContractSummary where
  /-- The name of the contract. -/
  contract : String
  /-- The module the contract is deployed with, if it is known. -/
  moduleRef : Option ModuleRef
  /-- The number of entrypoints. -/
  entrypoints : Nat
  /-- Whether there is a schema of events. -/
  hasEvents : Bool
  /-- Whether there are forms. -/
  hasForms : Bool

namespace ContractSummary

/-- The summary as a document. -/
def document (summary : ContractSummary) : Document :=
  .record [("contractName", .text summary.contract),
    ("moduleRef", .ofOption (summary.moduleRef.map fun ref => .text ref.text)),
    ("entrypoints", .ofNat summary.entrypoints),
    ("events", .bool summary.hasEvents),
    ("ui", .bool summary.hasForms)]

/-- The module reference, or a dash. -/
def moduleText (summary : ContractSummary) : String :=
  match summary.moduleRef with
  | some ref => ref.text
  | none => "-"

/-- The summary as a line. -/
def line (summary : ContractSummary) : String :=
  padRight 24 summary.contract ++ "\t" ++ summary.moduleText ++ "\t" ++
    toString summary.entrypoints ++ " entrypoints" ++
    (if summary.hasEvents then ", events" else "") ++
    (if summary.hasForms then ", ui" else "")

end ContractSummary

/-- **The summary of a contract**, given whether there are forms for it. -/
def ContractBindings.summary (bindings : ContractBindings) (hasForms : Bool) :
    ContractSummary where
  contract := bindings.contract.text
  moduleRef := bindings.init.moduleRef
  entrypoints := bindings.entries.length
  hasEvents := bindings.events.isSome
  hasForms := hasForms

/-! ### Entrypoints -/

/-- **The summary of an entrypoint.** -/
structure EntrypointSummary where
  /-- The key. -/
  key : String
  /-- The name on chain. -/
  entrypoint : String
  /-- The title. -/
  title : String
  /-- The kinds of which there is a schema. -/
  kinds : List SchemaKind

namespace EntrypointSummary

/-- The summary as a document. -/
def document (summary : EntrypointSummary) : Document :=
  .record [("key", .text summary.key),
    ("entrypoint", .text summary.entrypoint),
    ("displayName", .text summary.title),
    ("schemas", .list (summary.kinds.map fun kind => .text kind.text))]

/-- The summary as a line. -/
def line (summary : EntrypointSummary) : String :=
  padRight 24 summary.key ++ "\t" ++ padRight 24 summary.entrypoint ++ "\t" ++
    padRight 26 ("\"" ++ summary.title ++ "\"") ++ "\t" ++
    String.intercalate ", " (summary.kinds.map SchemaKind.text)

end EntrypointSummary

/-- The summary of an entrypoint. -/
def Entrypoint.summary (entry : Entrypoint) : EntrypointSummary where
  key := entry.key
  entrypoint := entry.method.entrypoint.text
  title := entry.title
  kinds := entry.method.kinds

/-- **The summaries of the entrypoints** of a contract. -/
def ContractBindings.entrypointSummaries (bindings : ContractBindings) :
    List EntrypointSummary :=
  bindings.entries.map Entrypoint.summary

end ContractSchema
