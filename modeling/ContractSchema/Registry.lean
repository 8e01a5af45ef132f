import ContractSchema.Registry.MultiRoyalties
import ContractSchema.Registry.OffchainTransfers

/-!
# The contracts that are known

* `ContractSchema.Registry.all` are the bindings of all known contracts.
* `ContractSchema.Registry.find?` finds the bindings of a contract by its name.
-/

namespace ContractSchema.Registry

/-- **The bindings of all known contracts.** -/
def all : List ContractBindings :=
  [MultiRoyalties.bindings, OffchainTransfers.bindings]

/-- The names of all known contracts. -/
def names : List String :=
  all.map fun bindings => bindings.contract.text

/-- The bindings of the contract with a name. -/
def find? (name : String) : Option ContractBindings :=
  all.find? fun bindings => bindings.contract.text = name

end ContractSchema.Registry
