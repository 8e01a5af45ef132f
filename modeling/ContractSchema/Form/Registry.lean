import ContractSchema.Form.OffchainTransfers

/-!
# The forms that are known

* `ContractSchema.Registry.forms?` finds the forms of a contract by its name.
-/

namespace ContractSchema.Registry

/-- The forms of the contract with a name, if there are any. -/
def forms? (name : String) : Option ContractForms :=
  [OffchainTransfers.forms].find? fun forms => forms.bindings.contract.text = name

end ContractSchema.Registry
