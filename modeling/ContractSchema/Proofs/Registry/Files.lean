import ContractSchema.Form.Registry
import ContractSchema.Proofs.Dump.Running
import ContractSchema.Registry

/-!
# The files of the known contracts

For every contract that is known a dump has something to do and nothing to fail at: there is a
text for each of its files, and the names of the files can be used and are different
(`ContractSchema.Registry.dumpable_of_find?`).
-/

namespace ContractSchema

/-- **A dump can be made** of a contract with its forms. -/
structure Dumpable (bindings : ContractBindings) (forms : Option ContractForms) : Prop where
  /-- The names of the files can be used. -/
  keys : UsableKeys bindings forms
  /-- No two files have the same name. -/
  distinct : ((dumpTargets bindings forms).map (·.name)).Nodup
  /-- Each file has a text. -/
  readable : ∀ target ∈ dumpTargets bindings forms, target.Readable
  /-- There are files. -/
  nonempty : dumpTargets bindings forms ≠ []

theorem DumpTarget.readable_iff {target : DumpTarget} :
    target.Readable ↔ target.text.toOption.isSome := by
  rw [DumpTarget.Readable]
  rcases target.text with error | text
  · simp [Except.toOption]
  · simp [Except.toOption]

/-- The names of the files are different if the keys of the forms are, and none of them is
`init`. -/
theorem dumpable_of_keys {bindings : ContractBindings} {forms : Option ContractForms}
    (keys : UsableKeys bindings forms)
    (distinct : ∀ f ∈ forms, (f.entrypoints.map (·.1)).Nodup)
    (others : ∀ f ∈ forms, "init" ∉ f.entrypoints.map (·.1))
    (readable : (dumpTargets bindings forms).all (·.text.toOption.isSome) = true)
    (nonempty : dumpTargets bindings forms ≠ []) : Dumpable bindings forms where
  keys := keys
  distinct := by
    refine (nodup_dumpTargets_iff distinct).mpr fun f hf => ?_
    rintro ⟨form, hform, -⟩
    exact others f hf (List.mem_map_of_mem hform)
  readable := fun target htarget =>
    DumpTarget.readable_iff.mpr (List.all_eq_true.mp readable target htarget)
  nonempty := nonempty

theorem MultiRoyalties.usableKeys : UsableKeys bindings none where
  ofEntrypoints := by decide +kernel
  ofForms := by rintro f ⟨⟩
  short := by decide +kernel

theorem MultiRoyalties.dumpable : Dumpable bindings none :=
  dumpable_of_keys usableKeys (by rintro f ⟨⟩) (by rintro f ⟨⟩) (by decide +kernel)
    (by decide +kernel)

theorem OffchainTransfers.usableKeys : UsableKeys bindings (some forms) where
  ofEntrypoints := by decide +kernel
  ofForms := by
    rintro f ⟨⟩
    decide
  short := by decide +kernel

theorem OffchainTransfers.dumpable : Dumpable bindings (some forms) := by
  refine dumpable_of_keys usableKeys ?_ ?_ (by decide +kernel) (by decide +kernel)
  · rintro f ⟨⟩
    decide
  · rintro f ⟨⟩
    decide

namespace Registry

/-- Two contracts are known, and one of them has forms. -/
theorem find?_cases {name : String} {bindings : ContractBindings}
    (h : find? name = some bindings) :
    bindings = MultiRoyalties.bindings ∧ forms? name = none ∨
      bindings = OffchainTransfers.bindings ∧ forms? name = some OffchainTransfers.forms := by
  have hname : bindings.contract.text = name := by
    simpa using List.find?_some h
  have hknown : bindings ∈ all := List.mem_of_find?_eq_some h
  rw [all, List.mem_cons, List.mem_singleton] at hknown
  rcases hknown with rfl | rfl
  · refine Or.inl ⟨rfl, ?_⟩
    rw [← hname]
    decide +kernel
  · refine Or.inr ⟨rfl, ?_⟩
    rw [← hname]
    rfl

/-- **A dump can be made of every known contract.** -/
theorem dumpable_of_find? {name : String} {bindings : ContractBindings}
    (h : find? name = some bindings) : Dumpable bindings (forms? name) := by
  rcases find?_cases h with ⟨rfl, hforms⟩ | ⟨rfl, hforms⟩
  · rw [hforms]
    exact MultiRoyalties.dumpable
  · rw [hforms]
    exact OffchainTransfers.dumpable

end Registry

end ContractSchema
