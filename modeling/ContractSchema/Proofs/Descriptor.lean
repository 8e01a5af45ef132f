import ContractSchema.Proofs.Contract

/-!
# Which descriptions make bindings

Descriptions of entrypoints are checked one after the other, each of them against the keys
of those before it. What can be wrong with one is its fault
(`ContractSchema.EntrypointDescriptor.Fault`): it has at most one, as an empty key goes
first, then the name, and a repeated key comes last. The check stops at the first
description with a fault (`ContractSchema.ContractBindings.entriesOf_eq_error_iff`), and if
there is none it comes to its end (`ContractSchema.ContractBindings.exists_entriesOf_iff`).

Together with the name of the contract this says which descriptions make bindings, what is
reported of the others, and what the tables of the bindings hold
(`ContractSchema.ContractBindings.ofDescriptor_outcome`).
-/

namespace ContractSchema

namespace EntrypointDescriptor

/-! ### Faults -/

/-- **What is wrong with the description** of an entrypoint which comes behind those with the
given keys. -/
inductive Fault (seen : List String) (descriptor : EntrypointDescriptor) : DescriptorError → Prop
  /-- The key is empty. -/
  | emptyKey (hkey : descriptor.key = "") : Fault seen descriptor .emptyKey
  /-- The key is not empty, but the name is not valid. -/
  | name {error : NameError} (hkey : descriptor.key ≠ "")
      (hname : EntrypointName.ofString descriptor.entrypoint = .error error) :
      Fault seen descriptor (.name error)
  /-- There is a valid name, but the key was there before. -/
  | repeatedKey (hkey : descriptor.key ≠ "")
      (hname : EntrypointName.IsValid descriptor.entrypoint) (hseen : descriptor.key ∈ seen) :
      Fault seen descriptor (.repeatedKey descriptor.key)

/-- There is nothing wrong with the description of an entrypoint behind those with the given
keys. -/
structure Faultless (seen : List String) (descriptor : EntrypointDescriptor) : Prop where
  /-- The key is not empty. -/
  key_ne : descriptor.key ≠ ""
  /-- The name is valid. -/
  name_isValid : EntrypointName.IsValid descriptor.entrypoint
  /-- The key is new. -/
  key_notin : descriptor.key ∉ seen

/-- **Descriptions which go together**: keys are not empty, names are valid, and no key is
repeated. -/
def AllFaultless (descriptors : List EntrypointDescriptor) : Prop :=
  (∀ descriptor ∈ descriptors,
    descriptor.key ≠ "" ∧ EntrypointName.IsValid descriptor.entrypoint) ∧
    (descriptors.map (·.key)).Nodup

theorem exists_fault_or_faultless (seen : List String) (descriptor : EntrypointDescriptor) :
    (∃ error, descriptor.Fault seen error) ∨ descriptor.Faultless seen := by
  by_cases hkey : descriptor.key = ""
  · exact Or.inl ⟨_, .emptyKey hkey⟩
  rcases hname : EntrypointName.ofString descriptor.entrypoint with error | name
  · exact Or.inl ⟨_, .name hkey hname⟩
  have hvalid := EntrypointName.exists_ofString_eq_ok_iff.mp ⟨name, hname⟩
  by_cases hseen : descriptor.key ∈ seen
  · exact Or.inl ⟨_, .repeatedKey hkey hvalid hseen⟩
  · exact Or.inr ⟨hkey, hvalid, hseen⟩

theorem Fault.not_faultless {seen : List String} {descriptor : EntrypointDescriptor}
    {error : DescriptorError} (h : descriptor.Fault seen error) : ¬descriptor.Faultless seen := by
  rintro ⟨hkey, hvalid, hseen⟩
  cases h with
  | emptyKey h => exact hkey h
  | name _ hname =>
    obtain ⟨name, hok⟩ := EntrypointName.exists_ofString_eq_ok_iff.mpr hvalid
    rw [hok] at hname
    cases hname
  | repeatedKey _ _ h => exact hseen h

/-- It does not matter in which order the keys before have been seen. -/
theorem Fault.perm {seen seen' : List String} {descriptor : EntrypointDescriptor}
    {error : DescriptorError} (h : descriptor.Fault seen error) (perm : seen.Perm seen') :
    descriptor.Fault seen' error := by
  cases h with
  | emptyKey hkey => exact .emptyKey hkey
  | name hkey hname => exact .name hkey hname
  | repeatedKey hkey hname hseen => exact .repeatedKey hkey hname (perm.mem_iff.mp hseen)

/-- Descriptions go together if the first one is without fault, and the others are behind
it. -/
theorem allFaultless_cons_iff {seen : List String} {descriptor : EntrypointDescriptor}
    {descriptors : List EntrypointDescriptor} :
    (AllFaultless (descriptor :: descriptors) ∧
        ∀ other ∈ descriptor :: descriptors, other.key ∉ seen) ↔
      descriptor.Faultless seen ∧ AllFaultless descriptors ∧
        ∀ other ∈ descriptors, other.key ∉ descriptor.key :: seen := by
  rw [AllFaultless, AllFaultless, List.map_cons, List.nodup_cons, List.forall_mem_cons,
    List.forall_mem_cons]
  have hnew : descriptor.key ∉ descriptors.map (·.key) ↔
      ∀ other ∈ descriptors, other.key ≠ descriptor.key := by
    simp [List.mem_map]
  have hkeys : (∀ other ∈ descriptors, other.key ∉ descriptor.key :: seen) ↔
      (∀ other ∈ descriptors, other.key ≠ descriptor.key) ∧
        ∀ other ∈ descriptors, other.key ∉ seen := by
    simp only [List.mem_cons, not_or, forall_and]
  rw [hnew, hkeys]
  constructor
  · rintro ⟨⟨⟨⟨hkey, hvalid⟩, hrest⟩, hfirst, hdistinct⟩, hseen, hunseen⟩
    exact ⟨⟨hkey, hvalid, hseen⟩, ⟨hrest, hdistinct⟩, hfirst, hunseen⟩
  · rintro ⟨⟨hkey, hvalid, hseen⟩, ⟨hrest, hdistinct⟩, hfirst, hunseen⟩
    exact ⟨⟨⟨⟨hkey, hvalid⟩, hrest⟩, hfirst, hdistinct⟩, hseen, hunseen⟩

end EntrypointDescriptor

namespace ContractBindings

open EntrypointDescriptor

variable {contract : ContractName} {seen : List String} {descriptor : EntrypointDescriptor}
  {descriptors : List EntrypointDescriptor} {error : DescriptorError}

/-! ### One description after the other -/

theorem entriesOf_cons_of_fault (contract : ContractName)
    (descriptors : List EntrypointDescriptor) (h : descriptor.Fault seen error) :
    entriesOf contract seen (descriptor :: descriptors) = .error error := by
  rw [entriesOf]
  cases h with
  | emptyKey hkey => rw [if_pos hkey]
  | name hkey hname => rw [if_neg hkey, hname]
  | repeatedKey hkey hvalid hseen =>
    obtain ⟨name, hname⟩ := EntrypointName.exists_ofString_eq_ok_iff.mpr hvalid
    rw [if_neg hkey, hname]
    exact if_pos hseen

theorem entriesOf_cons_of_faultless (contract : ContractName)
    (descriptors : List EntrypointDescriptor) (h : descriptor.Faultless seen) :
    ∃ name, EntrypointName.ofString descriptor.entrypoint = .ok name ∧
      entriesOf contract seen (descriptor :: descriptors) =
        (entriesOf contract (descriptor.key :: seen) descriptors).map
          (descriptor.entry contract name :: ·) := by
  obtain ⟨hkey, hvalid, hseen⟩ := h
  obtain ⟨name, hname⟩ := EntrypointName.exists_ofString_eq_ok_iff.mpr hvalid
  refine ⟨name, hname, ?_⟩
  rw [entriesOf, if_neg hkey, hname]
  exact if_neg hseen

/-- **Descriptions which go together** have entrypoints, and no others have. -/
theorem exists_entriesOf_iff :
    (∃ entries, entriesOf contract seen descriptors = .ok entries) ↔
      AllFaultless descriptors ∧ ∀ descriptor ∈ descriptors, descriptor.key ∉ seen := by
  -- on the descriptions to come, for all keys seen before them
  induction descriptors generalizing seen with
  | nil => simp [entriesOf, AllFaultless]
  | cons descriptor descriptors ih =>
    rw [allFaultless_cons_iff, ← ih]
    rcases exists_fault_or_faultless seen descriptor with ⟨error, hfault⟩ | hfaultless
    · rw [entriesOf_cons_of_fault contract descriptors hfault]
      simp [hfault.not_faultless]
    · obtain ⟨name, -, hentries⟩ :=
        entriesOf_cons_of_faultless contract descriptors hfaultless
      rw [hentries, and_iff_right hfaultless]
      rcases entriesOf contract (descriptor.key :: seen) descriptors with error | entries
      · simp [Except.map]
      · simp [Except.map]

/-- **The first fault is reported**, of the first description which does not go with those
before it. -/
theorem entriesOf_eq_error_iff :
    entriesOf contract seen descriptors = .error error ↔
      ∃ before descriptor after, descriptors = before ++ descriptor :: after ∧
        AllFaultless before ∧ (∀ other ∈ before, other.key ∉ seen) ∧
          descriptor.Fault (before.map (·.key) ++ seen) error := by
  induction descriptors generalizing seen with
  | nil =>
    refine iff_of_false (fun h => by cases h) ?_
    rintro ⟨before, descriptor, after, hsplit, -⟩
    exact absurd hsplit.symm (by simp)
  | cons first descriptors ih =>
    rcases exists_fault_or_faultless seen first with ⟨fault, hfault⟩ | hfaultless
    · have herror := entriesOf_cons_of_fault contract descriptors hfault
      constructor
      · intro h
        obtain rfl := Except.error.inj (herror.symm.trans h)
        exact ⟨[], first, descriptors, rfl, ⟨by simp, .nil⟩, by simp, hfault⟩
      · rintro ⟨before, descriptor, after, hsplit, hbefore, hunseen, hother⟩
        rcases before with _ | ⟨_, before⟩
        · obtain ⟨rfl, rfl⟩ := List.cons.inj hsplit
          exact entriesOf_cons_of_fault contract descriptors hother
        · obtain ⟨rfl, -⟩ := List.cons.inj hsplit
          exact absurd (allFaultless_cons_iff.mp ⟨hbefore, hunseen⟩).1 hfault.not_faultless
    · obtain ⟨name, -, hentries⟩ := entriesOf_cons_of_faultless contract descriptors hfaultless
      rw [hentries, mapOk_eq_error_iff, ih]
      -- the keys before are seen in another order
      have hperm : ∀ before : List EntrypointDescriptor,
          (before.map (·.key) ++ first.key :: seen).Perm
            ((first :: before).map (·.key) ++ seen) := fun before => List.perm_middle
      constructor
      · rintro ⟨before, descriptor, after, rfl, hbefore, hunseen, hfault⟩
        obtain ⟨hall, hnew⟩ := allFaultless_cons_iff.mpr ⟨hfaultless, hbefore, hunseen⟩
        exact ⟨first :: before, descriptor, after, rfl, hall, hnew, hfault.perm (hperm before)⟩
      · rintro ⟨before, descriptor, after, hsplit, hbefore, hunseen, hfault⟩
        rcases before with _ | ⟨_, before⟩
        · obtain ⟨rfl, -⟩ := List.cons.inj hsplit
          exact absurd hfaultless hfault.not_faultless
        · obtain ⟨rfl, rfl⟩ := List.cons.inj hsplit
          obtain ⟨-, hall, hnew⟩ := allFaultless_cons_iff.mp ⟨hbefore, hunseen⟩
          exact ⟨before, descriptor, after, rfl, hall, hnew, hfault.perm (hperm before).symm⟩

/-! ### Bindings of a description -/

/-- A table by keys holds under the key of an entrypoint what belongs to it. -/
theorem lookup_key {α : Type} {entries : List Entrypoint}
    (distinct : (entries.map (·.key)).Nodup) (f : Entrypoint → α) {entry : Entrypoint}
    (h : entry ∈ entries) :
    (entries.map fun entry => (entry.key, f entry)).lookup entry.key = some (f entry) := by
  have hkeys : ((entries.map fun entry => (entry.key, f entry)).map (·.1)).Nodup := by
    rwa [List.map_map]
  exact (lookup_eq_some_iff_mem hkeys).mpr (List.mem_map.mpr ⟨entry, h, rfl⟩)

theorem keys_of_describes {entries : List Entrypoint}
    (h : List.Forall₂ (Describes contract) descriptors entries) :
    entries.map (·.key) = descriptors.map (·.key) := by
  induction h with
  | nil => rfl
  | cons hdescribes _ ih => rw [List.map_cons, List.map_cons, hdescribes.key, ih]

section Descriptor

variable {description : ContractDescriptor}

theorem ofDescriptor_of_name_error {error : NameError}
    (h : ContractName.ofString description.name = .error error) :
    ofDescriptor description = .error (.name error) := by
  rw [ofDescriptor, h]

theorem ofDescriptor_of_name_ok (h : ContractName.ofString description.name = .ok contract) :
    ofDescriptor description = (entriesOf contract [] description.entrypoints).map
      fun entries => ⟨⟨description.moduleRef, contract, description.init⟩, entries,
        description.events⟩ := by
  rw [ofDescriptor, h]
  rfl

/-- **Bindings are made** of valid names and of descriptions which go together. -/
theorem exists_ofDescriptor_iff :
    (∃ bindings, ofDescriptor description = .ok bindings) ↔
      ContractName.IsValid description.name ∧ AllFaultless description.entrypoints := by
  rw [← ContractName.exists_ofString_eq_ok_iff]
  rcases hname : ContractName.ofString description.name with error | contract
  · rw [ofDescriptor_of_name_error hname]
    simp
  · have hentries : (∃ entries, entriesOf contract [] description.entrypoints = .ok entries) ↔
        AllFaultless description.entrypoints := by
      rw [exists_entriesOf_iff]
      simp
    rw [ofDescriptor_of_name_ok hname, and_iff_right ⟨contract, rfl⟩, ← hentries]
    rcases entriesOf contract [] description.entrypoints with error | entries
    · simp [Except.map]
    · simp [Except.map]

/-- **What is reported**: the name of the contract, or else the first fault. -/
theorem ofDescriptor_eq_error_iff :
    ofDescriptor description = .error error ↔
      (∃ nameError, ContractName.ofString description.name = .error nameError ∧
          error = .name nameError) ∨
        ContractName.IsValid description.name ∧ ∃ before descriptor after,
          description.entrypoints = before ++ descriptor :: after ∧ AllFaultless before ∧
            descriptor.Fault (before.map (·.key)) error := by
  rw [← ContractName.exists_ofString_eq_ok_iff]
  rcases hname : ContractName.ofString description.name with nameError | contract
  · rw [ofDescriptor_of_name_error hname]
    simp [eq_comm]
  · rw [ofDescriptor_of_name_ok hname, mapOk_eq_error_iff, entriesOf_eq_error_iff]
    simp

/-- **Descriptions and bindings.** A description makes bindings if and only if the name of the
contract is valid, all keys are there and different, and all names of entrypoints are valid.
If not, the name of the contract is reported, or else the first fault in the order of the
entrypoints. The tables of the bindings have the keys of the description in its order, and
under each of them the name, the title and the method described there. -/
theorem ofDescriptor_outcome (description : ContractDescriptor) :
    ((∃ bindings, ofDescriptor description = .ok bindings) ↔
      ContractName.IsValid description.name ∧ AllFaultless description.entrypoints) ∧
    (∀ error, ofDescriptor description = .error error ↔
      (∃ nameError, ContractName.ofString description.name = .error nameError ∧
          error = .name nameError) ∨
        ContractName.IsValid description.name ∧ ∃ before descriptor after,
          description.entrypoints = before ++ descriptor :: after ∧ AllFaultless before ∧
            descriptor.Fault (before.map (·.key)) error) ∧
    ∀ bindings, ofDescriptor description = .ok bindings →
      bindings.entrypoints.map (·.1) = description.entrypoints.map (·.key) ∧
      bindings.titles.map (·.1) = description.entrypoints.map (·.key) ∧
      bindings.methods.map (·.1) = description.entrypoints.map (·.key) ∧
      ∀ e ∈ description.entrypoints,
        (bindings.entrypoints.lookup e.key).map (·.text) = some e.entrypoint ∧
        bindings.title? e.key = some e.title ∧
        ∃ method, bindings.method? e.key = some method ∧
          method.contract.text = description.name ∧ method.entrypoint.text = e.entrypoint ∧
          method.request = e.request ∧ method.response = e.response ∧ method.error = e.error := by
  refine ⟨exists_ofDescriptor_iff, fun _ => ofDescriptor_eq_error_iff, fun bindings h => ?_⟩
  obtain ⟨hcontract, hdescribes, distinct⟩ := entries_of_ofDescriptor h
  have hkeys := keys_of_describes hdescribes
  refine ⟨?_, ?_, ?_, fun e he => ?_⟩
  · rw [← hkeys, ContractBindings.entrypoints, List.map_map]
    rfl
  · rw [← hkeys, titles, List.map_map]
    rfl
  · rw [← hkeys, methods, List.map_map]
    rfl
  · obtain ⟨before, after, hsplit⟩ := List.append_of_mem he
    rw [hsplit] at hdescribes
    obtain ⟨before', entry, after', hentries, -, ⟨name, hname, rfl⟩, -⟩ :=
      exists_append_of_forall₂ hdescribes
    have hmem : e.entry bindings.contract name ∈ bindings.entries := by
      rw [hentries]
      exact List.mem_append_right _ (List.mem_cons_self ..)
    have htext : name.text = e.entrypoint := EntrypointName.ofString_eq_ok_iff.mp hname
    refine ⟨?_, ?_, ?_⟩
    · rw [← htext]
      exact congrArg (Option.map (·.text))
        (lookup_key distinct (fun entry => entry.method.entrypoint) hmem)
    · exact lookup_key distinct (·.title) hmem
    · refine ⟨_, lookup_key distinct (·.method) hmem, ?_⟩
      exact ⟨hcontract, htext, rfl, rfl, rfl⟩

end Descriptor

/-- A description with the fallback entrypoint, in which the last key is the first again. -/
def repeating : ContractDescriptor where
  name := "sample"
  moduleRef := none
  init := none
  events := none
  entrypoints := [⟨"a", "b", "A", none, none, none⟩, ⟨"b", "", "B", none, none, none⟩,
    ⟨"a", "c", "C", none, none, none⟩]

/-- Without its last entrypoint the description makes bindings. -/
theorem ofDescriptor_outcome_repeating :
    ofDescriptor repeating = .error (.repeatedKey "a") ∧
      ∃ bindings, ofDescriptor { repeating with entrypoints := repeating.entrypoints.take 2 } =
          .ok bindings ∧
        bindings.methods.map (·.1) = ["a", "b"] ∧ bindings.title? "b" = some "B" := by
  have hsample : ContractName.IsValid "sample" :=
    ⟨by decide, by decide, List.all_eq_true.mp (by decide), by decide⟩
  have hb : EntrypointName.IsValid "b" := ⟨by decide, List.all_eq_true.mp (by decide)⟩
  have hc : EntrypointName.IsValid "c" := ⟨by decide, List.all_eq_true.mp (by decide)⟩
  have hfallback : EntrypointName.IsValid "" := ⟨by decide, List.all_eq_true.mp (by decide)⟩
  have hbefore : AllFaultless (repeating.entrypoints.take 2) :=
    ⟨by simp [repeating, hb, hfallback], by decide⟩
  constructor
  · refine ((ofDescriptor_outcome repeating).2.1 _).mpr (Or.inr ⟨hsample, ?_⟩)
    exact ⟨_, _, [], rfl, hbefore, .repeatedKey (by decide) hc (by decide)⟩
  · obtain ⟨bindings, hbindings⟩ := (ofDescriptor_outcome
      { repeating with entrypoints := repeating.entrypoints.take 2 }).1.mpr ⟨hsample, hbefore⟩
    obtain ⟨-, -, hmethods, hentries⟩ := (ofDescriptor_outcome _).2.2 bindings hbindings
    obtain ⟨-, htitle, -⟩ := hentries _ (List.mem_cons_of_mem _ (List.mem_cons_self ..))
    exact ⟨bindings, hbindings, hmethods, htitle⟩

end ContractBindings

end ContractSchema
