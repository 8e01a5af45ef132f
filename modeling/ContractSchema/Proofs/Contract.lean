import ContractSchema.Contract
import ContractSchema.Proofs.Lists
import ContractSchema.Proofs.Steps

/-!
# Finding entrypoints

Bindings made from a description have the entrypoints of the description, in the same
order and under different keys (`ContractSchema.ContractBindings.entries_of_ofDescriptor`).
An entrypoint is found by its key in any case
(`ContractSchema.ContractBindings.resolve?_key`). By its name on chain it is only found if
nothing gets in the way: keys go first, and so do entrypoints which come first
(`ContractSchema.ContractBindings.resolve?_name_eq_iff`). A description may well give one
entrypoint the key and another one the same text as its name
(`ContractSchema.ContractBindings.not_forall_resolve_entrypoint`).
-/

namespace ContractSchema

/-! ### Names -/

theorem EntrypointName.ofString_eq_ok_iff {text : String} {name : EntrypointName} :
    ofString text = .ok name ↔ name.text = text := by
  constructor
  · intro h
    rw [ofString] at h
    split at h
    · exact absurd h (by simp)
    · split at h
      · exact absurd h (by simp)
      · obtain rfl := Except.ok.inj h
        rfl
  · rintro rfl
    rw [ofString, dif_neg (Nat.not_lt.mpr name.isValid.1)]
    split
    · next c hc =>
      have hallowed := name.isValid.2 c (List.mem_of_find?_eq_some hc)
      have hrefused := List.find?_some hc
      simp [hallowed] at hrefused
    · rfl

theorem ContractName.ofString_eq_ok_iff {text : String} {name : ContractName} :
    ofString text = .ok name ↔ name.text = text := by
  constructor
  · intro h
    rw [ofString] at h
    split at h
    · exact absurd h (by simp)
    · split at h
      · exact absurd h (by simp)
      · split at h
        · exact absurd h (by simp)
        · split at h
          · exact absurd h (by simp)
          · obtain rfl := Except.ok.inj h
            rfl
  · rintro rfl
    obtain ⟨hne, hlength, hchars, hdot⟩ := name.isValid
    rw [ofString, dif_neg hne, dif_neg (Nat.not_lt.mpr hlength)]
    split
    · next c hc =>
      have hallowed := hchars c (List.mem_of_find?_eq_some hc)
      have hrefused := List.find?_some hc
      simp [hallowed] at hrefused
    · rw [dif_neg hdot]

theorem EntrypointName.exists_ofString_eq_ok_iff {text : String} :
    (∃ name, ofString text = .ok name) ↔ IsValid text := by
  constructor
  · rintro ⟨name, h⟩
    obtain rfl := ofString_eq_ok_iff.mp h
    exact name.isValid
  · exact fun h => ⟨⟨text, h⟩, ofString_eq_ok_iff.mpr rfl⟩

theorem ContractName.exists_ofString_eq_ok_iff {text : String} :
    (∃ name, ofString text = .ok name) ↔ IsValid text := by
  constructor
  · rintro ⟨name, h⟩
    obtain rfl := ofString_eq_ok_iff.mp h
    exact name.isValid
  · exact fun h => ⟨⟨text, h⟩, ofString_eq_ok_iff.mpr rfl⟩

namespace ContractBindings

/-! ### Entrypoints of a description -/

/-- An entrypoint is the described one. -/
def Describes (contract : ContractName) (descriptor : EntrypointDescriptor)
    (entry : Entrypoint) : Prop :=
  ∃ name, EntrypointName.ofString descriptor.entrypoint = .ok name ∧
    entry = descriptor.entry contract name

theorem Describes.key {contract : ContractName} {descriptor : EntrypointDescriptor}
    {entry : Entrypoint} (h : Describes contract descriptor entry) :
    entry.key = descriptor.key := by
  obtain ⟨name, -, rfl⟩ := h
  rfl

theorem Describes.name {contract : ContractName} {descriptor : EntrypointDescriptor}
    {entry : Entrypoint} (h : Describes contract descriptor entry) :
    entry.method.entrypoint.text = descriptor.entrypoint := by
  obtain ⟨name, hname, rfl⟩ := h
  exact EntrypointName.ofString_eq_ok_iff.mp hname

theorem entriesOf_eq_ok {contract : ContractName} {seen : List String}
    {descriptors : List EntrypointDescriptor} {entries : List Entrypoint}
    (h : entriesOf contract seen descriptors = .ok entries) :
    List.Forall₂ (Describes contract) descriptors entries ∧
      (entries.map (·.key)).Nodup ∧ ∀ entry ∈ entries, entry.key ∉ seen := by
  -- on the descriptions to come, for all keys seen before them
  induction descriptors generalizing seen entries with
  | nil =>
    obtain rfl := Except.ok.inj h
    exact ⟨.nil, List.nodup_nil, fun entry hentry => absurd hentry List.not_mem_nil⟩
  | cons descriptor descriptors ih =>
    rw [entriesOf] at h
    split at h
    · exact absurd h (by simp)
    · split at h
      · exact absurd h (by simp)
      · next name hname =>
        split at h
        · exact absurd h (by simp)
        · next hunseen =>
          obtain ⟨others, hothers, h⟩ := except_bind_eq_ok.mp h
          obtain rfl := Except.ok.inj h
          obtain ⟨hdescribes, hdistinct, hnew⟩ := ih hothers
          refine ⟨.cons ⟨name, hname, rfl⟩ hdescribes, List.nodup_cons.mpr ⟨?_, hdistinct⟩, ?_⟩
          · intro hmem
            obtain ⟨other, hother, hkey⟩ := List.mem_map.mp hmem
            exact hnew other hother (hkey ▸ List.mem_cons_self ..)
          · refine List.forall_mem_cons.mpr ⟨hunseen, fun other hother hseen => ?_⟩
            exact hnew other hother (List.mem_cons_of_mem _ hseen)

/-- **Bindings have the described entrypoints**, in their order and under different keys. -/
theorem entries_of_ofDescriptor {descriptor : ContractDescriptor} {bindings : ContractBindings}
    (h : ofDescriptor descriptor = .ok bindings) :
    bindings.contract.text = descriptor.name ∧
      List.Forall₂ (Describes bindings.contract) descriptor.entrypoints bindings.entries ∧
        (bindings.entries.map (·.key)).Nodup := by
  rw [ofDescriptor] at h
  split at h
  · exact absurd h (by simp)
  · next contract hcontract =>
    obtain ⟨entries, hentries, h⟩ := except_bind_eq_ok.mp h
    obtain rfl := Except.ok.inj h
    obtain ⟨hdescribes, hdistinct, -⟩ := entriesOf_eq_ok hentries
    exact ⟨ContractName.ofString_eq_ok_iff.mp hcontract, hdescribes, hdistinct⟩

/-! ### Looking up -/

section Lookup

variable {bindings : ContractBindings} (distinct : (bindings.entries.map (·.key)).Nodup)

include distinct in
theorem method?_eq_some_iff {key : String} {method : ReceiveMethod} :
    bindings.method? key = some method ↔
      ∃ entry ∈ bindings.entries, entry.key = key ∧ entry.method = method := by
  have hmethods : (bindings.methods.map (·.1)).Nodup := by
    rw [methods, List.map_map]
    exact distinct
  rw [method?, lookup_eq_some_iff_mem hmethods, methods, List.mem_map]
  simp only [Prod.mk.injEq]

theorem method?_eq_none_iff {key : String} :
    bindings.method? key = none ↔ ∀ entry ∈ bindings.entries, entry.key ≠ key := by
  rw [method?, List.lookup_eq_none_iff, methods, List.forall_mem_map]
  simp only [bne_iff_ne, ne_comm]

include distinct in
/-- **A key finds its entrypoint.** -/
theorem resolve?_key {entry : Entrypoint} (h : entry ∈ bindings.entries) :
    bindings.resolve? entry.key = some (entry.key, entry.method) := by
  have hmethod := (method?_eq_some_iff distinct).mpr ⟨entry, h, rfl, rfl⟩
  rw [resolve?, hmethod]

/-- A text which is no key finds the first entrypoint of that name. -/
theorem resolve?_of_forall_key_ne {text : String}
    (h : ∀ entry ∈ bindings.entries, entry.key ≠ text) :
    bindings.resolve? text =
      (bindings.entries.find? fun entry => entry.method.entrypoint.text = text).map
        fun entry => (entry.key, entry.method) := by
  rw [resolve?, method?_eq_none_iff.mpr h, methods, List.find?_map]
  rfl

include distinct in
/-- Every name on chain finds some entrypoint. -/
theorem isSome_resolve?_name {entry : Entrypoint} (h : entry ∈ bindings.entries) :
    (bindings.resolve? entry.method.entrypoint.text).isSome := by
  by_cases hkey : ∃ other ∈ bindings.entries, other.key = entry.method.entrypoint.text
  · obtain ⟨other, hother, hkey⟩ := hkey
    rw [← hkey, resolve?_key distinct hother]
    rfl
  · have hnone : ∀ other ∈ bindings.entries, other.key ≠ entry.method.entrypoint.text :=
      fun other hother heq => hkey ⟨other, hother, heq⟩
    rw [resolve?_of_forall_key_ne hnone, Option.isSome_map, List.find?_isSome]
    exact ⟨entry, h, decide_eq_true rfl⟩

/-- The first entrypoint of a name is a given one if none before has the name. -/
theorem find?_name_eq_some_iff {entry : Entrypoint} {before after : List Entrypoint}
    (distinct : ((before ++ entry :: after).map (·.key)).Nodup) {name : String}
    (hname : entry.method.entrypoint.text = name) :
    ((before ++ entry :: after).find? fun other => other.method.entrypoint.text = name).map
        (fun other => (other.key, other.method)) = some (entry.key, entry.method) ↔
      ∀ other ∈ before, other.method.entrypoint.text ≠ name := by
  have hentry : (entry :: after).find? (fun other => other.method.entrypoint.text = name) =
      some entry := List.find?_cons_of_pos (decide_eq_true hname)
  rw [List.find?_append, hentry]
  rcases hfirst : before.find? fun other => other.method.entrypoint.text = name with _ | first
  · have hbefore := List.find?_eq_none.mp hfirst
    rw [hfirst]
    refine iff_of_true rfl fun other hother heq => ?_
    exact hbefore other hother (decide_eq_true heq)
  · have hmem := List.mem_of_find?_eq_some hfirst
    have hfirstname : first.method.entrypoint.text = name := by
      simpa using List.find?_some hfirst
    rw [hfirst]
    -- the two entrypoints have different keys
    refine iff_of_false ?_ fun hbefore => hbefore first hmem hfirstname
    intro heq
    have hkeys : first.key = entry.key := congrArg Prod.fst (Option.some.inj heq)
    rw [List.map_append, List.map_cons] at distinct
    exact (List.nodup_append.mp distinct).2.2 first.key (List.mem_map.mpr ⟨first, hmem, rfl⟩)
      entry.key (List.mem_cons_self ..) hkeys

include distinct in
/-- **A name on chain finds its entrypoint** if it is the key of the entrypoint, or if it is
the key of none and no entrypoint before has the same name. -/
theorem resolve?_name_eq_iff {entry : Entrypoint} {before after : List Entrypoint}
    (hentries : bindings.entries = before ++ entry :: after) :
    bindings.resolve? entry.method.entrypoint.text = some (entry.key, entry.method) ↔
      entry.key = entry.method.entrypoint.text ∨
        (∀ other ∈ bindings.entries, other.key ≠ entry.method.entrypoint.text) ∧
          ∀ other ∈ before, other.method.entrypoint.text ≠ entry.method.entrypoint.text := by
  have hmem : entry ∈ bindings.entries := by
    rw [hentries]
    exact List.mem_append_right _ (List.mem_cons_self ..)
  generalize hname : entry.method.entrypoint.text = name
  by_cases hown : entry.key = name
  · rw [← hown]
    exact iff_of_true (resolve?_key distinct hmem) (Or.inl rfl)
  -- a key goes first, so that the name of another entrypoint does not count
  by_cases hkey : ∃ other ∈ bindings.entries, other.key = name
  · obtain ⟨other, hother, hkey⟩ := hkey
    refine iff_of_false ?_ ?_
    · rw [← hkey, resolve?_key distinct hother]
      intro heq
      exact hown ((congrArg Prod.fst (Option.some.inj heq)).symm.trans hkey)
    · rintro (heq | ⟨hnone, -⟩)
      · exact hown heq
      · exact hnone other hother hkey
  · have hnone : ∀ other ∈ bindings.entries, other.key ≠ name :=
      fun other hother heq => hkey ⟨other, hother, heq⟩
    rw [resolve?_of_forall_key_ne hnone, or_iff_right hown, and_iff_right hnone, hentries]
    exact find?_name_eq_some_iff (hentries ▸ distinct) hname

end Lookup

/-! ### Names of a description -/

/-- **Which names on chain lead back**: in bindings made from a description every name of an
entrypoint finds some entrypoint, and it finds the entrypoint it is from exactly if it is
the key of this one, or if it is the key of none and no entrypoint before has the same
name. -/
theorem resolve_entrypoint_eq_iff {descriptor : ContractDescriptor}
    {bindings : ContractBindings} (h : ofDescriptor descriptor = .ok bindings)
    {before after : List EntrypointDescriptor} {e : EntrypointDescriptor}
    (he : descriptor.entrypoints = before ++ e :: after) :
    (bindings.resolve? e.entrypoint).isSome ∧
      ∃ name, EntrypointName.ofString e.entrypoint = .ok name ∧
        (bindings.resolve? e.entrypoint =
            some (e.key, (e.entry bindings.contract name).method) ↔
          e.key = e.entrypoint ∨
            (∀ other ∈ descriptor.entrypoints, other.key ≠ e.entrypoint) ∧
              ∀ other ∈ before, other.entrypoint ≠ e.entrypoint) := by
  obtain ⟨-, hdescribes, distinct⟩ := entries_of_ofDescriptor h
  have hsplit := hdescribes
  rw [he] at hsplit
  obtain ⟨before', entry, after', hentries, hbefore, ⟨name, hname, rfl⟩, -⟩ :=
    exists_append_of_forall₂ hsplit
  have htext : name.text = e.entrypoint := EntrypointName.ofString_eq_ok_iff.mp hname
  have hkeys : (∀ other ∈ bindings.entries, other.key ≠ e.entrypoint) ↔
      ∀ other ∈ descriptor.entrypoints, other.key ≠ e.entrypoint :=
    forall_mem_iff_of_forall₂ hdescribes fun _ _ hd => by rw [hd.key]
  have hnames : (∀ other ∈ before', other.method.entrypoint.text ≠ e.entrypoint) ↔
      ∀ other ∈ before, other.entrypoint ≠ e.entrypoint :=
    forall_mem_iff_of_forall₂ hbefore fun _ _ hd => by rw [hd.name]
  have hmem : e.entry bindings.contract name ∈ bindings.entries := by
    rw [hentries]
    exact List.mem_append_right _ (List.mem_cons_self ..)
  have hsome : (bindings.resolve? name.text).isSome := isSome_resolve?_name distinct hmem
  have hiff : bindings.resolve? name.text =
      some (e.key, (e.entry bindings.contract name).method) ↔
        e.key = name.text ∨ (∀ other ∈ bindings.entries, other.key ≠ name.text) ∧
          ∀ other ∈ before', other.method.entrypoint.text ≠ name.text :=
    resolve?_name_eq_iff distinct hentries
  rw [htext] at hsome
  rw [htext, hkeys, hnames] at hiff
  exact ⟨hsome, name, hname, hiff⟩

/-- A description in which the name of one entrypoint is the key of another one. -/
def crossed : ContractDescriptor where
  name := "sample"
  moduleRef := none
  init := none
  events := none
  entrypoints := [⟨"a", "b", "A", none, none, none⟩, ⟨"b", "c", "B", none, none, none⟩]

/-- The other entrypoint is found by its name. -/
theorem resolve_entrypoint_crossed :
    ∃ bindings, ofDescriptor crossed = .ok bindings ∧
      (bindings.resolve? "c").map Prod.fst = some "b" := by
  have he : crossed.entrypoints = [⟨"a", "b", "A", none, none, none⟩] ++
      ⟨"b", "c", "B", none, none, none⟩ :: [] := rfl
  obtain ⟨-, name, -, hiff⟩ := resolve_entrypoint_eq_iff rfl he
  have hkeys : ∀ other ∈ crossed.entrypoints, other.key ≠ "c" := by
    rw [he]
    simp
  have hfound := hiff.mpr (Or.inr ⟨hkeys, by simp⟩)
  exact ⟨_, rfl, congrArg (Option.map Prod.fst) hfound⟩

/-- **Names on chain do not always lead back** to their entrypoints. -/
theorem not_forall_resolve_entrypoint :
    ¬ ∀ descriptor bindings, ofDescriptor descriptor = .ok bindings →
      ∀ e ∈ descriptor.entrypoints, ∃ name, EntrypointName.ofString e.entrypoint = .ok name ∧
        bindings.resolve? e.entrypoint =
          some (e.key, (e.entry bindings.contract name).method) := by
  intro h
  obtain ⟨name, -, hresolve⟩ := h crossed _ rfl _ (List.mem_cons_self ..)
  have hkey : some "b" = some "a" := congrArg (Option.map Prod.fst) hresolve
  exact absurd hkey (by decide)

end ContractBindings

end ContractSchema
