import ContractSchema.Proofs.Descriptor

/-!
# What texts resolve to

The same text may be the key of one entrypoint and the name on chain of several others. What
it resolves to is settled by the description alone: the entrypoint with that key, or else the
first one with that name, or nothing
(`ContractSchema.ContractBindings.resolve?_outcome`). So all names lead back to their
entrypoints exactly if no two entrypoints share a name and no name is the key of another
entrypoint (`ContractSchema.ContractBindings.forall_resolve?_name_iff`).

All of this is proved of the entrypoints in the bindings first. These are related one by one
to the descriptions they are made from, and so is what is found
(`ContractSchema.ContractBindings.Describes.finds_iff`).
-/

namespace ContractSchema

namespace ContractBindings

variable {bindings : ContractBindings} {text : String}

/-! ### Entrypoints in bindings -/

/-- **Nothing is found** under a text that is neither a key nor a name on chain. -/
theorem resolve?_eq_none_iff :
    bindings.resolve? text = none ↔ ∀ entry ∈ bindings.entries,
      entry.key ≠ text ∧ entry.method.entrypoint.text ≠ text := by
  rcases hmethod : bindings.method? text with _ | method
  · have hkeys := method?_eq_none_iff.mp hmethod
    rw [resolve?_of_forall_key_ne hkeys, Option.map_eq_none_iff, List.find?_eq_none]
    constructor
    · exact fun h entry hentry => ⟨hkeys entry hentry, by simpa using h entry hentry⟩
    · exact fun h entry hentry => by simpa using (h entry hentry).2
  · rw [resolve?, hmethod]
    refine iff_of_false (Option.some_ne_none _) fun h => ?_
    have hnone := method?_eq_none_iff.mpr fun entry hentry => (h entry hentry).1
    exact Option.some_ne_none method (hmethod.symm.trans hnone)

section Distinct

variable (distinct : (bindings.entries.map (·.key)).Nodup)

include distinct in
/-- A text which is no key finds the entrypoint of that name before which there is none. -/
theorem resolve?_first_name {entry : Entrypoint} {before after : List Entrypoint}
    (hentries : bindings.entries = before ++ entry :: after)
    (hkeys : ∀ other ∈ bindings.entries, other.key ≠ text)
    (hname : entry.method.entrypoint.text = text)
    (hbefore : ∀ other ∈ before, other.method.entrypoint.text ≠ text) :
    bindings.resolve? text = some (entry.key, entry.method) := by
  rw [resolve?_of_forall_key_ne hkeys, hentries]
  exact (find?_name_eq_some_iff (hentries ▸ distinct) hname).mpr hbefore

include distinct in
/-- **All names lead back** to their entrypoints if and only if they are different from each
other, and none of them is the key of another entrypoint. -/
theorem forall_resolve?_name_iff :
    (∀ entry ∈ bindings.entries,
        bindings.resolve? entry.method.entrypoint.text = some (entry.key, entry.method)) ↔
      (bindings.entries.map (·.method.entrypoint.text)).Nodup ∧
        ∀ entry ∈ bindings.entries, ∀ other ∈ bindings.entries,
          entry.method.entrypoint.text = other.key → entry.key = other.key := by
  have hsame := List.inj_on_of_nodup_map distinct
  constructor
  · intro h
    refine ⟨List.Nodup.map_on (fun entry hentry other hother heq => ?_) distinct.of_map,
      fun entry hentry other hother heq => ?_⟩
    · have hboth := (h entry hentry).symm.trans ((congrArg bindings.resolve? heq).trans
        (h other hother))
      exact hsame hentry hother (congrArg Prod.fst (Option.some.inj hboth))
    · have hentry := h entry hentry
      rw [heq, resolve?_key distinct hother] at hentry
      exact (congrArg Prod.fst (Option.some.inj hentry)).symm
  · rintro ⟨hnames, hown⟩ entry hentry
    by_cases hkey : ∃ other ∈ bindings.entries, other.key = entry.method.entrypoint.text
    · obtain ⟨other, hother, hkey⟩ := hkey
      obtain rfl := hsame hentry hother (hown entry hentry other hother hkey.symm)
      rw [← hkey]
      exact resolve?_key distinct hentry
    · obtain ⟨before, after, hentries⟩ := List.append_of_mem hentry
      refine resolve?_first_name distinct hentries
        (fun other hother heq => hkey ⟨other, hother, heq⟩) rfl fun other hother heq => ?_
      rw [hentries, List.map_append, List.map_cons] at hnames
      exact (List.nodup_append.mp hnames).2.2 _ (List.mem_map.mpr ⟨other, hother, rfl⟩) _
        (List.mem_cons_self ..) heq

end Distinct

/-! ### Entrypoints of a description -/

/-- A text finds the described entrypoint: its key with the method that is made from it. -/
def Finds (bindings : ContractBindings) (text : String) (descriptor : EntrypointDescriptor) :
    Prop :=
  ∃ entry, Describes bindings.contract descriptor entry ∧
    bindings.resolve? text = some (entry.key, entry.method)

theorem Describes.unique {contract : ContractName} {descriptor : EntrypointDescriptor}
    {entry entry' : Entrypoint} (h : Describes contract descriptor entry)
    (h' : Describes contract descriptor entry') : entry = entry' := by
  obtain ⟨name, hname, rfl⟩ := h
  obtain ⟨name', hname', rfl⟩ := h'
  obtain rfl := Except.ok.inj (hname.symm.trans hname')
  rfl

theorem Describes.finds_iff {descriptor : EntrypointDescriptor} {entry : Entrypoint}
    (h : Describes bindings.contract descriptor entry) :
    bindings.Finds text descriptor ↔ bindings.resolve? text = some (entry.key, entry.method) := by
  constructor
  · rintro ⟨other, hother, hfound⟩
    obtain rfl := h.unique hother
    exact hfound
  · exact fun hfound => ⟨entry, h, hfound⟩

theorem names_of_describes {contract : ContractName} {descriptors : List EntrypointDescriptor}
    {entries : List Entrypoint} (h : List.Forall₂ (Describes contract) descriptors entries) :
    entries.map (·.method.entrypoint.text) = descriptors.map (·.entrypoint) := by
  induction h with
  | nil => rfl
  | cons hdescribes _ ih => rw [List.map_cons, List.map_cons, hdescribes.name, ih]

theorem Finds.map_fst {descriptor : EntrypointDescriptor} (h : bindings.Finds text descriptor) :
    (bindings.resolve? text).map Prod.fst = some descriptor.key := by
  obtain ⟨entry, hentry, hfound⟩ := h
  rw [hfound, Option.map_some, hentry.key]

section Descriptor

variable {descriptor : ContractDescriptor} (h : ofDescriptor descriptor = .ok bindings)

include h in
/-- A text which is no key finds the first description with that name. -/
theorem finds_first {before after : List EntrypointDescriptor} {e : EntrypointDescriptor}
    (hsplit : descriptor.entrypoints = before ++ e :: after)
    (hkeys : ∀ other ∈ descriptor.entrypoints, other.key ≠ text) (hname : e.entrypoint = text)
    (hbefore : ∀ other ∈ before, other.entrypoint ≠ text) : bindings.Finds text e := by
  obtain ⟨-, hdescribes, distinct⟩ := entries_of_ofDescriptor h
  have hkeys' : ∀ other ∈ bindings.entries, other.key ≠ text :=
    (forall_mem_iff_of_forall₂ hdescribes fun _ _ hd => by rw [hd.key]).mpr hkeys
  rw [hsplit] at hdescribes
  obtain ⟨before', entry, after', hentries, hbefore', hentry, -⟩ :=
    exists_append_of_forall₂ hdescribes
  have hnames : ∀ other ∈ before', other.method.entrypoint.text ≠ text :=
    (forall_mem_iff_of_forall₂ hbefore' fun _ _ hd => by rw [hd.name]).mpr hbefore
  exact hentry.finds_iff.mpr
    (resolve?_first_name distinct hentries hkeys' (hentry.name.trans hname) hnames)

include h in
theorem forall_finds_name_iff :
    (∀ e ∈ descriptor.entrypoints, bindings.Finds e.entrypoint e) ↔
      (descriptor.entrypoints.map (·.entrypoint)).Nodup ∧
        ∀ e ∈ descriptor.entrypoints, ∀ other ∈ descriptor.entrypoints,
          e.entrypoint = other.key → e.key = other.key := by
  obtain ⟨-, hdescribes, distinct⟩ := entries_of_ofDescriptor h
  have hfinds : (∀ entry ∈ bindings.entries,
      bindings.resolve? entry.method.entrypoint.text = some (entry.key, entry.method)) ↔
        ∀ e ∈ descriptor.entrypoints, bindings.Finds e.entrypoint e :=
    forall_mem_iff_of_forall₂ hdescribes fun e entry hd => by rw [hd.finds_iff, hd.name]
  have hown : (∀ entry ∈ bindings.entries, ∀ other ∈ bindings.entries,
      entry.method.entrypoint.text = other.key → entry.key = other.key) ↔
        ∀ e ∈ descriptor.entrypoints, ∀ other ∈ descriptor.entrypoints,
          e.entrypoint = other.key → e.key = other.key :=
    forall_mem_iff_of_forall₂ hdescribes fun e entry hd =>
      forall_mem_iff_of_forall₂ hdescribes fun e' entry' hd' => by
        rw [hd.name, hd.key, hd'.key]
  rw [← hfinds, ← hown, ← names_of_describes hdescribes]
  exact forall_resolve?_name_iff distinct

end Descriptor

/-- **What a text resolves to**, in bindings made from a description. A key finds its
entrypoint, whatever the names on chain are. Any other text finds the first entrypoint of
that name, and so does the empty text, which is the name of the fallback entrypoint and
never a key. All names lead back to their entrypoints if and only if they are different from
each other and none is the key of another entrypoint. Nothing is found exactly under what is
neither a key nor a name. -/
theorem resolve?_outcome {descriptor : ContractDescriptor} {bindings : ContractBindings}
    (h : ofDescriptor descriptor = .ok bindings) :
    (∀ e ∈ descriptor.entrypoints, bindings.Finds e.key e) ∧
    (∀ text, (∀ e ∈ descriptor.entrypoints, e.key ≠ text) →
      (∀ before e after, descriptor.entrypoints = before ++ e :: after → e.entrypoint = text →
        (∀ other ∈ before, other.entrypoint ≠ text) → bindings.Finds text e) ∧
      ((∀ e ∈ descriptor.entrypoints, e.entrypoint ≠ text) →
        bindings.resolve? text = none)) ∧
    (∀ before e after, descriptor.entrypoints = before ++ e :: after → e.entrypoint = "" →
      (∀ other ∈ before, other.entrypoint ≠ "") → bindings.Finds "" e) ∧
    ((∀ e ∈ descriptor.entrypoints, bindings.Finds e.entrypoint e) ↔
      (descriptor.entrypoints.map (·.entrypoint)).Nodup ∧
        ∀ e ∈ descriptor.entrypoints, ∀ other ∈ descriptor.entrypoints,
          e.entrypoint = other.key → e.key = other.key) ∧
    ∀ text, bindings.resolve? text = none ↔
      ∀ e ∈ descriptor.entrypoints, e.key ≠ text ∧ e.entrypoint ≠ text := by
  obtain ⟨-, hdescribes, distinct⟩ := entries_of_ofDescriptor h
  have hnone : ∀ text, bindings.resolve? text = none ↔
      ∀ e ∈ descriptor.entrypoints, e.key ≠ text ∧ e.entrypoint ≠ text := fun text =>
    resolve?_eq_none_iff.trans
      (forall_mem_iff_of_forall₂ hdescribes fun _ _ hd => by rw [hd.key, hd.name])
  have hkey : ∀ e ∈ descriptor.entrypoints, bindings.Finds e.key e := by
    refine (forall_mem_iff_of_forall₂ hdescribes fun e entry hd => ?_).mp
      fun entry hentry => resolve?_key distinct hentry
    rw [hd.finds_iff, hd.key]
  have hnonempty : ∀ e ∈ descriptor.entrypoints, e.key ≠ "" := fun e he =>
    ((exists_ofDescriptor_iff.mp ⟨bindings, h⟩).2.1 e he).1
  refine ⟨hkey, fun text hkeys => ⟨fun before e after hsplit => finds_first h hsplit hkeys,
    fun hnames => (hnone text).mpr fun e he => ⟨hkeys e he, hnames e he⟩⟩,
    fun before e after hsplit => finds_first h hsplit hnonempty, forall_finds_name_iff h, hnone⟩

/-- A description in which a name is the key of another entrypoint, another name is there
twice, and there is a fallback entrypoint. -/
def tangled : ContractDescriptor where
  name := "sample"
  moduleRef := none
  init := none
  events := none
  entrypoints := [⟨"a", "c", "A", none, none, none⟩, ⟨"b", "", "B", none, none, none⟩,
    ⟨"c", "d", "C", none, none, none⟩, ⟨"e", "d", "E", none, none, none⟩]

theorem resolve?_outcome_tangled :
    ∃ bindings, ofDescriptor tangled = .ok bindings ∧
      (bindings.resolve? "c").map Prod.fst = some "c" ∧
      (bindings.resolve? "d").map Prod.fst = some "c" ∧
      (bindings.resolve? "").map Prod.fst = some "b" ∧ bindings.resolve? "x" = none ∧
      ¬∀ e ∈ tangled.entrypoints, bindings.Finds e.entrypoint e := by
  refine ⟨_, rfl, ?_⟩
  obtain ⟨hkey, hother, hfallback, hback, hnone⟩ := @resolve?_outcome tangled _ rfl
  refine ⟨?_, ?_, ?_, ?_, ?_⟩
  · exact (hkey ⟨"c", "d", "C", none, none, none⟩ (by simp [tangled])).map_fst
  · have hkeys : ∀ e ∈ tangled.entrypoints, e.key ≠ "d" := by simp [tangled]
    exact ((hother "d" hkeys).1 (tangled.entrypoints.take 2) _ _ rfl rfl
      (by simp [tangled])).map_fst
  · exact (hfallback (tangled.entrypoints.take 1) _ _ rfl rfl (by simp [tangled])).map_fst
  · exact (hnone "x").mpr (by simp [tangled])
  · exact fun h => absurd (hback.mp h).1 (by simp [tangled])

end ContractBindings

end ContractSchema
