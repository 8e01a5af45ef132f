import ContractSchema.Proofs.Schema.Reading
import Mathlib.Data.List.Perm.Basic

/-!
# The order of variants

The only thing about the bytes of a type that the type does not remember is the order in
which the variants of its tagged enums are listed. To say so, one needs to speak about a
tagged enum somewhere inside the bytes of a type. Such a **place** is made of the bytes
before it and those after it, and what tells a place from any other cut is that all types
fit in: whatever type's bytes are put there, the whole is the bytes of a type, which
depends on the one put there only (`ContractSchema.PlaceFor`).

* `ContractSchema.Reordered` – the variants of one tagged enum are listed in another order;
* `ContractSchema.Encodes.iff_reordered` – two byte strings stand for the same type exactly
  if they become each other by such steps.

One direction is that a step does not change the type. In the other one, the bytes of
a type are exchanged part by part (`ContractSchema.Interchangeable`).
-/

namespace ContractSchema

variable {α β : Type}

/-! ### Places and steps -/

/-- **A place for something** in the bytes of a type: what is put there only matters for what
it stands for. -/
def PlaceFor (L : Language α) (before after : List UInt8) : Prop :=
  ∃ whole : α → SchemaType, ∀ bytes a, L bytes a → Encodes (before ++ bytes ++ after) (whole a)

/-- The bytes of a variant with its tag. -/
abbrev VariantForm : Language (UInt8 × String × Fields) :=
  TaggedForm (NamedForm (FieldsForm Encodes))

/-- The bytes of a tagged enum, given those of its variants. -/
def taggedEnumBytes (parts : List (List UInt8)) : List UInt8 :=
  0x1f :: (littleEndianBytes 4 parts.length ++ parts.flatten)

/-- **One tagged enum lists its variants in another order**, and all other bytes stay. -/
inductive Reordered : List UInt8 → List UInt8 → Prop
  /-- The tagged enum stands at some place, and its variants are rearranged. -/
  | mk {before after : List UInt8} {parts parts' : List (List UInt8)}
      {variants : List (UInt8 × String × Fields)} (place : PlaceFor Encodes before after)
      (fits : variants.length < 2 ^ 32) (h : List.Forall₂ VariantForm parts variants)
      (distinct : (variants.map (·.1)).Nodup) (perm : parts.Perm parts') :
      Reordered (before ++ taggedEnumBytes parts ++ after)
        (before ++ taggedEnumBytes parts' ++ after)

theorem encodes_taggedEnumBytes {parts : List (List UInt8)}
    {variants : List (UInt8 × String × Fields)} (fits : variants.length < 2 ^ 32)
    (h : List.Forall₂ VariantForm parts variants) (distinct : (variants.map (·.1)).Nodup) :
    Encodes (taggedEnumBytes parts) (.taggedEnum fun tag => variants.lookup tag) := by
  rw [taggedEnumBytes, h.length_eq]
  exact .mk (.taggedEnum (.mk fits h) distinct)

/-- **A step does not change the type.** -/
theorem Reordered.encodes {bytes bytes' : List UInt8} (h : Reordered bytes bytes')
    {type : SchemaType} (henc : Encodes bytes type) : Encodes bytes' type := by
  obtain ⟨⟨whole, hwhole⟩, fits, hparts, distinct, perm⟩ := h
  rename_i parts parts' variants
  -- the variants are rearranged together with their bytes, and looked up as before
  obtain ⟨variants', hparts', hvariants⟩ := List.perm_comp_forall₂ perm.symm hparts
  have distinct' : (variants'.map (·.1)).Nodup := (hvariants.map _).nodup_iff.mpr distinct
  have hlookup := funext (lookup_eq_of_perm hvariants distinct')
  have hbefore := hwhole _ _ (encodes_taggedEnumBytes fits hparts distinct)
  have hafter := hwhole _ _
    (encodes_taggedEnumBytes (hvariants.length_eq ▸ fits) hparts' distinct')
  rw [hlookup] at hafter
  rwa [henc.unique hbefore]

theorem encodes_of_reordered {bytes bytes' : List UInt8}
    (h : Relation.ReflTransGen Reordered bytes bytes') {type : SchemaType}
    (henc : Encodes bytes type) : Encodes bytes' type := by
  induction h with
  | refl => exact henc
  | tail _ hstep ih => exact hstep.encodes ih

/-! ### Exchanging part by part -/

/-- **A thing whose bytes may be exchanged** at every place for it, by reordering. -/
def Interchangeable (L : Language α) (a : α) : Prop :=
  ∀ b b', L b a → L b' a → ∀ before after, PlaceFor L before after →
    Relation.ReflTransGen Reordered (before ++ b ++ after) (before ++ b' ++ after)

section Parts

variable {L : Language α} {M : Language β}

/-- A place for the whole leaves one for the part. -/
theorem Interchangeable.inside {a : α} (h : Interchangeable L a) {b b' : List UInt8} (hb : L b a)
    (hb' : L b' a) {p q : List UInt8} {f : α → β}
    (hwhole : ∀ bytes a, L bytes a → M (p ++ bytes ++ q) (f a)) {before after : List UInt8}
    (place : PlaceFor M before after) :
    Relation.ReflTransGen Reordered (before ++ (p ++ b ++ q) ++ after)
      (before ++ (p ++ b' ++ q) ++ after) := by
  obtain ⟨whole, hplace⟩ := place
  have hinner : PlaceFor L (before ++ p) (q ++ after) := by
    refine ⟨fun a => whole (f a), fun bytes a hL => ?_⟩
    have hM := hplace _ _ (hwhole bytes a hL)
    simpa only [List.append_assoc] using hM
  have hsteps := h b b' hb hb' _ _ hinner
  simpa only [List.append_assoc] using hsteps

/-- The same if the part comes last. -/
theorem Interchangeable.last {a : α} (h : Interchangeable L a) {b b' : List UInt8} (hb : L b a)
    (hb' : L b' a) {p : List UInt8} {f : α → β}
    (hwhole : ∀ bytes a, L bytes a → M (p ++ bytes) (f a)) {before after : List UInt8}
    (place : PlaceFor M before after) :
    Relation.ReflTransGen Reordered (before ++ (p ++ b) ++ after)
      (before ++ (p ++ b') ++ after) := by
  have hwhole' : ∀ bytes a, L bytes a → M (p ++ bytes ++ []) (f a) := by
    simpa only [List.append_nil] using hwhole
  have hsteps := h.inside hb hb' hwhole' place
  rwa [List.append_nil, List.append_nil] at hsteps

/-- Things in a row, about each of which something is fixed. -/
def RowForm {κ : Type} (L : Language α) (key : α → κ) (keys : List κ) : Language (List α) :=
  fun bytes elements => elements.map key = keys ∧
    ∃ parts : List (List UInt8), bytes = parts.flatten ∧ List.Forall₂ L parts elements

theorem interchangeable_row {κ : Type} {key : α → κ} {elements : List α}
    (h : ∀ a ∈ elements, Interchangeable (fun b x => key x = key a ∧ L b x) a) :
    Interchangeable (RowForm L key (elements.map key)) elements := by
  induction elements with
  | nil =>
    rintro b b' ⟨-, _, rfl, hparts⟩ ⟨-, _, rfl, hparts'⟩ before after -
    cases hparts
    cases hparts'
    exact .refl
  | cons a elements ih =>
    rintro b b' ⟨-, _, rfl, hparts⟩ ⟨-, _, rfl, hparts'⟩ before after place
    rcases hparts with _ | @⟨x, _, xs, _, hx, hxs⟩
    rcases hparts' with _ | @⟨x', _, xs', _, hx', hxs'⟩
    -- the first one while the others are as before, then the others
    have hfirst : ∀ bytes y, key y = key a ∧ L bytes y →
        RowForm L key ((a :: elements).map key) ([] ++ bytes ++ xs.flatten) (y :: elements) :=
      fun bytes y ⟨hkey, hy⟩ => ⟨by rw [List.map_cons, List.map_cons, hkey], bytes :: xs,
        List.flatten_cons.symm, .cons hy hxs⟩
    have hothers : ∀ bytes ys, RowForm L key (elements.map key) bytes ys →
        RowForm L key ((a :: elements).map key) (x' ++ bytes) (a :: ys) := by
      rintro _ ys ⟨hkeys, parts, rfl, hparts⟩
      exact ⟨by rw [List.map_cons, List.map_cons, hkeys], x' :: parts, List.flatten_cons.symm,
        .cons hx' hparts⟩
    have hsteps := (h a (List.mem_cons_self ..)).inside ⟨rfl, hx⟩ ⟨rfl, hx'⟩ hfirst place
    have hsteps' := (ih fun y hy => h y (List.mem_cons_of_mem a hy)).last ⟨rfl, xs, rfl, hxs⟩
      ⟨rfl, xs', rfl, hxs'⟩ hothers place
    exact hsteps.trans hsteps'

theorem interchangeable_counted {elements : List α} (h : ∀ a ∈ elements, Interchangeable L a) :
    Interchangeable (CountedForm L) elements := by
  rintro _ _ ⟨fits, hparts⟩ ⟨-, hparts'⟩ before after place
  have hrow : Interchangeable (RowForm L (fun _ => ()) (elements.map fun _ => ())) elements :=
    interchangeable_row fun a ha => by simpa using h a ha
  refine hrow.last ⟨rfl, _, rfl, hparts⟩ ⟨rfl, _, rfl, hparts'⟩ (f := id) ?_ place
  rintro _ ys ⟨hkeys, parts, rfl, hparts⟩
  have hlength : ys.length = elements.length := by
    simpa only [List.length_map] using congrArg List.length hkeys
  rw [← hlength]
  exact .mk (hlength ▸ fits) hparts

theorem interchangeable_named {named : String × α} (h : Interchangeable L named.2) :
    Interchangeable (NamedForm L) named := by
  rintro _ _ ⟨fits, hb⟩ ⟨-, hb'⟩ before after place
  exact h.last hb hb' (fun _ _ => .mk fits) place

/-- At a place for a thing with a certain tag only the thing matters. -/
theorem interchangeable_tagged {tagged : UInt8 × α} (h : Interchangeable L tagged.2) :
    Interchangeable (fun b x => x.1 = tagged.1 ∧ TaggedForm L b x) tagged := by
  rintro _ _ ⟨-, @⟨tag, _, _, hb⟩⟩ ⟨-, ⟨hb'⟩⟩ before after place
  exact h.last (p := [tag]) hb hb' (f := (tag, ·)) (fun _ _ hx => ⟨rfl, .mk hx⟩)
    place

theorem interchangeable_fields {fields : Fields}
    (h : ∀ type ∈ fields.types, Interchangeable Encodes type) :
    Interchangeable (FieldsForm Encodes) fields := by
  intro b b' hb hb' before after place
  cases hb with
  | named hfields =>
    cases hb' with
    | named hfields' =>
      refine (interchangeable_counted fun field hfield => interchangeable_named ?_).last (p := [0])
        hfields hfields' (fun _ _ => .named) place
      exact List.forall_mem_map.mp h field hfield
  | unnamed hfields =>
    cases hb' with
    | unnamed hfields' =>
      exact (interchangeable_counted h).last (p := [1]) hfields hfields' (fun _ _ => .unnamed) place
  | none =>
    cases hb'
    exact .refl

end Parts

/-- The bytes of a tagged enum, whatever the order. -/
theorem TypeForm.exists_variants {P : Language SchemaType} {bytes : List UInt8}
    {variants : UInt8 → Option (String × Fields)} (h : TypeForm P bytes (.taggedEnum variants)) :
    ∃ (parts : List (List UInt8)) (entries : List (UInt8 × String × Fields)),
      bytes = taggedEnumBytes parts ∧ entries.length < 2 ^ 32 ∧
        List.Forall₂ (TaggedForm (NamedForm (FieldsForm P))) parts entries ∧
          (entries.map (·.1)).Nodup ∧ variants = fun tag => entries.lookup tag := by
  generalize htype : SchemaType.taggedEnum variants = type at h
  cases h
  case taggedEnum b entries hv distinct =>
    obtain ⟨fits, hparts⟩ := hv
    refine ⟨_, entries, ?_, fits, hparts, distinct, SchemaType.taggedEnum.inj htype⟩
    rw [taggedEnumBytes, hparts.length_eq]
  all_goals exact absurd htype (by simp)

theorem interchangeable_taggedEnum {variants : UInt8 → Option (String × Fields)}
    (h : ∀ fields, (SchemaType.taggedEnum variants).HasFields fields →
      Interchangeable (FieldsForm Encodes) fields) :
    Interchangeable Encodes (.taggedEnum variants) := by
  rintro b b' ⟨hb⟩ ⟨hb'⟩ before after place
  obtain ⟨parts, entries, rfl, fits, hparts, distinct, rfl⟩ := hb.exists_variants
  obtain ⟨parts', entries', rfl, -, hparts', distinct', hlookup⟩ := hb'.exists_variants
  -- the second listing in the order of the first one
  obtain ⟨parts'', hparts'', hperm⟩ :=
    List.perm_comp_forall₂ (perm_of_lookup_eq distinct distinct' (congrFun hlookup)) hparts'.flip
  have hrow : Interchangeable (RowForm VariantForm Prod.fst (entries.map Prod.fst)) entries := by
    refine interchangeable_row fun variant hvariant =>
      interchangeable_tagged (interchangeable_named (h variant.2.2 ?_))
    exact .taggedEnum ((lookup_eq_some_iff_mem distinct).mpr hvariant)
  have hwhole : ∀ bytes ys, RowForm VariantForm Prod.fst (entries.map Prod.fst) bytes ys →
      Encodes (0x1f :: littleEndianBytes 4 entries.length ++ bytes)
        (.taggedEnum fun tag => ys.lookup tag) := by
    rintro _ ys ⟨htags, parts, rfl, hparts⟩
    have hlength : ys.length = entries.length := by
      simpa only [List.length_map] using congrArg List.length htags
    have henc := encodes_taggedEnumBytes (hlength ▸ fits) hparts (htags ▸ distinct)
    rwa [taggedEnumBytes, hparts.length_eq, hlength] at henc
  -- first the bytes of each variant where it stands, then the order in a single step
  have hsteps := hrow.last ⟨rfl, parts, rfl, hparts⟩ ⟨rfl, parts'', rfl, hparts''.flip⟩ hwhole place
  have hstep : Reordered _ _ := .mk place fits hparts''.flip distinct hperm
  rw [taggedEnumBytes, hparts''.length_eq.symm] at hstep
  rw [taggedEnumBytes, hparts.length_eq]
  exact hsteps.tail hstep

/-- **Bytes of a type may be exchanged** for others of the same type. -/
theorem interchangeable_encodes (type : SchemaType) : Interchangeable Encodes type := by
  induction type using SchemaType.partInduction with
  | step type ih =>
    rintro b b' ⟨hb⟩ ⟨hb'⟩ before after place
    have hfields : ∀ fields, type.HasFields fields → Interchangeable (FieldsForm Encodes) fields :=
      fun fields hf => interchangeable_fields fun part hpart => ih part (.field hf hpart)
    cases hb with
    | @pair x y left right hleft hright =>
      cases hb' with
      | @pair x' y' _ _ hleft' hright' =>
        -- the left half before the old right one, then the right half behind the new left one
        have hsteps := (ih left (.left ..)).inside (p := [0x0f]) (q := y) hleft hleft'
          (fun _ _ h => .mk (.pair h hright)) place
        have hsteps' := (ih right (.right ..)).last (p := 0x0f :: x') hright hright'
          (fun _ _ h => .mk (.pair hleft' h)) place
        exact hsteps.trans hsteps'
    | @list x item size hitem =>
      cases hb' with
      | list _ hitem' =>
        exact (ih item (.listItem ..)).last (p := [0x10, size.tag]) hitem hitem'
          (fun _ _ h => .mk (.list size h)) place
    | @set x item size hitem =>
      cases hb' with
      | set _ hitem' =>
        exact (ih item (.setItem ..)).last (p := [0x11, size.tag]) hitem hitem'
          (fun _ _ h => .mk (.set size h)) place
    | @map x y key value size hkey hvalue =>
      cases hb' with
      | @map x' y' _ _ _ hkey' hvalue' =>
        have hsteps := (ih key (.key ..)).inside (p := [0x12, size.tag]) (q := y) hkey hkey'
          (fun _ _ h => .mk (.map size h hvalue)) place
        have hsteps' := (ih value (.value ..)).last (p := 0x12 :: size.tag :: x') hvalue hvalue'
          (fun _ _ h => .mk (.map size hkey' h)) place
        exact hsteps.trans hsteps'
    | @array x item length hitem =>
      cases hb' with
      | array _ hitem' =>
        exact (ih item (.arrayItem ..)).last (p := 0x13 :: littleEndianBytes 4 length.toNat) hitem
          hitem' (fun _ _ h => .mk (.array length h)) place
    | @struct x fields hf =>
      cases hb' with
      | struct hf' =>
        exact (hfields fields (.struct fields)).last (p := [0x14]) hf hf'
          (fun _ _ h => .mk (.struct h)) place
    | enum hv =>
      cases hb' with
      | enum hv' =>
        refine (interchangeable_counted fun variant hvariant => interchangeable_named ?_).last
          (p := [0x15]) hv hv' (fun _ _ h => .mk (.enum h)) place
        exact hfields variant.2 (.enum hvariant)
    | taggedEnum hv distinct =>
      exact interchangeable_taggedEnum hfields _ _ (.mk (.taggedEnum hv distinct)) (.mk hb') _ _
        place
    | _ =>
      cases hb'
      exact .refl

/-- **The order of variants is all that a type does not remember.** -/
theorem Encodes.iff_reordered {bytes bytes' : List UInt8} {type : SchemaType}
    (h : Encodes bytes type) :
    Encodes bytes' type ↔ Relation.ReflTransGen Reordered bytes bytes' := by
  constructor
  · intro h'
    have place : PlaceFor Encodes [] [] := ⟨id, fun b a hb => by simpa using hb⟩
    have hsteps := interchangeable_encodes type bytes bytes' h h' [] [] place
    simpa using hsteps
  · exact fun hsteps => encodes_of_reordered hsteps h

end ContractSchema
