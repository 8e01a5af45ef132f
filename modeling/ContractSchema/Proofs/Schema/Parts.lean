import ContractSchema.Proofs.Lists
import ContractSchema.Schema.Type
import Mathlib.Logic.Relation

/-!
# The parts of a type

Types and fields refer to each other, through lists and through functions on tags. What
is proved about all types is proved with one notion instead: a type is a **part** of
another if it stands directly inside it
(`ContractSchema.SchemaType.PartOf`), where fields do not count as a level of their own.
Nesting is governed by it – a part is less deep
(`ContractSchema.SchemaType.PartOf.depth_lt`), and a type is at most one deeper than its
parts (`ContractSchema.SchemaType.depth_le_of_parts`) – so that induction along it is
allowed (`ContractSchema.SchemaType.partInduction`).

A property which is required at every level of a type is stated by
`ContractSchema.SchemaType.Everywhere`.
-/

namespace ContractSchema

/-! ### Functions on tags -/

section Tags

variable {α : Type}

theorem ofNat_toNat_mem_range (tag : UInt8) : tag.toNat ∈ List.range 256 :=
  List.mem_range.mpr tag.toNat_lt

/-- The entries of a function on tags are what it assigns. -/
theorem mem_tagEntries {f : UInt8 → Option α} {tag : UInt8} {a : α} :
    (tag, a) ∈ tagEntries f ↔ f tag = some a := by
  rw [tagEntries, List.mem_filterMap]
  constructor
  · rintro ⟨n, -, hn⟩
    obtain ⟨a', ha', heq⟩ := Option.map_eq_some_iff.mp hn
    obtain ⟨rfl, rfl⟩ := Prod.mk.inj heq
    exact ha'
  · intro h
    refine ⟨tag.toNat, ofNat_toNat_mem_range tag, ?_⟩
    rw [UInt8.ofNat_toNat, h, Option.map_some]

theorem nodup_tagEntries (f : UInt8 → Option α) : ((tagEntries f).map (·.1)).Nodup := by
  have hmap : ∀ numbers : List Nat,
      (numbers.filterMap fun n => (f (UInt8.ofNat n)).map (UInt8.ofNat n, ·)).map (·.1) =
        (numbers.map UInt8.ofNat).filter fun tag => (f tag).isSome := by
    intro numbers
    induction numbers with
    | nil => rfl
    | cons n numbers ih =>
      rw [List.map_cons, List.filter_cons, ← ih]
      rcases hn : f (UInt8.ofNat n) with _ | a <;> simp [hn]
  have hinj : ∀ n ∈ List.range 256, ∀ m ∈ List.range 256,
      UInt8.ofNat n = UInt8.ofNat m → n = m := by
    intro n hn m hm heq
    have hnat := congrArg UInt8.toNat heq
    rw [UInt8.toNat_ofNat_of_lt' (List.mem_range.mp hn),
      UInt8.toNat_ofNat_of_lt' (List.mem_range.mp hm)] at hnat
    exact hnat
  -- the tags are those of different numbers, and some of them are left out
  rw [tagEntries, hmap]
  exact (List.nodup_range.map_on hinj).filter _

theorem lookup_tagEntries (f : UInt8 → Option α) (tag : UInt8) :
    (tagEntries f).lookup tag = f tag := by
  refine Option.ext fun a => ?_
  rw [lookup_eq_some_iff_mem (nodup_tagEntries f), mem_tagEntries]

theorem length_tagEntries_le (f : UInt8 → Option α) : (tagEntries f).length ≤ 256 := by
  have hle := List.length_filterMap_le
    (fun n => (f (UInt8.ofNat n)).map (UInt8.ofNat n, ·)) (List.range 256)
  rwa [List.length_range] at hle

/-- The entries of a function on tags after another function are those of the first one,
with the other function applied. -/
theorem tagEntries_map {β : Type} (f : UInt8 → Option α) (g : α → β) :
    (tagEntries fun tag => (f tag).map g) = (tagEntries f).map fun (tag, a) => (tag, g a) := by
  rw [tagEntries, tagEntries, List.map_filterMap]
  congr 1
  funext n
  cases f (UInt8.ofNat n) <;> rfl

/-- Entries put in one after the other: the last of a tag stays. -/
theorem foldl_setEntry (entries : List (UInt8 × α)) (start : UInt8 → Option α)
    (tag : UInt8) :
    entries.foldl (fun found (tag, entry) => setEntry tag entry found) start tag =
      (entries.reverse.lookup tag).or (start tag) := by
  induction entries generalizing start with
  | nil => rfl
  | cons entry entries ih =>
    rw [List.foldl_cons, ih, List.reverse_cons, List.lookup_append, Option.or_assoc]
    congr 1
    change setEntry entry.1 entry.2 start tag = _
    rw [setEntry, List.lookup_cons, List.lookup_nil]
    by_cases htag : tag = entry.1
    · rw [if_pos htag, beq_iff_eq.mpr htag]
      rfl
    · rw [if_neg htag, beq_eq_false_iff_ne.mpr htag]
      rfl

/-- **A function on tags is made of its entries.** -/
theorem foldl_tagEntries (f : UInt8 → Option α) :
    (tagEntries f).foldl (fun found (tag, entry) => setEntry tag entry found) noEntries = f := by
  funext tag
  have hreverse : ((tagEntries f).reverse.map (·.1)).Nodup := by
    rw [List.map_reverse]
    exact List.nodup_reverse.mpr (nodup_tagEntries f)
  rw [foldl_setEntry, lookup_eq_of_perm (List.reverse_perm _) hreverse, lookup_tagEntries, noEntries,
    Option.or_none]

theorem foldl_max_le_iff (f : Nat → Nat) (numbers : List Nat) (start d : Nat) :
    numbers.foldl (fun greatest n => max greatest (f n)) start ≤ d ↔
      start ≤ d ∧ ∀ n ∈ numbers, f n ≤ d := by
  induction numbers generalizing start with
  | nil => simp
  | cons n numbers ih =>
    rw [List.foldl_cons, ih, List.forall_mem_cons, Nat.max_le, and_assoc]

theorem maxOverTags_le_iff {f : UInt8 → Nat} {d : Nat} :
    maxOverTags f ≤ d ↔ ∀ tag, f tag ≤ d := by
  rw [maxOverTags, foldl_max_le_iff]
  constructor
  · rintro ⟨-, h⟩ tag
    have htag := h tag.toNat (ofNat_toNat_mem_range tag)
    rwa [UInt8.ofNat_toNat] at htag
  · exact fun h => ⟨Nat.zero_le d, fun n _ => h (UInt8.ofNat n)⟩

theorem le_maxOverTags (f : UInt8 → Nat) (tag : UInt8) : f tag ≤ maxOverTags f :=
  maxOverTags_le_iff.mp (Nat.le_refl _) tag

end Tags

/-! ### Parts -/

/-- The types of fields in their order. -/
def Fields.types : Fields → List SchemaType
  | .named fields => fields.map (·.2)
  | .unnamed fields => fields
  | .none => []

/-- **The fields in a type**: those of a struct, and those of each variant of an enum. -/
inductive SchemaType.HasFields : SchemaType → Fields → Prop
  /-- A struct has its fields. -/
  | struct (fields : Fields) : HasFields (.struct fields) fields
  /-- An enum has the fields of its variants. -/
  | enum {variants : List (String × Fields)} {name : String} {fields : Fields}
      (h : (name, fields) ∈ variants) : HasFields (.enum variants) fields
  /-- So does an enum with tags. -/
  | taggedEnum {variants : UInt8 → Option (String × Fields)} {tag : UInt8} {name : String}
      {fields : Fields} (h : variants tag = some (name, fields)) :
      HasFields (.taggedEnum variants) fields

/-- **A part of a type** stands directly inside it. -/
inductive SchemaType.PartOf : SchemaType → SchemaType → Prop
  /-- The left half of a pair. -/
  | left (left right : SchemaType) : PartOf left (.pair left right)
  /-- The right half of a pair. -/
  | right (left right : SchemaType) : PartOf right (.pair left right)
  /-- The items of a list. -/
  | listItem (size : SizeLength) (item : SchemaType) : PartOf item (.list size item)
  /-- The items of a set. -/
  | setItem (size : SizeLength) (item : SchemaType) : PartOf item (.set size item)
  /-- The keys of a map. -/
  | key (size : SizeLength) (key value : SchemaType) : PartOf key (.map size key value)
  /-- The values of a map. -/
  | value (size : SizeLength) (key value : SchemaType) : PartOf value (.map size key value)
  /-- The items of an array. -/
  | arrayItem (length : UInt32) (item : SchemaType) : PartOf item (.array length item)
  /-- The type of a field. -/
  | field {type part : SchemaType} {fields : Fields} (h : type.HasFields fields)
      (hpart : part ∈ fields.types) : PartOf part type

/-! ### Depth -/

theorem depthOfNamed_le_iff {fields : List (String × SchemaType)} {d : Nat} :
    depthOfNamed fields ≤ d ↔ ∀ field ∈ fields, field.2.depth ≤ d := by
  induction fields with
  | nil => simp [depthOfNamed]
  | cons field fields ih =>
    rw [depthOfNamed, Nat.max_le, ih, List.forall_mem_cons]

theorem depthOfUnnamed_le_iff {fields : List SchemaType} {d : Nat} :
    depthOfUnnamed fields ≤ d ↔ ∀ field ∈ fields, field.depth ≤ d := by
  induction fields with
  | nil => simp [depthOfUnnamed]
  | cons field fields ih =>
    rw [depthOfUnnamed, Nat.max_le, ih, List.forall_mem_cons]

/-- Fields are as deep as the deepest of their types. -/
theorem Fields.depth_le_iff {fields : Fields} {d : Nat} :
    fields.depth ≤ d ↔ ∀ type ∈ fields.types, type.depth ≤ d := by
  cases fields with
  | named fields =>
    rw [Fields.depth, depthOfNamed_le_iff, Fields.types, List.forall_mem_map]
  | unnamed fields =>
    rw [Fields.depth, depthOfUnnamed_le_iff, Fields.types]
  | none => simp [Fields.depth, Fields.types]

theorem depthOfVariants_le_iff {variants : List (String × Fields)} {d : Nat} :
    depthOfVariants variants ≤ d ↔ ∀ variant ∈ variants, variant.2.depth ≤ d := by
  induction variants with
  | nil => simp [depthOfVariants]
  | cons variant variants ih =>
    rw [depthOfVariants, Nat.max_le, ih, List.forall_mem_cons]

theorem depthOfVariant_le_iff {variant : Option (String × Fields)} {d : Nat} :
    depthOfVariant variant ≤ d ↔ ∀ entry, variant = some entry → entry.2.depth ≤ d := by
  cases variant with
  | none => simp [depthOfVariant]
  | some entry => simp [depthOfVariant]

namespace SchemaType

theorem depth_pos (type : SchemaType) : 0 < type.depth := by
  cases type <;> simp [depth]

/-- Fields are less deep than the type they stand in. -/
theorem HasFields.depth_lt {type : SchemaType} {fields : Fields} (h : type.HasFields fields) :
    fields.depth < type.depth := by
  cases h with
  | struct fields =>
    rw [depth]
    omega
  | @enum variants name fields h =>
    have hle : fields.depth ≤ depthOfVariants variants :=
      depthOfVariants_le_iff.mp (Nat.le_refl _) _ h
    rw [depth]
    omega
  | @taggedEnum variants tag name fields h =>
    have hle : fields.depth ≤ maxOverTags fun tag => depthOfVariant (variants tag) :=
      depthOfVariant_le_iff.mp (le_maxOverTags (fun tag => depthOfVariant (variants tag)) tag) _ h
    rw [depth]
    omega

/-- **A part is less deep than the whole.** -/
theorem PartOf.depth_lt {part type : SchemaType} (h : part.PartOf type) :
    part.depth < type.depth := by
  cases h with
  | field h hpart =>
    exact Nat.lt_of_le_of_lt (Fields.depth_le_iff.mp (Nat.le_refl _) part hpart) h.depth_lt
  | _ =>
    simp only [depth]
    omega

/-- **A type is at most one deeper than its parts.** -/
theorem depth_le_of_parts {type : SchemaType} {d : Nat}
    (h : ∀ part : SchemaType, part.PartOf type → part.depth ≤ d) : type.depth ≤ d + 1 := by
  have hfields : ∀ fields : Fields, type.HasFields fields → fields.depth ≤ d := fun fields hf =>
    Fields.depth_le_iff.mpr fun part hpart => h part (.field hf hpart)
  cases type with
  | pair left right =>
    have hleft := h left (.left left right)
    have hright := h right (.right left right)
    rw [depth]
    omega
  | list size item => exact Nat.succ_le_succ (h item (.listItem size item))
  | set size item => exact Nat.succ_le_succ (h item (.setItem size item))
  | map size key value =>
    have hkey := h key (.key size key value)
    have hvalue := h value (.value size key value)
    rw [depth]
    omega
  | array length item => exact Nat.succ_le_succ (h item (.arrayItem length item))
  | struct fields => exact Nat.succ_le_succ (hfields fields (.struct fields))
  | enum variants =>
    exact Nat.succ_le_succ (depthOfVariants_le_iff.mpr fun _ hv => hfields _ (.enum hv))
  | taggedEnum variants =>
    exact Nat.succ_le_succ (maxOverTags_le_iff.mpr fun tag =>
      depthOfVariant_le_iff.mpr fun _ hv => hfields _ (.taggedEnum hv))
  | _ => simp [depth]

/-- The depth of a type is bounded through its parts. -/
theorem depth_le_succ_iff {type : SchemaType} {d : Nat} :
    type.depth ≤ d + 1 ↔ ∀ part : SchemaType, part.PartOf type → part.depth ≤ d :=
  ⟨fun h _ hpart => Nat.le_of_lt_succ (Nat.lt_of_lt_of_le hpart.depth_lt h), depth_le_of_parts⟩

/-- **Induction along the parts of a type.** -/
@[elab_as_elim]
theorem partInduction {motive : SchemaType → Prop}
    (step : ∀ type, (∀ part : SchemaType, part.PartOf type → motive part) → motive type)
    (type : SchemaType) : motive type := by
  -- on the depth, which goes down from a type to its parts
  induction hd : type.depth using Nat.strongRecOn generalizing type with
  | ind d ih =>
    subst hd
    exact step type fun part hpart => ih part.depth hpart.depth_lt part rfl

/-! ### Properties at every level -/

/-- A type stands somewhere inside another: it is the other, or a part of a part of it. -/
def Inside (inner type : SchemaType) : Prop :=
  Relation.ReflTransGen PartOf inner type

/-- **A property at every level** of a type. -/
def Everywhere (p : SchemaType → Prop) (type : SchemaType) : Prop :=
  ∀ inner : SchemaType, inner.Inside type → p inner

section Everywhere

variable {p : SchemaType → Prop} {type : SchemaType}

theorem Everywhere.here (h : type.Everywhere p) : p type :=
  h type .refl

theorem Everywhere.part (h : type.Everywhere p) {part : SchemaType} (hpart : part.PartOf type) :
    part.Everywhere p :=
  fun inner hinner => h inner (hinner.tail hpart)

theorem everywhere_iff :
    type.Everywhere p ↔ p type ∧ ∀ part : SchemaType, part.PartOf type → part.Everywhere p := by
  constructor
  · exact fun h => ⟨h.here, fun _ hpart => h.part hpart⟩
  · rintro ⟨hhere, hparts⟩ inner hinner
    rcases Relation.ReflTransGen.cases_tail hinner with rfl | ⟨part, hpart, hlast⟩
    · exact hhere
    · exact hparts part hlast inner hpart

/-- A type of depth one has no parts. -/
theorem everywhere_of_depth_le_one (hdepth : type.depth ≤ 1) (h : p type) : type.Everywhere p := by
  refine everywhere_iff.mpr ⟨h, fun part hpart => ?_⟩
  have hlt := Nat.lt_of_lt_of_le hpart.depth_lt hdepth
  exact absurd part.depth_pos (Nat.not_lt.mpr (Nat.le_of_lt_succ hlt))

theorem everywhere_struct_iff {fields : Fields} :
    (struct fields).Everywhere p ↔
      p (.struct fields) ∧ ∀ part ∈ fields.types, part.Everywhere p := by
  rw [everywhere_iff]
  refine and_congr_right fun _ => ⟨fun h part hpart => h part (.field (.struct fields) hpart), ?_⟩
  intro h part hpart
  cases hpart with
  | field hf hpart =>
    cases hf
    exact h part hpart

theorem everywhere_enum_iff {variants : List (String × Fields)} :
    (enum variants).Everywhere p ↔
      p (.enum variants) ∧
        ∀ variant ∈ variants, ∀ part ∈ variant.2.types, part.Everywhere p := by
  rw [everywhere_iff]
  refine and_congr_right fun _ =>
    ⟨fun h variant hv part hpart => h part (.field (.enum hv) hpart), ?_⟩
  intro h part hpart
  cases hpart with
  | field hf hpart =>
    cases hf with
    | enum hv => exact h _ hv part hpart

end Everywhere

/-- **The names in a type are of a sort**: those of its variants and of its fields. Those in its
parts are not asked. -/
def NamedBy (name : String → Prop) (type : SchemaType) : Prop :=
  (∀ s ∈ type.variantNames, name s) ∧
    ∀ fields : Fields, type.HasFields fields → ∀ s ∈ fields.names, name s

section NamedBy

variable {name name' : String → Prop}

theorem Everywhere.namedBy_imp {type : SchemaType} (h : type.Everywhere (NamedBy name))
    (himp : ∀ s, name s → name' s) : type.Everywhere (NamedBy name') := fun inner hinner =>
  ⟨fun s hs => himp s ((h inner hinner).1 s hs),
    fun fields hf s hs => himp s ((h inner hinner).2 fields hf s hs)⟩

theorem namedBy_struct_iff {fields : Fields} :
    (struct fields).NamedBy name ↔ ∀ s ∈ fields.names, name s := by
  constructor
  · exact fun h => h.2 fields (.struct fields)
  · refine fun h => ⟨fun s hs => absurd hs List.not_mem_nil, ?_⟩
    rintro _ ⟨⟩
    exact h

theorem namedBy_enum_iff {variants : List (String × Fields)} :
    (enum variants).NamedBy name ↔
      ∀ variant ∈ variants, name variant.1 ∧ ∀ s ∈ variant.2.names, name s := by
  constructor
  · exact fun h variant hv => ⟨h.1 _ (List.mem_map_of_mem hv), h.2 variant.2 (.enum hv)⟩
  · refine fun h => ⟨List.forall_mem_map.mpr fun variant hv => (h variant hv).1, ?_⟩
    rintro _ (_ | hv)
    exact (h _ hv).2

end NamedBy

end SchemaType

end ContractSchema
