import ContractSchema.Proofs.Schema.Grammar

/-!
# Writing binary schemas

The bytes of a type are written from the grammar, with the variants of a tagged enum by
ascending tag (`ContractSchema.SchemaType.toBytes`). This works out exactly if all that is
counted in four bytes fits into them: names, fields and variants
(`ContractSchema.SchemaType.Fits`), which is asked at every level of the type
(`ContractSchema.encodes_toBytes`, `ContractSchema.exists_encodes_iff`).
-/

namespace ContractSchema

/-! ### The writer -/

mutual

/-- **The bytes of a type.** -/
def SchemaType.toBytes : SchemaType → List UInt8
  | .unit => [0x00]
  | .bool => [0x01]
  | .u8 => [0x02]
  | .u16 => [0x03]
  | .u32 => [0x04]
  | .u64 => [0x05]
  | .i8 => [0x06]
  | .i16 => [0x07]
  | .i32 => [0x08]
  | .i64 => [0x09]
  | .amount => [0x0a]
  | .accountAddress => [0x0b]
  | .contractAddress => [0x0c]
  | .timestamp => [0x0d]
  | .duration => [0x0e]
  | .pair left right => 0x0f :: (left.toBytes ++ right.toBytes)
  | .list size item => 0x10 :: size.tag :: item.toBytes
  | .set size item => 0x11 :: size.tag :: item.toBytes
  | .map size key value => 0x12 :: size.tag :: (key.toBytes ++ value.toBytes)
  | .array length item => 0x13 :: (littleEndianBytes 4 length.toNat ++ item.toBytes)
  | .struct fields => 0x14 :: fields.toBytes
  | .enum variants =>
    0x15 :: (littleEndianBytes 4 variants.length ++ bytesOfVariants variants)
  | .string size => [0x16, size.tag]
  | .u128 => [0x17]
  | .i128 => [0x18]
  | .contractName size => [0x19, size.tag]
  | .receiveName size => [0x1a, size.tag]
  | .uLeb128 maxBytes => 0x1b :: littleEndianBytes 4 maxBytes.toNat
  | .iLeb128 maxBytes => 0x1c :: littleEndianBytes 4 maxBytes.toNat
  | .byteList size => [0x1d, size.tag]
  | .byteArray length => 0x1e :: littleEndianBytes 4 length.toNat
  | .taggedEnum variants =>
    0x1f :: (littleEndianBytes 4 (tagEntries variants).length ++
      ((tagEntries fun tag => bytesOfVariant (variants tag)).map
        fun (tag, bytes) => tag :: bytes).flatten)

/-- **The bytes of fields.** -/
def Fields.toBytes : Fields → List UInt8
  | .named fields => 0 :: (littleEndianBytes 4 fields.length ++ bytesOfNamed fields)
  | .unnamed fields => 1 :: (littleEndianBytes 4 fields.length ++ bytesOfUnnamed fields)
  | .none => [2]

/-- The bytes of fields with names, one after the other. -/
def bytesOfNamed : List (String × SchemaType) → List UInt8
  | [] => []
  | (name, type) :: rest => nameBytes name ++ type.toBytes ++ bytesOfNamed rest

/-- The bytes of fields without names, one after the other. -/
def bytesOfUnnamed : List SchemaType → List UInt8
  | [] => []
  | type :: rest => type.toBytes ++ bytesOfUnnamed rest

/-- The bytes of variants, one after the other. -/
def bytesOfVariants : List (String × Fields) → List UInt8
  | [] => []
  | (name, fields) :: rest => nameBytes name ++ fields.toBytes ++ bytesOfVariants rest

/-- The bytes of a variant, if there is one. -/
def bytesOfVariant : Option (String × Fields) → Option (List UInt8)
  | none => none
  | some (name, fields) => some (nameBytes name ++ fields.toBytes)

end

theorem bytesOfNamed_eq (fields : List (String × SchemaType)) :
    bytesOfNamed fields =
      (fields.map fun field => nameBytes field.1 ++ field.2.toBytes).flatten := by
  induction fields with
  | nil => rfl
  | cons field fields ih => rw [bytesOfNamed, ih, List.map_cons, List.flatten_cons]

theorem bytesOfUnnamed_eq (fields : List SchemaType) :
    bytesOfUnnamed fields = (fields.map SchemaType.toBytes).flatten := by
  induction fields with
  | nil => rfl
  | cons field fields ih => rw [bytesOfUnnamed, ih, List.map_cons, List.flatten_cons]

theorem bytesOfVariants_eq (variants : List (String × Fields)) :
    bytesOfVariants variants =
      (variants.map fun variant => nameBytes variant.1 ++ variant.2.toBytes).flatten := by
  induction variants with
  | nil => rfl
  | cons variant variants ih => rw [bytesOfVariants, ih, List.map_cons, List.flatten_cons]

theorem bytesOfVariant_eq (variant : Option (String × Fields)) :
    bytesOfVariant variant = variant.map fun entry => nameBytes entry.1 ++ entry.2.toBytes := by
  rcases variant with _ | ⟨name, fields⟩
  · rfl
  · rfl

/-! ### What fits -/

/-- A name whose length fits into four bytes. -/
def NameFits (name : String) : Prop :=
  name.utf8ByteSize < 2 ^ 32

/-- Fields of which there are not too many, with names that are not too long. -/
def Fields.Fit : Fields → Prop
  | .named fields => fields.length < 2 ^ 32 ∧ ∀ field ∈ fields, NameFits field.1
  | .unnamed fields => fields.length < 2 ^ 32
  | .none => True

/-- **Names and counts fit into four bytes**, as far as the type itself goes. -/
def SchemaType.Fits : SchemaType → Prop
  | .struct fields => fields.Fit
  | .enum variants =>
    variants.length < 2 ^ 32 ∧ ∀ variant ∈ variants, NameFits variant.1 ∧ variant.2.Fit
  | .taggedEnum variants =>
    ∀ tag name fields, variants tag = some (name, fields) → NameFits name ∧ fields.Fit
  | _ => True

section Writing

variable {α : Type} {L : Language α}

theorem countedForm_map {write : α → List UInt8} {elements : List α}
    (fits : elements.length < 2 ^ 32) (h : ∀ a ∈ elements, L (write a) a) :
    CountedForm L (littleEndianBytes 4 elements.length ++ (elements.map write).flatten) elements :=
  .mk fits (List.forall₂_map_left_iff.mpr (List.forall₂_same.mpr h))

theorem CountedForm.length_lt {bytes : List UInt8} {elements : List α}
    (h : CountedForm L bytes elements) : elements.length < 2 ^ 32 := by
  obtain ⟨fits, -⟩ := h
  exact fits

theorem NamedForm.nameFits {bytes : List UInt8} {named : String × α} (h : NamedForm L bytes named) :
    NameFits named.1 := by
  obtain ⟨fits, -⟩ := h
  exact fits

theorem fieldsForm_toBytes {fields : Fields} (fits : fields.Fit)
    (h : ∀ type ∈ fields.types, Encodes type.toBytes type) :
    FieldsForm Encodes fields.toBytes fields := by
  cases fields with
  | named fields =>
    rw [Fields.toBytes, bytesOfNamed_eq]
    refine .named (countedForm_map fits.1 fun field hfield => .mk (fits.2 field hfield) ?_)
    exact List.forall_mem_map.mp h field hfield
  | unnamed fields =>
    rw [Fields.toBytes, bytesOfUnnamed_eq]
    exact .unnamed (countedForm_map fits h)
  | none => exact .none

theorem typeForm_taggedEnum {variants : UInt8 → Option (String × Fields)}
    (fits : (SchemaType.taggedEnum variants).Fits)
    (h : ∀ fields, (SchemaType.taggedEnum variants).HasFields fields →
      fields.Fit → FieldsForm Encodes fields.toBytes fields) :
    TypeForm Encodes (SchemaType.taggedEnum variants).toBytes (.taggedEnum variants) := by
  have hcount : (tagEntries variants).length < 2 ^ 32 :=
    Nat.lt_of_le_of_lt (length_tagEntries_le variants) (by decide)
  have hparts : ∀ entry ∈ tagEntries variants, TaggedForm (NamedForm (FieldsForm Encodes))
      (entry.1 :: (nameBytes entry.2.1 ++ entry.2.2.toBytes)) entry := by
    rintro ⟨tag, name, fields⟩ hentry
    have htag := mem_tagEntries.mp hentry
    obtain ⟨hname, hfields⟩ := fits tag name fields htag
    exact .mk (.mk hname (h fields (.taggedEnum htag) hfields))
  -- to look tags up in the entries of a function is to apply the function
  have hform := TypeForm.taggedEnum (countedForm_map hcount hparts) (nodup_tagEntries variants)
  simp only [lookup_tagEntries] at hform
  simp only [SchemaType.toBytes, bytesOfVariant_eq, tagEntries_map, List.map_map]
  exact hform

end Writing

/-- **What is written stands for the type.** -/
theorem encodes_toBytes {type : SchemaType} (h : type.Everywhere SchemaType.Fits) :
    Encodes type.toBytes type := by
  induction type using SchemaType.partInduction with
  | step type ih =>
    have hpart : ∀ part : SchemaType, part.PartOf type → Encodes part.toBytes part :=
      fun part hp => ih part hp (h.part hp)
    have hfields : ∀ fields, type.HasFields fields → fields.Fit →
        FieldsForm Encodes fields.toBytes fields := fun fields hf fits =>
      fieldsForm_toBytes fits fun part hp => hpart part (.field hf hp)
    have fits := h.here
    refine .mk ?_
    cases type with
    | pair left right =>
      rw [SchemaType.toBytes]
      exact .pair (hpart _ (.left ..)) (hpart _ (.right ..))
    | list size item =>
      rw [SchemaType.toBytes]
      exact .list size (hpart _ (.listItem ..))
    | set size item =>
      rw [SchemaType.toBytes]
      exact .set size (hpart _ (.setItem ..))
    | map size key value =>
      rw [SchemaType.toBytes]
      exact .map size (hpart _ (.key ..)) (hpart _ (.value ..))
    | array length item =>
      rw [SchemaType.toBytes]
      exact .array length (hpart _ (.arrayItem ..))
    | struct fields =>
      rw [SchemaType.toBytes]
      exact .struct (hfields fields (.struct fields) fits)
    | enum variants =>
      rw [SchemaType.toBytes, bytesOfVariants_eq]
      refine .enum (countedForm_map fits.1 fun variant hv => ?_)
      obtain ⟨hname, hfit⟩ := fits.2 variant hv
      exact .mk hname (hfields variant.2 (.enum hv) hfit)
    | taggedEnum variants => exact typeForm_taggedEnum fits hfields
    | _ =>
      rw [SchemaType.toBytes]
      constructor

section Bounds

variable {P : Language SchemaType} {bytes : List UInt8}

theorem FieldsForm.fit {fields : Fields} (h : FieldsForm P bytes fields) : fields.Fit := by
  cases h with
  | named h =>
    refine ⟨h.length_lt, fun field hfield => ?_⟩
    obtain ⟨b, hnamed⟩ := h.exists_element hfield
    exact hnamed.nameFits
  | unnamed h => exact h.length_lt
  | none => exact trivial

theorem TypeForm.fits {type : SchemaType} (h : TypeForm P bytes type) : type.Fits := by
  cases h with
  | struct h => exact h.fit
  | enum h =>
    refine ⟨h.length_lt, fun variant hvariant => ?_⟩
    obtain ⟨b, hnamed⟩ := h.exists_element hvariant
    obtain ⟨c, hfields⟩ := hnamed.exists_value
    exact ⟨hnamed.nameFits, hfields.fit⟩
  | taggedEnum h distinct =>
    intro tag name fields htag
    obtain ⟨b, htagged⟩ := h.exists_element ((lookup_eq_some_iff_mem distinct).mp htag)
    obtain ⟨c, hnamed⟩ := htagged.exists_value
    obtain ⟨d, hfields⟩ := hnamed.exists_value
    exact ⟨hnamed.nameFits, hfields.fit⟩
  | _ => exact trivial

end Bounds

/-- **The types with bytes** are those in which names and counts fit at every level. -/
theorem exists_encodes_iff {type : SchemaType} :
    (∃ bytes, Encodes bytes type) ↔ type.Everywhere SchemaType.Fits := by
  constructor
  · rintro ⟨bytes, h⟩
    induction type using SchemaType.partInduction generalizing bytes with
    | step type ih =>
      obtain ⟨h⟩ := h
      refine SchemaType.everywhere_iff.mpr ⟨h.fits, fun part hpart => ?_⟩
      obtain ⟨b, hb⟩ := h.exists_part hpart
      exact ih part hpart b hb
  · exact fun h => ⟨type.toBytes, encodes_toBytes h⟩

end ContractSchema
