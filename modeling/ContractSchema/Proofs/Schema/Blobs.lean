import ContractSchema.Proofs.Schema.Exactness
import ContractSchema.Schema.Blob

/-!
# Blobs of types

A blob describes a type if it holds the bytes of the type
(`ContractSchema.SchemaBlob.parse_eq_ok`). Names and counts have to fit into four bytes at
every level for that, but it is enough that the bytes are not too many as a whole
(`ContractSchema.everywhere_fits_of_length`). For all that is counted is written down, so the
bytes of a part are among those of the type, and there are no more fields and variants
than bytes.
-/

namespace ContractSchema

/-! ### Bytes among bytes -/

section Size

variable {α : Type}

theorem nameFits_of_isInfix {name : String} {bytes : List UInt8} (h : nameBytes name <:+: bytes)
    (hlength : bytes.length < 2 ^ 32) : NameFits name := by
  have hle := h.length_le
  have hsize : name.toByteArray.data.toList.length = name.utf8ByteSize := rfl
  rw [nameBytes, List.length_append, hsize] at hle
  rw [NameFits]
  omega

/-- Things are not more than the bytes written for them. -/
theorem length_le_length_flatten {write : α → List UInt8} (hwrite : ∀ a, write a ≠ [])
    (elements : List α) : elements.length ≤ (elements.map write).flatten.length := by
  induction elements with
  | nil => exact Nat.zero_le _
  | cons a elements ih =>
    have hpos : 0 < (write a).length := List.length_pos_iff.mpr (hwrite a)
    rw [List.map_cons, List.flatten_cons, List.length_append, List.length_cons]
    omega

/-- The bytes of each thing are there, behind a tag and a count. -/
theorem infix_of_mem (write : α → List UInt8) {elements : List α} {a : α} (h : a ∈ elements)
    (tag : UInt8) (count : List UInt8) :
    write a <:+: tag :: (count ++ (elements.map write).flatten) :=
  (List.infix_of_mem_flatten (List.mem_map_of_mem h)).trans
    ((List.suffix_append ..).trans (List.suffix_cons ..)).isInfix

theorem toBytes_ne_nil (type : SchemaType) : type.toBytes ≠ [] := by
  cases type <;> simp [SchemaType.toBytes]

theorem nameBytes_append_ne_nil (name : String) (bytes : List UInt8) :
    nameBytes name ++ bytes ≠ [] := by
  simp [nameBytes]

theorem infix_of_field {fields : List (String × SchemaType)} {name : String} {type : SchemaType}
    (h : (name, type) ∈ fields) :
    nameBytes name ++ type.toBytes <:+: (Fields.named fields).toBytes := by
  rw [Fields.toBytes, bytesOfNamed_eq]
  exact infix_of_mem (fun field => nameBytes field.1 ++ field.2.toBytes) h _ _

theorem infix_of_variant {variants : List (String × Fields)} {name : String} {fields : Fields}
    (h : (name, fields) ∈ variants) :
    nameBytes name ++ fields.toBytes <:+: (SchemaType.enum variants).toBytes := by
  rw [SchemaType.toBytes, bytesOfVariants_eq]
  exact infix_of_mem (fun variant => nameBytes variant.1 ++ variant.2.toBytes) h _ _

theorem infix_of_taggedVariant {variants : UInt8 → Option (String × Fields)} {tag : UInt8}
    {name : String} {fields : Fields} (h : variants tag = some (name, fields)) :
    nameBytes name ++ fields.toBytes <:+: (SchemaType.taggedEnum variants).toBytes := by
  simp only [SchemaType.toBytes, bytesOfVariant_eq, tagEntries_map, List.map_map]
  exact (List.suffix_cons ..).isInfix.trans (infix_of_mem
    (fun entry => entry.1 :: (nameBytes entry.2.1 ++ entry.2.2.toBytes)) (mem_tagEntries.mpr h) _ _)

theorem infix_of_mem_types {fields : Fields} {part : SchemaType} (h : part ∈ fields.types) :
    part.toBytes <:+: fields.toBytes := by
  cases fields with
  | named fields =>
    obtain ⟨field, hfield, rfl⟩ := List.mem_map.mp h
    exact (List.suffix_append ..).isInfix.trans (infix_of_field hfield)
  | unnamed fields =>
    rw [Fields.toBytes, bytesOfUnnamed_eq]
    exact infix_of_mem SchemaType.toBytes h _ _
  | none => exact absurd h List.not_mem_nil

/-- **The bytes of a part** are among those of the type. -/
theorem infix_of_partOf {type part : SchemaType} (h : part.PartOf type) :
    part.toBytes <:+: type.toBytes := by
  cases h with
  | left left right =>
    rw [SchemaType.toBytes]
    exact (List.prefix_append ..).isInfix.trans (List.suffix_cons ..).isInfix
  | right left right =>
    rw [SchemaType.toBytes]
    exact ((List.suffix_append ..).trans (List.suffix_cons ..)).isInfix
  | listItem size item | setItem size item =>
    rw [SchemaType.toBytes]
    exact ((List.suffix_cons ..).trans (List.suffix_cons ..)).isInfix
  | key size key value =>
    rw [SchemaType.toBytes]
    exact (List.prefix_append ..).isInfix.trans
      ((List.suffix_cons ..).trans (List.suffix_cons ..)).isInfix
  | value size key value =>
    rw [SchemaType.toBytes]
    exact (((List.suffix_append ..).trans (List.suffix_cons ..)).trans
      (List.suffix_cons ..)).isInfix
  | arrayItem length item =>
    rw [SchemaType.toBytes]
    exact ((List.suffix_append ..).trans (List.suffix_cons ..)).isInfix
  | field hf hpart =>
    refine (infix_of_mem_types hpart).trans ?_
    cases hf with
    | struct fields =>
      rw [SchemaType.toBytes]
      exact (List.suffix_cons ..).isInfix
    | enum h => exact (List.suffix_append ..).isInfix.trans (infix_of_variant h)
    | taggedEnum h => exact (List.suffix_append ..).isInfix.trans (infix_of_taggedVariant h)

/-! ### Bounds on everything -/

theorem Fields.fit_of_length {fields : Fields} (h : fields.toBytes.length < 2 ^ 32) :
    fields.Fit := by
  cases fields with
  | named fields =>
    have hnames : ∀ field ∈ fields, NameFits field.1 := fun field hfield =>
      nameFits_of_isInfix ((List.prefix_append ..).isInfix.trans (infix_of_field hfield)) h
    have hcount := length_le_length_flatten
      (fun field : String × SchemaType => nameBytes_append_ne_nil field.1 field.2.toBytes) fields
    rw [Fields.toBytes, bytesOfNamed_eq, List.length_cons, List.length_append] at h
    exact ⟨by omega, hnames⟩
  | unnamed fields =>
    have hcount := length_le_length_flatten toBytes_ne_nil fields
    rw [Fields.toBytes, bytesOfUnnamed_eq, List.length_cons, List.length_append] at h
    rw [Fields.Fit]
    omega
  | none => trivial

theorem SchemaType.fits_of_length {type : SchemaType} (h : type.toBytes.length < 2 ^ 32) :
    type.Fits := by
  have hvariant : ∀ {name} {fields : Fields}, nameBytes name ++ fields.toBytes <:+: type.toBytes →
      NameFits name ∧ fields.Fit := fun hin =>
    ⟨nameFits_of_isInfix ((List.prefix_append ..).isInfix.trans hin) h, Fields.fit_of_length
      (Nat.lt_of_le_of_lt ((List.suffix_append ..).isInfix.trans hin).length_le h)⟩
  cases type with
  | struct fields =>
    rw [SchemaType.toBytes, List.length_cons] at h
    exact Fields.fit_of_length (Nat.lt_of_succ_lt h)
  | enum variants =>
    have hcount := length_le_length_flatten
      (fun variant : String × Fields => nameBytes_append_ne_nil variant.1 variant.2.toBytes)
      variants
    refine ⟨?_, fun _ hv => hvariant (infix_of_variant hv)⟩
    rw [SchemaType.toBytes, bytesOfVariants_eq, List.length_cons, List.length_append] at h
    omega
  | taggedEnum variants => exact fun _ _ _ hv => hvariant (infix_of_taggedVariant hv)
  | _ => trivial

/-- **A type with fewer than `2 ^ 32` bytes** has names and counts that fit at every level. -/
theorem everywhere_fits_of_length {type : SchemaType} (h : type.toBytes.length < 2 ^ 32) :
    type.Everywhere SchemaType.Fits := by
  induction type using SchemaType.partInduction with
  | step type ih =>
    exact SchemaType.everywhere_iff.mpr ⟨SchemaType.fits_of_length h, fun part hpart =>
      ih part hpart (Nat.lt_of_le_of_lt (infix_of_partOf hpart).length_le h)⟩

end Size

/-! ### Blobs -/

/-- **A blob of the bytes of a type** describes it, if it is not nested too deeply. -/
theorem SchemaBlob.parse_eq_ok {blob : SchemaBlob} {type : SchemaType}
    (h : blob.toBytes.toOption = some type.toBytes) (hlength : type.toBytes.length < 2 ^ 32)
    (hdepth : type.depth ≤ maxTypeDepth) : blob.parse = .ok type := by
  rcases hbytes : blob.toBytes with error | bytes
  · rw [hbytes] at h
    exact absurd h (by simp [Except.toOption])
  · rw [hbytes] at h
    obtain rfl : bytes = type.toBytes := Option.some.inj h
    rw [SchemaBlob.parse, hbytes]
    exact ofBytes_eq_ok_iff.mpr ⟨encodes_toBytes (everywhere_fits_of_length hlength), hdepth⟩

end ContractSchema
