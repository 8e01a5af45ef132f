import ContractSchema.Bytes
import ContractSchema.Proofs.Lists
import ContractSchema.Proofs.Schema.Parts
import ContractSchema.Proofs.Steps
import Mathlib.Algebra.Group.Nat.Defs
import Mathlib.Data.List.Forall2

/-!
# The grammar of binary schemas

Which bytes are a binary schema, and of which type, is said here without a reader. The
language of types is built in layers: what may stand for a type is described in terms of
what may stand for its parts (`ContractSchema.TypeForm`), and `ContractSchema.Encodes` ties
the knot.

Every type begins with a tag of one byte. Numbers and counts take four bytes and are
little-endian, names are preceded by the number of their bytes. The variants of a tagged
enum stand in any order, but no two of them have the same tag; the type is a function on
tags and does not remember the order.

A layer only asks about the parts of the type it describes
(`ContractSchema.TypeForm.imp`, `ContractSchema.TypeForm.exists_part`). Bounding the depth
of the parts therefore bounds the depth of the whole
(`ContractSchema.typeForm_depth_iff`), and this is how the limit of a reader enters the
grammar.
-/

namespace ContractSchema

/-- The byte that stands for the width of a length. -/
def SizeLength.tag : SizeLength → UInt8
  | .u8 => 0
  | .u16 => 1
  | .u32 => 2
  | .u64 => 3

/-- The bytes of a name: the number of its bytes in UTF-8, and these. -/
def nameBytes (name : String) : List UInt8 :=
  littleEndianBytes 4 name.utf8ByteSize ++ name.toByteArray.data.toList

/-- A thing with a name. The length of the name fits into four bytes. -/
inductive NamedForm {α : Type} (value : Language α) : Language (String × α)
  /-- The name, and the thing behind it. -/
  | mk {name : String} {bytes : List UInt8} {a : α} (fits : name.utf8ByteSize < 2 ^ 32)
      (h : value bytes a) : NamedForm value (nameBytes name ++ bytes) (name, a)

/-- A thing with a tag. -/
inductive TaggedForm {α : Type} (value : Language α) : Language (UInt8 × α)
  /-- The tag, and the thing behind it. -/
  | mk {tag : UInt8} {bytes : List UInt8} {a : α} (h : value bytes a) :
      TaggedForm value (tag :: bytes) (tag, a)

/-- Things in a row. Their number fits into four bytes. -/
inductive CountedForm {α : Type} (element : Language α) : Language (List α)
  /-- The number of the things, and one after the other. -/
  | mk {parts : List (List UInt8)} {elements : List α} (fits : elements.length < 2 ^ 32)
      (h : List.Forall₂ element parts elements) :
      CountedForm element (littleEndianBytes 4 elements.length ++ parts.flatten) elements

/-- **One layer of the grammar of fields**, given what stands for a type. -/
inductive FieldsForm (type : Language SchemaType) : Language Fields
  /-- Fields with names. -/
  | named {bytes : List UInt8} {fields : List (String × SchemaType)}
      (h : CountedForm (NamedForm type) bytes fields) : FieldsForm type (0 :: bytes) (.named fields)
  /-- Fields without names. -/
  | unnamed {bytes : List UInt8} {fields : List SchemaType} (h : CountedForm type bytes fields) :
      FieldsForm type (1 :: bytes) (.unnamed fields)
  /-- No fields. -/
  | none : FieldsForm type [2] .none

/-- **One layer of the grammar of types**, given what stands for their parts: the table of
tags. -/
inductive TypeForm (part : Language SchemaType) : Language SchemaType
  /-- Nothing follows the tag of `unit`. -/
  | unit : TypeForm part [0x00] .unit
  /-- Nothing follows the tag of `bool`. -/
  | bool : TypeForm part [0x01] .bool
  /-- Nothing follows the tag of `u8`. -/
  | u8 : TypeForm part [0x02] .u8
  /-- Nothing follows the tag of `u16`. -/
  | u16 : TypeForm part [0x03] .u16
  /-- Nothing follows the tag of `u32`. -/
  | u32 : TypeForm part [0x04] .u32
  /-- Nothing follows the tag of `u64`. -/
  | u64 : TypeForm part [0x05] .u64
  /-- Nothing follows the tag of `i8`. -/
  | i8 : TypeForm part [0x06] .i8
  /-- Nothing follows the tag of `i16`. -/
  | i16 : TypeForm part [0x07] .i16
  /-- Nothing follows the tag of `i32`. -/
  | i32 : TypeForm part [0x08] .i32
  /-- Nothing follows the tag of `i64`. -/
  | i64 : TypeForm part [0x09] .i64
  /-- Nothing follows the tag of an amount. -/
  | amount : TypeForm part [0x0a] .amount
  /-- Nothing follows the tag of the address of an account. -/
  | accountAddress : TypeForm part [0x0b] .accountAddress
  /-- Nothing follows the tag of the address of a contract. -/
  | contractAddress : TypeForm part [0x0c] .contractAddress
  /-- Nothing follows the tag of a point in time. -/
  | timestamp : TypeForm part [0x0d] .timestamp
  /-- Nothing follows the tag of a span of time. -/
  | duration : TypeForm part [0x0e] .duration
  /-- A pair: both halves. -/
  | pair {b c : List UInt8} {left right : SchemaType} (hleft : part b left)
      (hright : part c right) : TypeForm part (0x0f :: (b ++ c)) (.pair left right)
  /-- A list: the width of its length, and the items. -/
  | list {b : List UInt8} {item : SchemaType} (size : SizeLength) (h : part b item) :
      TypeForm part (0x10 :: size.tag :: b) (.list size item)
  /-- A set: the width of its length, and the items. -/
  | set {b : List UInt8} {item : SchemaType} (size : SizeLength) (h : part b item) :
      TypeForm part (0x11 :: size.tag :: b) (.set size item)
  /-- A map: the width of its length, the keys, and the values. -/
  | map {b c : List UInt8} {key value : SchemaType} (size : SizeLength) (hkey : part b key)
      (hvalue : part c value) : TypeForm part (0x12 :: size.tag :: (b ++ c)) (.map size key value)
  /-- An array: its length, and the items. -/
  | array {b : List UInt8} {item : SchemaType} (length : UInt32) (h : part b item) :
      TypeForm part (0x13 :: (littleEndianBytes 4 length.toNat ++ b)) (.array length item)
  /-- A struct: its fields. -/
  | struct {b : List UInt8} {fields : Fields} (h : FieldsForm part b fields) :
      TypeForm part (0x14 :: b) (.struct fields)
  /-- An enum: its variants, each with its name and its fields. -/
  | enum {b : List UInt8} {variants : List (String × Fields)}
      (h : CountedForm (NamedForm (FieldsForm part)) b variants) :
      TypeForm part (0x15 :: b) (.enum variants)
  /-- A text: the width of its length. -/
  | string (size : SizeLength) : TypeForm part [0x16, size.tag] (.string size)
  /-- Nothing follows the tag of `u128`. -/
  | u128 : TypeForm part [0x17] .u128
  /-- Nothing follows the tag of `i128`. -/
  | i128 : TypeForm part [0x18] .i128
  /-- The name of a contract: the width of its length. -/
  | contractName (size : SizeLength) : TypeForm part [0x19, size.tag] (.contractName size)
  /-- The name of a receive function: the width of its length. -/
  | receiveName (size : SizeLength) : TypeForm part [0x1a, size.tag] (.receiveName size)
  /-- An unsigned integer in groups: how many there are at most. -/
  | uLeb128 (maxBytes : UInt32) :
      TypeForm part (0x1b :: littleEndianBytes 4 maxBytes.toNat) (.uLeb128 maxBytes)
  /-- A signed integer in groups: how many there are at most. -/
  | iLeb128 (maxBytes : UInt32) :
      TypeForm part (0x1c :: littleEndianBytes 4 maxBytes.toNat) (.iLeb128 maxBytes)
  /-- A byte string: the width of its length. -/
  | byteList (size : SizeLength) : TypeForm part [0x1d, size.tag] (.byteList size)
  /-- A byte string of a fixed length: this length. -/
  | byteArray (length : UInt32) :
      TypeForm part (0x1e :: littleEndianBytes 4 length.toNat) (.byteArray length)
  /-- A tagged enum: its variants in any order, each with its tag, its name and its fields. -/
  | taggedEnum {b : List UInt8} {variants : List (UInt8 × String × Fields)}
      (h : CountedForm (TaggedForm (NamedForm (FieldsForm part))) b variants)
      (distinct : (variants.map (·.1)).Nodup) :
      TypeForm part (0x1f :: b) (.taggedEnum fun tag => variants.lookup tag)

/-- **The grammar of types**: the bytes that stand for a type. -/
inductive Encodes : Language SchemaType
  /-- A layer, whose parts are bytes that stand for types. -/
  | mk {bytes : List UInt8} {type : SchemaType} (h : TypeForm Encodes bytes type) :
      Encodes bytes type

/-! ### Languages of lists -/

section Lists

variable {α : Type} {L L' : Language α}

theorem NamedForm.imp {bytes : List UInt8} {named : String × α} (h : NamedForm L bytes named)
    (himp : ∀ b, L b named.2 → L' b named.2) : NamedForm L' bytes named := by
  obtain ⟨fits, h⟩ := h
  exact .mk fits (himp _ h)

theorem TaggedForm.imp {bytes : List UInt8} {tagged : UInt8 × α} (h : TaggedForm L bytes tagged)
    (himp : ∀ b, L b tagged.2 → L' b tagged.2) : TaggedForm L' bytes tagged := by
  obtain ⟨h⟩ := h
  exact .mk (himp _ h)

theorem CountedForm.imp {bytes : List UInt8} {elements : List α} (h : CountedForm L bytes elements)
    (himp : ∀ b, ∀ a ∈ elements, L b a → L' b a) : CountedForm L' bytes elements := by
  obtain ⟨fits, h⟩ := h
  exact .mk fits (forall₂_imp_of_mem h himp)

theorem NamedForm.exists_value {bytes : List UInt8} {named : String × α}
    (h : NamedForm L bytes named) : ∃ b, L b named.2 := by
  obtain ⟨-, h⟩ := h
  exact ⟨_, h⟩

theorem TaggedForm.exists_value {bytes : List UInt8} {tagged : UInt8 × α}
    (h : TaggedForm L bytes tagged) : ∃ b, L b tagged.2 := by
  obtain ⟨h⟩ := h
  exact ⟨_, h⟩

theorem CountedForm.exists_element {bytes : List UInt8} {elements : List α}
    (h : CountedForm L bytes elements) {a : α} (ha : a ∈ elements) : ∃ b, L b a := by
  obtain ⟨-, h⟩ := h
  exact exists_of_forall₂ h ha

end Lists

/-! ### A layer and its parts -/

section Layers

variable {P Q : Language SchemaType} {bytes : List UInt8}

theorem FieldsForm.imp {fields : Fields} (h : FieldsForm P bytes fields)
    (himp : ∀ b, ∀ type ∈ fields.types, P b type → Q b type) : FieldsForm Q bytes fields := by
  cases h with
  | named h =>
    refine .named (h.imp fun b field hfield hnamed => hnamed.imp fun c hc => ?_)
    exact himp c field.2 (List.mem_map.mpr ⟨field, hfield, rfl⟩) hc
  | unnamed h => exact .unnamed (h.imp himp)
  | none => exact .none

theorem FieldsForm.exists_type {fields : Fields} (h : FieldsForm P bytes fields)
    {type : SchemaType} (htype : type ∈ fields.types) : ∃ b, P b type := by
  cases h with
  | named h =>
    obtain ⟨field, hfield, rfl⟩ := List.mem_map.mp htype
    obtain ⟨b, hb⟩ := h.exists_element hfield
    exact hb.exists_value
  | unnamed h => exact h.exists_element htype
  | none => exact absurd htype List.not_mem_nil

variable {type : SchemaType}

/-- **A layer may be carried over to another language of parts**, as far as the parts of its
type go. -/
theorem TypeForm.imp (h : TypeForm P bytes type)
    (himp : ∀ b, ∀ part : SchemaType, part.PartOf type → P b part → Q b part) :
    TypeForm Q bytes type := by
  have hfields : ∀ (fields : Fields) (b : List UInt8), type.HasFields fields →
      FieldsForm P b fields → FieldsForm Q b fields := fun fields b hf hform =>
    hform.imp fun c part hpart => himp c part (.field hf hpart)
  cases h with
  | pair hleft hright => exact .pair (himp _ _ (.left ..) hleft) (himp _ _ (.right ..) hright)
  | list size h => exact .list size (himp _ _ (.listItem ..) h)
  | set size h => exact .set size (himp _ _ (.setItem ..) h)
  | map size hkey hvalue =>
    exact .map size (himp _ _ (.key ..) hkey) (himp _ _ (.value ..) hvalue)
  | array length h => exact .array length (himp _ _ (.arrayItem ..) h)
  | struct h => exact .struct (hfields _ _ (.struct _) h)
  | enum h =>
    exact .enum (h.imp fun b variant hvariant hnamed => hnamed.imp fun c =>
      hfields _ c (.enum hvariant))
  | taggedEnum h distinct =>
    refine .taggedEnum (h.imp fun b ⟨tag, name, fields⟩ hvariant htagged => ?_) distinct
    -- what is listed with a tag is what the type assigns to it, as no tag is listed twice
    have hlookup := (lookup_eq_some_iff_mem distinct).mpr hvariant
    exact htagged.imp fun c hnamed => hnamed.imp fun d => hfields _ d (.taggedEnum hlookup)
  | _ => constructor

/-- **Every part has its bytes** in a layer. -/
theorem TypeForm.exists_part (h : TypeForm P bytes type) {part : SchemaType}
    (hpart : part.PartOf type) : ∃ b, P b part := by
  cases hpart with
  | field hf hpart =>
    cases hf with
    | struct fields =>
      cases h with
      | struct h => exact h.exists_type hpart
    | enum hvariant =>
      cases h with
      | enum h =>
        obtain ⟨b, hnamed⟩ := h.exists_element hvariant
        obtain ⟨c, hc⟩ := hnamed.exists_value
        exact hc.exists_type hpart
    | taggedEnum hvariant =>
      cases h with
      | taggedEnum h distinct =>
        obtain ⟨b, htagged⟩ := h.exists_element ((lookup_eq_some_iff_mem distinct).mp hvariant)
        obtain ⟨c, hnamed⟩ := htagged.exists_value
        obtain ⟨d, hd⟩ := hnamed.exists_value
        exact hd.exists_type hpart
  | _ =>
    cases h
    exact ⟨_, ‹_›⟩

/-- A bound on the depth of the parts is one on the depth of the whole. -/
theorem typeForm_depth_iff {d : Nat} :
    TypeForm (fun b part => P b part ∧ part.depth ≤ d) bytes type ↔
      TypeForm P bytes type ∧ type.depth ≤ d + 1 := by
  constructor
  · intro h
    refine ⟨h.imp fun b part _ hpart => hpart.1, ?_⟩
    refine SchemaType.depth_le_of_parts fun part hpart => ?_
    obtain ⟨b, -, hdepth⟩ := h.exists_part hpart
    exact hdepth
  · rintro ⟨h, hdepth⟩
    exact h.imp fun b part hpart hb => ⟨hb, SchemaType.depth_le_succ_iff.mp hdepth part hpart⟩

end Layers

end ContractSchema
