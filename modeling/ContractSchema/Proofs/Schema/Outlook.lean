import ContractSchema.Proofs.Schema.Grammar

/-!
# What a schema goes on with

Bytes may be the beginning of a binary schema and end anywhere in it. What has to come next
is then known: a type or fields with their tags, a number, a name
(`ContractSchema.Awaited`). An **outlook** tells what is awaited behind which bytes. Outlooks
are built in the same layers as the grammar, each of them from the outlook of the parts
and from the language of those parts that are complete
(`ContractSchema.TypeOutlook`).

There are as many layers as types may be nested inside each other, and behind the last of
them a type is awaited that may not be there at all. Each layer puts at least its tag in
front of its parts, so this place is not near the beginning
(`ContractSchema.length_of_awaits_too_deep`).
-/

namespace ContractSchema

/-- **What is to come next** in a binary schema. -/
inductive Awaited
  /-- A type, of which the given number may be nested inside each other. -/
  | type (levels : Nat)
  /-- Fields. -/
  | fields
  /-- A variant with a tag. -/
  | variant
  /-- The width of a length. -/
  | width
  /-- A number. -/
  | number
  /-- A name, with its length in front. -/
  | name
deriving DecidableEq, Repr

/-- How many bytes tell what it is that comes: a tag of one byte, or a number of four, which in
front of a name is its length. -/
def Awaited.size : Awaited → Nat
  | .type _ | .fields | .variant | .width => 1
  | .number | .name => 4

/-- **Which things are awaited behind which bytes.** -/
abbrev Outlook : Type :=
  List UInt8 → Awaited → Prop

/-! ### Layers -/

/-- What a thing with a name goes on with. -/
inductive NamedOutlook (value : Outlook) : Outlook
  /-- The name is to come. -/
  | name : NamedOutlook value [] .name
  /-- The name is there. -/
  | value {name : String} {bytes : List UInt8} {next : Awaited} (fits : name.utf8ByteSize < 2 ^ 32)
      (h : value bytes next) : NamedOutlook value (nameBytes name ++ bytes) next

/-- What a thing with a tag goes on with. -/
inductive TaggedOutlook (value : Outlook) : Outlook
  /-- The tag is to come. -/
  | tag : TaggedOutlook value [] .variant
  /-- The tag is there. -/
  | value {tag : UInt8} {bytes : List UInt8} {next : Awaited} (h : value bytes next) :
      TaggedOutlook value (tag :: bytes) next

/-- What things in a row go on with. -/
inductive CountedOutlook {α : Type} (element : Language α) (inside : Outlook) : Outlook
  /-- The number of the things is to come. -/
  | count : CountedOutlook element inside [] .number
  /-- Some of the things are there, but not all of them. -/
  | element {count : Nat} {parts : List (List UInt8)} {elements : List α} {bytes : List UInt8}
      {next : Awaited} (fits : count < 2 ^ 32) (more : elements.length < count)
      (complete : List.Forall₂ element parts elements) (h : inside bytes next) :
      CountedOutlook element inside (littleEndianBytes 4 count ++ (parts.flatten ++ bytes)) next

/-- **What fields go on with**, given what stands for a type and what types go on with. -/
inductive FieldsOutlook (part : Language SchemaType) (inside : Outlook) : Outlook
  /-- The tag is to come. -/
  | tag : FieldsOutlook part inside [] .fields
  /-- Fields with names. -/
  | named {bytes : List UInt8} {next : Awaited}
      (h : CountedOutlook (NamedForm part) (NamedOutlook inside) bytes next) :
      FieldsOutlook part inside (0 :: bytes) next
  /-- Fields without names. -/
  | unnamed {bytes : List UInt8} {next : Awaited} (h : CountedOutlook part inside bytes next) :
      FieldsOutlook part inside (1 :: bytes) next

/-- **What a type goes on with**, given what stands for its parts and what these go on with;
`levels` types may be nested inside it. -/
inductive TypeOutlook (levels : Nat) (part : Language SchemaType) (inside : Outlook) : Outlook
  /-- The tag is to come. -/
  | tag : TypeOutlook levels part inside [] (.type (levels + 1))
  /-- The left half of a pair. -/
  | left {bytes : List UInt8} {next : Awaited} (h : inside bytes next) :
      TypeOutlook levels part inside (0x0f :: bytes) next
  /-- The right half of a pair. -/
  | right {b bytes : List UInt8} {left : SchemaType} {next : Awaited} (complete : part b left)
      (h : inside bytes next) : TypeOutlook levels part inside (0x0f :: (b ++ bytes)) next
  /-- The width of a length: of a list, a set, a map, a text, a name or a byte string. -/
  | width {tag : UInt8} (h : tag ∈ [0x10, 0x11, 0x12, 0x16, 0x19, 0x1a, (0x1d : UInt8)]) :
      TypeOutlook levels part inside [tag] .width
  /-- The items of a list or a set, or the keys of a map. -/
  | item {tag : UInt8} {bytes : List UInt8} {next : Awaited} (size : SizeLength)
      (htag : tag ∈ [0x10, 0x11, (0x12 : UInt8)]) (h : inside bytes next) :
      TypeOutlook levels part inside (tag :: size.tag :: bytes) next
  /-- The values of a map. -/
  | value {b bytes : List UInt8} {key : SchemaType} {next : Awaited} (size : SizeLength)
      (complete : part b key) (h : inside bytes next) :
      TypeOutlook levels part inside (0x12 :: size.tag :: (b ++ bytes)) next
  /-- The length of an array or of a byte string, or the number of groups of an integer. -/
  | number {tag : UInt8} (h : tag ∈ [0x13, 0x1b, 0x1c, (0x1e : UInt8)]) :
      TypeOutlook levels part inside [tag] .number
  /-- The items of an array. -/
  | arrayItem {bytes : List UInt8} {next : Awaited} (length : UInt32) (h : inside bytes next) :
      TypeOutlook levels part inside (0x13 :: (littleEndianBytes 4 length.toNat ++ bytes)) next
  /-- The fields of a struct. -/
  | struct {bytes : List UInt8} {next : Awaited} (h : FieldsOutlook part inside bytes next) :
      TypeOutlook levels part inside (0x14 :: bytes) next
  /-- The variants of an enum. -/
  | enum {bytes : List UInt8} {next : Awaited}
      (h : CountedOutlook (NamedForm (FieldsForm part)) (NamedOutlook (FieldsOutlook part inside))
        bytes next) : TypeOutlook levels part inside (0x15 :: bytes) next
  /-- The variants of a tagged enum. -/
  | taggedEnum {bytes : List UInt8} {next : Awaited}
      (h : CountedOutlook (TaggedForm (NamedForm (FieldsForm part)))
        (TaggedOutlook (NamedOutlook (FieldsOutlook part inside))) bytes next) :
      TypeOutlook levels part inside (0x1f :: bytes) next

/-- **What a type goes on with**, if the given number of types may be nested inside each
other. -/
def typeOutlook : Nat → Outlook
  | 0 => fun bytes next => bytes = [] ∧ next = .type 0
  | levels + 1 => TypeOutlook levels
      (fun bytes type => Encodes bytes type ∧ type.depth ≤ levels) (typeOutlook levels)

/-! ### Types nested too deeply -/

section Depth

variable {part : Language SchemaType} {inside : Outlook} {bytes : List UInt8} {levels : Nat}

theorem NamedOutlook.exists_value (h : NamedOutlook inside bytes (.type levels)) :
    ∃ b, b <:+ bytes ∧ inside b (.type levels) := by
  cases h with
  | value _ h => exact ⟨_, List.suffix_append .., h⟩

theorem TaggedOutlook.exists_value (h : TaggedOutlook inside bytes (.type levels)) :
    ∃ b, b <:+ bytes ∧ inside b (.type levels) := by
  cases h with
  | value h => exact ⟨_, List.suffix_cons .., h⟩

theorem CountedOutlook.exists_element {α : Type} {element : Language α}
    (h : CountedOutlook element inside bytes (.type levels)) :
    ∃ b, b <:+ bytes ∧ inside b (.type levels) := by
  cases h with
  | element _ _ _ h =>
    exact ⟨_, (List.suffix_append ..).trans (List.suffix_append ..), h⟩

theorem FieldsOutlook.exists_type (h : FieldsOutlook part inside bytes (.type levels)) :
    ∃ b, b <:+ bytes ∧ inside b (.type levels) := by
  cases h with
  | named h =>
    obtain ⟨b, hb, h⟩ := h.exists_element
    obtain ⟨c, hc, h⟩ := h.exists_value
    exact ⟨c, (hc.trans hb).trans (List.suffix_cons ..), h⟩
  | unnamed h =>
    obtain ⟨b, hb, h⟩ := h.exists_element
    exact ⟨b, hb.trans (List.suffix_cons ..), h⟩

/-- Where a type is awaited behind the tag of another one, a part of that is to come. -/
theorem TypeOutlook.exists_part {tag : UInt8} {n : Nat}
    (h : TypeOutlook levels part inside (tag :: bytes) (.type n)) :
    ∃ b, b <:+ bytes ∧ inside b (.type n) := by
  cases h with
  | left h => exact ⟨_, List.suffix_rfl, h⟩
  | right _ h => exact ⟨_, List.suffix_append .., h⟩
  | item _ _ h => exact ⟨_, List.suffix_cons .., h⟩
  | value _ _ h => exact ⟨_, (List.suffix_append ..).trans (List.suffix_cons ..), h⟩
  | arrayItem _ h => exact ⟨_, List.suffix_append .., h⟩
  | struct h => exact h.exists_type
  | enum h =>
    obtain ⟨b, hb, h⟩ := h.exists_element
    obtain ⟨c, hc, h⟩ := h.exists_value
    obtain ⟨d, hd, h⟩ := h.exists_type
    exact ⟨d, (hd.trans hc).trans hb, h⟩
  | taggedEnum h =>
    obtain ⟨b, hb, h⟩ := h.exists_element
    obtain ⟨c, hc, h⟩ := h.exists_value
    obtain ⟨d, hd, h⟩ := h.exists_value
    obtain ⟨e, he, h⟩ := h.exists_type
    exact ⟨e, ((he.trans hd).trans hc).trans hb, h⟩

/-- **A type that may not be there** is awaited behind as many bytes at least as types may be
nested. -/
theorem length_of_awaits_too_deep (h : typeOutlook levels bytes (.type 0)) :
    levels ≤ bytes.length := by
  induction levels generalizing bytes with
  | zero => exact Nat.zero_le _
  | succ levels ih =>
    rcases bytes with _ | ⟨tag, bytes⟩
    · cases h
    · obtain ⟨b, hb, hinside⟩ := TypeOutlook.exists_part h
      have hle : levels ≤ b.length := ih hinside
      have hsuffix : b.length ≤ bytes.length := hb.length_le
      rw [List.length_cons]
      omega

end Depth

end ContractSchema
