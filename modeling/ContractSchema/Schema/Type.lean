/-!
# Types described by schemas

A schema describes the type of the values that a contract function takes or
returns. Types are built from numbers, addresses, times and texts by pairs, lists,
sets, maps, arrays, structs and enums. The fields of a struct, or of a variant of an
enum, have names, or they have positions only, or there are none at all.

* `ContractSchema.SchemaType` and `ContractSchema.Fields` are the types and the fields.
* `ContractSchema.SizeLength` is the width of the number that says how long a list is.
* `ContractSchema.SchemaType.depth` is how deeply types are nested.
* `ContractSchema.SchemaType.field?`, `ContractSchema.SchemaType.item?`,
  `ContractSchema.SchemaType.variant?` and their relatives look into a type.

A tagged enum assigns a variant to some of the 256 tags, in whatever order they were
listed. It is therefore a function on tags, and two tagged enums with the same
variants are equal.
-/

namespace ContractSchema

/-! ### Widths of lengths -/

/-- **The width of a length** in front of a list or a text. -/
inductive SizeLength
  /-- One byte. -/
  | u8
  /-- Two bytes. -/
  | u16
  /-- Four bytes. -/
  | u32
  /-- Eight bytes. -/
  | u64
deriving DecidableEq, Repr

namespace SizeLength

/-- The number of bytes a length takes. -/
def byteCount : SizeLength → Nat
  | .u8 => 1
  | .u16 => 2
  | .u32 => 4
  | .u64 => 8

/-- The name of a width. -/
def text : SizeLength → String
  | .u8 => "u8"
  | .u16 => "u16"
  | .u32 => "u32"
  | .u64 => "u64"

/-- The width a byte stands for in a binary schema. -/
def ofTag? (tag : UInt8) : Option SizeLength :=
  match tag.toNat with
  | 0 => some .u8
  | 1 => some .u16
  | 2 => some .u32
  | 3 => some .u64
  | _ => none

end SizeLength

/-! ### Types and fields -/

mutual

/-- **The type of values.** -/
inductive SchemaType
  /-- The type with one value. -/
  | unit
  /-- Truth values. -/
  | bool
  /-- Unsigned integers of 8 bits. -/
  | u8
  /-- Unsigned integers of 16 bits. -/
  | u16
  /-- Unsigned integers of 32 bits. -/
  | u32
  /-- Unsigned integers of 64 bits. -/
  | u64
  /-- Unsigned integers of 128 bits. -/
  | u128
  /-- Signed integers of 8 bits. -/
  | i8
  /-- Signed integers of 16 bits. -/
  | i16
  /-- Signed integers of 32 bits. -/
  | i32
  /-- Signed integers of 64 bits. -/
  | i64
  /-- Signed integers of 128 bits. -/
  | i128
  /-- Amounts of the chain's currency. -/
  | amount
  /-- Addresses of accounts. -/
  | accountAddress
  /-- Addresses of contracts. -/
  | contractAddress
  /-- Points in time. -/
  | timestamp
  /-- Spans of time. -/
  | duration
  /-- Pairs. -/
  | pair (left right : SchemaType)
  /-- Lists. -/
  | list (size : SizeLength) (item : SchemaType)
  /-- Sets. -/
  | set (size : SizeLength) (item : SchemaType)
  /-- Maps from keys to values. -/
  | map (size : SizeLength) (key value : SchemaType)
  /-- Lists of a fixed length. -/
  | array (length : UInt32) (item : SchemaType)
  /-- Structs. -/
  | struct (fields : Fields)
  /-- Enums whose variants are numbered in their order. -/
  | enum (variants : List (String × Fields))
  /-- Enums whose variants carry tags. -/
  | taggedEnum (variants : UInt8 → Option (String × Fields))
  /-- Texts. -/
  | string (size : SizeLength)
  /-- Names of contracts. -/
  | contractName (size : SizeLength)
  /-- Names of receive functions. -/
  | receiveName (size : SizeLength)
  /-- Unsigned integers of at most the given number of 7-bit groups. -/
  | uLeb128 (maxBytes : UInt32)
  /-- Signed integers of at most the given number of 7-bit groups. -/
  | iLeb128 (maxBytes : UInt32)
  /-- Byte strings. -/
  | byteList (size : SizeLength)
  /-- Byte strings of a fixed length. -/
  | byteArray (length : UInt32)

/-- **The fields** of a struct or of a variant. -/
inductive Fields
  /-- Fields with names. -/
  | named (fields : List (String × SchemaType))
  /-- Fields with positions only. -/
  | unnamed (fields : List SchemaType)
  /-- No fields. -/
  | none

end

/-! ### Tags -/

/-- The entries of a function on tags, by ascending tag. -/
def tagEntries {α : Type} (f : UInt8 → Option α) : List (UInt8 × α) :=
  (List.range 256).filterMap fun n => (f (UInt8.ofNat n)).map (UInt8.ofNat n, ·)

/-- The greatest value of a function on tags. -/
def maxOverTags (f : UInt8 → Nat) : Nat :=
  (List.range 256).foldl (fun greatest n => max greatest (f (UInt8.ofNat n))) 0

/-- The function on tags which has no entries. -/
def noEntries {α : Type} : UInt8 → Option α :=
  fun _ => none

/-- The function on tags with one entry put in, in place of what was there. -/
def setEntry {α : Type} (tag : UInt8) (entry : α) (f : UInt8 → Option α) : UInt8 → Option α :=
  fun t => if t = tag then some entry else f t

/-! ### Looking into fields -/

namespace Fields

/-- The number of fields. -/
def length : Fields → Nat
  | .named fields => fields.length
  | .unnamed fields => fields.length
  | .none => 0

/-- Whether there are no fields. -/
def isEmpty (fields : Fields) : Bool :=
  fields.length == 0

/-- The names of the fields in their order, if they have names. -/
def names : Fields → List String
  | .named fields => fields.map (·.1)
  | .unnamed _ => []
  | .none => []

/-- The type of the first field with the given name. -/
def get? (fields : Fields) (name : String) : Option SchemaType :=
  match fields with
  | .named fields => fields.lookup name
  | .unnamed _ => Option.none
  | .none => Option.none

end Fields

/-! ### Looking into types -/

namespace SchemaType

/-- The fields of a struct. -/
def fields? : SchemaType → Option Fields
  | .struct fields => some fields
  | _ => none

/-- The type of a field of a struct. -/
def field? (type : SchemaType) (name : String) : Option SchemaType := do
  (← type.fields?).get? name

/-- The type of the items of a list, a set or an array. -/
def item? : SchemaType → Option SchemaType
  | .list _ item => some item
  | .set _ item => some item
  | .array _ item => some item
  | _ => none

/-- The left half of a pair, or the keys of a map. -/
def first? : SchemaType → Option SchemaType
  | .pair left _ => some left
  | .map _ key _ => some key
  | _ => none

/-- The right half of a pair, or the values of a map. -/
def second? : SchemaType → Option SchemaType
  | .pair _ right => some right
  | .map _ _ value => some value
  | _ => none

/-- The variants of an enum in the order of their numbers or tags. -/
def variants : SchemaType → List (String × Fields)
  | .enum variants => variants
  | .taggedEnum variants => (tagEntries variants).map (·.2)
  | _ => []

/-- The names of the variants of an enum. -/
def variantNames (type : SchemaType) : List String :=
  type.variants.map (·.1)

/-- The fields of the first variant with the given name. -/
def variant? (type : SchemaType) (name : String) : Option Fields :=
  type.variants.lookup name

/-- The variant of a tagged enum with the given tag. -/
def taggedVariant? (type : SchemaType) (tag : UInt8) : Option (String × Fields) :=
  match type with
  | .taggedEnum variants => variants tag
  | _ => none

end SchemaType

/-! ### Nesting -/

mutual

/-- **How deeply types are nested**: a type without parts has depth one, and fields add
nothing of their own. -/
def SchemaType.depth : SchemaType → Nat
  | .pair left right => max left.depth right.depth + 1
  | .list _ item => item.depth + 1
  | .set _ item => item.depth + 1
  | .map _ key value => max key.depth value.depth + 1
  | .array _ item => item.depth + 1
  | .struct fields => fields.depth + 1
  | .enum variants => depthOfVariants variants + 1
  | .taggedEnum variants => maxOverTags (fun tag => depthOfVariant (variants tag)) + 1
  | _ => 1

/-- The greatest depth of the types of fields. -/
def Fields.depth : Fields → Nat
  | .named fields => depthOfNamed fields
  | .unnamed fields => depthOfUnnamed fields
  | .none => 0

/-- The greatest depth of the types of fields with names. -/
def depthOfNamed : List (String × SchemaType) → Nat
  | [] => 0
  | (_, type) :: rest => max type.depth (depthOfNamed rest)

/-- The greatest depth of the types of fields without names. -/
def depthOfUnnamed : List SchemaType → Nat
  | [] => 0
  | type :: rest => max type.depth (depthOfUnnamed rest)

/-- The greatest depth of the types in variants. -/
def depthOfVariants : List (String × Fields) → Nat
  | [] => 0
  | (_, fields) :: rest => max fields.depth (depthOfVariants rest)

/-- The greatest depth of the types in a variant, if there is one. -/
def depthOfVariant : Option (String × Fields) → Nat
  | Option.none => 0
  | some (_, fields) => fields.depth

end

end ContractSchema
