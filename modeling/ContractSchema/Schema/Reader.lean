import ContractSchema.Bytes
import ContractSchema.Schema.Error
import ContractSchema.Schema.Type

/-!
# Reading binary schemas

A binary schema is a type in prefix form: a tag of one byte, and behind it whatever
the tag calls for. Numbers are little-endian, names are preceded by their length in
four bytes, and lists of fields or variants by their number in four bytes.

* `ContractSchema.Cursor` is a place in the data: what is left, and how much is behind.
* `ContractSchema.SchemaReader.readType` reads a type, given how many more types may be
  nested inside each other. The nesting is checked before anything is read.
* `ContractSchema.SchemaType.ofBytes` reads a type from data that holds nothing else.

The readers of fields and types are told how to read the number of elements of a
list. Usually that is `ContractSchema.SchemaReader.declaredCount`, the number as it stands
in the data. Since each element takes at least a byte,
`ContractSchema.SchemaReader.cappedCount`, which never promises more elements than bytes
are left by more than one, serves as well.
-/

namespace ContractSchema

/-- The greatest number of types nested inside each other. -/
def maxTypeDepth : Nat := 64

/-- **A place in the data.** -/
structure Cursor where
  /-- The bytes from here on. -/
  rest : List UInt8
  /-- The number of bytes before. -/
  offset : Nat
deriving DecidableEq, Repr

/-- A step of reading: it moves on from a place in the data, or it fails. -/
abbrev SchemaReader (α : Type) : Type :=
  StateT Cursor (Except SchemaError) α

namespace SchemaReader

/-! ### Bytes, numbers and names -/

/-- The place reading has come to, counted from the beginning of the data. -/
def offset : SchemaReader Nat :=
  fun cursor => .ok (cursor.offset, cursor)

/-- Gives up with an error. -/
def fail {α : Type} (error : SchemaError) : SchemaReader α :=
  fun _ => .error error

/-- Reads the given number of bytes, or none at all if fewer are left. -/
def readSlice (count : Nat) : SchemaReader (List UInt8) := fun cursor =>
  match splitExact count cursor.rest with
  | some (bytes, rest) => .ok (bytes, ⟨rest, cursor.offset + count⟩)
  | none => .error (.unexpectedEnd cursor.offset)

/-- Reads one byte. -/
def readU8 : SchemaReader UInt8 := fun cursor =>
  match cursor.rest with
  | byte :: rest => .ok (byte, ⟨rest, cursor.offset + 1⟩)
  | [] => .error (.unexpectedEnd cursor.offset)

/-- Reads a number of four bytes. -/
def readU32 : SchemaReader UInt32 := do
  return UInt32.ofNat (littleEndian (← readSlice 4))

/-- Reads a name. -/
def readString : SchemaReader String := do
  let start ← offset
  let length ← readU32
  let bytes ← readSlice length.toNat
  match String.fromUTF8? bytes.toByteArray with
  | some name => return name
  | none => fail (.invalidUtf8 start)

/-- Reads the width of a length. -/
def readSizeLength : SchemaReader SizeLength := do
  let start ← offset
  let tag ← readU8
  match SizeLength.ofTag? tag with
  | some size => return size
  | none => fail (.unknownSizeLength tag start)

/-! ### Lists -/

/-- Reads the number of elements of a list as it is declared. -/
def declaredCount : SchemaReader Nat := do
  return (← readU32).toNat

/-- Reads the number of elements of a list, but no more than what is left of the data could
hold, and one. -/
def cappedCount : SchemaReader Nat := do
  let count ← declaredCount
  let cursor ← get
  return min count (cursor.rest.length + 1)

/-- Reads the given number of elements. -/
def readMany {α : Type} (element : SchemaReader α) : Nat → SchemaReader (List α)
  | 0 => return []
  | count + 1 => do
    let first ← element
    let others ← readMany element count
    return first :: others

/-- Reads an element with a name. -/
def readNamed {α : Type} (element : SchemaReader α) : SchemaReader (String × α) := do
  let name ← readString
  let value ← element
  return (name, value)

/-- Reads the given number of variants with tags and adds them to those found so far. A tag
is looked up once its variant is read. -/
def readTagged (fields : SchemaReader Fields) :
    Nat → (UInt8 → Option (String × Fields)) → SchemaReader (UInt8 → Option (String × Fields))
  | 0, found => return found
  | count + 1, found => do
    let start ← offset
    let tag ← readU8
    let variant ← readNamed fields
    if (found tag).isSome then fail (.repeatedTag tag start)
    else readTagged fields count (setEntry tag variant found)

/-! ### Types -/

/-- Reads fields, given how to read a count and a type. -/
def readFields (count : SchemaReader Nat) (type : SchemaReader SchemaType) :
    SchemaReader Fields := do
  let start ← offset
  let tag ← readU8
  match tag.toNat with
  | 0 => do
    let n ← count
    return .named (← readMany (readNamed type) n)
  | 1 => do
    let n ← count
    return .unnamed (← readMany type n)
  | 2 => return .none
  | _ => fail (.unknownFieldsTag tag start)

/-- Reads a type, given how to read a count and the types inside it. -/
def readTypeOf (count : SchemaReader Nat) (inner : SchemaReader SchemaType) :
    SchemaReader SchemaType := do
  let start ← offset
  let tag ← readU8
  match tag.toNat with
  | 0x00 => return .unit
  | 0x01 => return .bool
  | 0x02 => return .u8
  | 0x03 => return .u16
  | 0x04 => return .u32
  | 0x05 => return .u64
  | 0x06 => return .i8
  | 0x07 => return .i16
  | 0x08 => return .i32
  | 0x09 => return .i64
  | 0x0a => return .amount
  | 0x0b => return .accountAddress
  | 0x0c => return .contractAddress
  | 0x0d => return .timestamp
  | 0x0e => return .duration
  | 0x0f => do
    let left ← inner
    let right ← inner
    return .pair left right
  | 0x10 => do
    let size ← readSizeLength
    let item ← inner
    return .list size item
  | 0x11 => do
    let size ← readSizeLength
    let item ← inner
    return .set size item
  | 0x12 => do
    let size ← readSizeLength
    let key ← inner
    let value ← inner
    return .map size key value
  | 0x13 => do
    let length ← readU32
    let item ← inner
    return .array length item
  | 0x14 => return .struct (← readFields count inner)
  | 0x15 => do
    let n ← count
    return .enum (← readMany (readNamed (readFields count inner)) n)
  | 0x16 => return .string (← readSizeLength)
  | 0x17 => return .u128
  | 0x18 => return .i128
  | 0x19 => return .contractName (← readSizeLength)
  | 0x1a => return .receiveName (← readSizeLength)
  | 0x1b => return .uLeb128 (← readU32)
  | 0x1c => return .iLeb128 (← readU32)
  | 0x1d => return .byteList (← readSizeLength)
  | 0x1e => return .byteArray (← readU32)
  | 0x1f => do
    let n ← count
    return .taggedEnum (← readTagged (readFields count inner) n noEntries)
  | _ => fail (.unknownTypeTag tag start)

/-- **Reading a type** in which at most `depth` types are nested inside each other. -/
def readType (count : SchemaReader Nat) : Nat → SchemaReader SchemaType
  | 0 => fail (.tooDeep maxTypeDepth)
  | depth + 1 => readTypeOf count (readType count depth)

/-- Reads data that holds one type and nothing else. -/
def readWhole (count : SchemaReader Nat) (data : List UInt8) : Except SchemaError SchemaType := do
  let (type, cursor) ← readType count maxTypeDepth ⟨data, 0⟩
  if cursor.rest.isEmpty then return type else throw (.trailingData cursor.rest.length)

end SchemaReader

/-- **The type a binary schema describes.** -/
def SchemaType.ofBytes (data : List UInt8) : Except SchemaError SchemaType :=
  SchemaReader.readWhole SchemaReader.declaredCount data

end ContractSchema
