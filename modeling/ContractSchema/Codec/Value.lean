import ContractSchema.Codec.Basic
import ContractSchema.Json.Basic
import ContractSchema.Schema.Text
import ContractSchema.Text.Hex

/-!
# The codec of JSON values

Values are JSON: structs are objects or arrays, variants of enums are objects with
one member, amounts are decimal strings, addresses of accounts and byte strings are
hexadecimal strings.

* `ContractSchema.SchemaType.encode` and `ContractSchema.SchemaType.decode` go from a value of a
  type to its bytes and back; the latter begins to read anywhere and leaves what is
  behind.
* `ContractSchema.valueCodec` is the codec made of both.

Numbers that do not fit their width lose their high bytes when they are written, and
so do the lengths of lists and the numbers of variants. Not all types are supported,
and more of them can be read than written.
-/

namespace ContractSchema

/-! ### Errors -/

/-- Why a value is no value of a type, or bytes are not those of one. -/
inductive Mismatch
  /-- The value is not of the type. -/
  | notOfType (value : Json) (type : SchemaType)
  /-- A struct lacks a field. -/
  | missingField (name : String)
  /-- The value is no array with an item for each field. -/
  | notTuple (value : Json)
  /-- The enum has no variant of that name. -/
  | unknownVariant (name : String)
  /-- The enum has no variant with that tag or number. -/
  | unknownTag (tag : UInt8)
  /-- The byte is no truth value. -/
  | invalidBool (byte : UInt8)

/-- The text of a mismatch. -/
def Mismatch.message : Mismatch → String
  | .notOfType value type => value.compact ++ " is not " ++ type.text
  | .missingField name => "missing field " ++ name
  | .notTuple value => value.compact ++ " is not a tuple"
  | .unknownVariant name => "unknown variant " ++ name
  | .unknownTag tag => s!"unknown variant tag {tag.toNat}"
  | .invalidBool byte => s!"invalid bool byte {byte.toNat}"

/-- **Why the codec fails.** -/
inductive ValueError
  /-- The schema is refused. -/
  | schema (error : SchemaError)
  /-- The codec has no values of the type. -/
  | unsupported (type : SchemaType)
  /-- Value and type, or bytes and type, do not match. -/
  | mismatch (cause : Mismatch)
  /-- The data ends where more is needed. -/
  | unexpectedEnd
  /-- The given number of bytes is left behind the value. -/
  | trailingData (count : Nat)

/-- The text of the error. -/
def ValueError.message : ValueError → String
  | .schema error => "schema: " ++ error.message
  | .unsupported type => "fixture codec does not support " ++ type.text
  | .mismatch cause => "value does not match schema: " ++ cause.message
  | .unexpectedEnd => "unexpected end of data"
  | .trailingData count => s!"{count} trailing bytes"

/-! ### Writing -/

/-- The bytes of an integer. -/
def encodeUnsigned (type : SchemaType) (width : Nat) (value : Json) :
    Except ValueError (List UInt8) :=
  match value.natural? with
  | some n => .ok (littleEndianBytes width n.toNat)
  | none => .error (.mismatch (.notOfType value type))

/-- The number that decimal digits stand for, if there are any and nothing else. -/
def decimal? (digits : List Char) : Option Nat :=
  if digits.isEmpty then none
  else digits.foldlM (fun n c => if c.isDigit then some (10 * n + (c.toNat - 48)) else none) 0

/-- The number of 64 bits that a text stands for; a plus in front is allowed. -/
def amount? (text : String) : Option Nat := do
  let digits := match text.toList with
    | '+' :: digits => digits
    | digits => digits
  let n ← decimal? digits
  if n < UInt64.size then some n else none

/-- The bytes of the address of an account. -/
def account? (text : String) : Option (List UInt8) :=
  match Hex.decode text with
  | .ok bytes => if bytes.length = 32 then some bytes else none
  | .error _ => none

mutual

/-- **The bytes of a value** of a type. -/
def SchemaType.encode : SchemaType → Json → Except ValueError (List UInt8)
  | .unit, _ => .ok []
  | .bool, value =>
    match value.bool? with
    | some b => .ok [if b then 1 else 0]
    | none => .error (.mismatch (.notOfType value .bool))
  | .u8, value => encodeUnsigned .u8 1 value
  | .u16, value => encodeUnsigned .u16 2 value
  | .u32, value => encodeUnsigned .u32 4 value
  | .u64, value => encodeUnsigned .u64 8 value
  | .timestamp, value => encodeUnsigned .timestamp 8 value
  | .duration, value => encodeUnsigned .duration 8 value
  | .amount, value =>
    match value.string?.bind amount? with
    | some n => .ok (littleEndianBytes 8 n)
    | none => .error (.mismatch (.notOfType value .amount))
  | .accountAddress, value =>
    match value.string?.bind account? with
    | some bytes => .ok bytes
    | none => .error (.mismatch (.notOfType value .accountAddress))
  | .list size item, value =>
    match value.array? with
    | some items => do
      let encoded ← items.mapM item.encode
      return littleEndianBytes size.byteCount items.length ++ encoded.flatten
    | none => .error (.mismatch (.notOfType value (.list size item)))
  | .struct fields, value => fields.encode value
  | .enum variants, value =>
    match value with
    | .object [(name, inner)] => encodeVariant name inner variants 0
    | _ => .error (.mismatch (.notOfType value (.enum variants)))
  | type, _ => .error (.unsupported type)

/-- **The bytes of the fields** of a value. -/
def Fields.encode : Fields → Json → Except ValueError (List UInt8)
  | .named fields, value => encodeNamed fields value
  | .unnamed fields, value =>
    match value.array? with
    | some items =>
      if items.length = fields.length then encodeUnnamed fields items
      else .error (.mismatch (.notTuple value))
    | none => .error (.mismatch (.notTuple value))
  | .none, _ => .ok []

/-- The bytes of fields with names. -/
def encodeNamed : List (String × SchemaType) → Json → Except ValueError (List UInt8)
  | [], _ => .ok []
  | (name, type) :: rest, value =>
    match value.get? name with
    | some member => do
      let first ← type.encode member
      let others ← encodeNamed rest value
      return first ++ others
    | none => .error (.mismatch (.missingField name))

/-- The bytes of fields without names. -/
def encodeUnnamed : List SchemaType → List Json → Except ValueError (List UInt8)
  | type :: rest, item :: items => do
    let first ← type.encode item
    let others ← encodeUnnamed rest items
    return first ++ others
  | _, _ => .ok []

/-- The bytes of the first variant with a name, among those numbered from `number` on. -/
def encodeVariant (name : String) (inner : Json) :
    List (String × Fields) → Nat → Except ValueError (List UInt8)
  | [], _ => .error (.mismatch (.unknownVariant name))
  | (variant, fields) :: rest, number =>
    if variant = name then do
      return UInt8.ofNat number :: (← fields.encode inner)
    else encodeVariant name inner rest (number + 1)

end

/-! ### Reading -/

/-- A step of reading: it takes bytes off the data, or it fails. -/
abbrev ValueReader (α : Type) : Type :=
  StateT (List UInt8) (Except ValueError) α

namespace ValueReader

/-- Gives up with an error. -/
def fail {α : Type} (error : ValueError) : ValueReader α :=
  fun _ => .error error

/-- Takes the given number of bytes. -/
def take (count : Nat) : ValueReader (List UInt8) := fun data =>
  match splitExact count data with
  | some (bytes, rest) => .ok (bytes, rest)
  | none => .error .unexpectedEnd

/-- Takes one byte. -/
def takeByte : ValueReader UInt8
  | byte :: rest => .ok (byte, rest)
  | [] => .error .unexpectedEnd

/-- Takes an integer of the given number of bytes. -/
def takeUnsigned (width : Nat) : ValueReader Nat := do
  return littleEndian (← take width)

/-- Takes an integer and makes a number of it. -/
def takeNumber (width : Nat) : ValueReader Json := do
  return Json.ofNat (← takeUnsigned width)

/-- Takes the given number of bytes and makes a hexadecimal string of them. -/
def takeHex (count : Nat) : ValueReader Json := do
  return .string (Hex.encode (← take count))

/-- Takes the given number of values. -/
def takeMany {α : Type} (value : ValueReader α) : Nat → ValueReader (List α)
  | 0 => return []
  | count + 1 => do
    let first ← value
    let others ← takeMany value count
    return first :: others

/-- The bits of a number moved up, unless they are moved by all of its 128 bits or more. -/
def movedUp? (value : BitVec 128) (count : UInt32) : Option (BitVec 128) :=
  if count.toNat < 128 then some (value <<< count.toNat) else none

/-- Joins the lower seven bits of a byte to the `index` groups of so many bits below them. Bits
beyond all 128 are dropped. -/
def joinGroup (value : BitVec 128) (index : UInt32) (byte : UInt8) : BitVec 128 :=
  value ||| (movedUp? (BitVec.ofNat 128 (byte &&& 0x7f).toNat) (7 * index)).getD 0

/-- Takes at most `count` bytes with 7-bit groups of a number, the lowest first, and joins them
to the `index` groups in `value`. The last byte is the first one without the high bit, or
the last of those allowed. -/
def takeGroups : Nat → UInt32 → BitVec 128 → ValueReader (BitVec 128)
  | 0, _, value => return value
  | count + 1, index, value => do
    let byte ← takeByte
    let value := joinGroup value index byte
    if byte &&& 0x80 = 0 then return value else takeGroups count (index + 1) value

end ValueReader

open ValueReader

mutual

/-- **The value of a type** at the beginning of the data. -/
def SchemaType.decode : SchemaType → ValueReader Json
  | .unit => return .null
  | .bool => do
    let byte ← takeByte
    if byte = 0 then return .bool false
    else if byte = 1 then return .bool true
    else fail (.mismatch (.invalidBool byte))
  | .u8 => takeNumber 1
  | .u16 => takeNumber 2
  | .u32 => takeNumber 4
  | .u64 => takeNumber 8
  | .timestamp => takeNumber 8
  | .duration => takeNumber 8
  | .amount => do return .string (toString (← takeUnsigned 8))
  | .accountAddress => takeHex 32
  | .contractAddress => do
    let index ← takeNumber 8
    let subindex ← takeNumber 8
    return Json.ofMembers [("index", index), ("subindex", subindex)]
  | .list size item => do
    let length ← takeUnsigned size.byteCount
    return .array (← takeMany item.decode length)
  | .struct fields => fields.decode
  | .enum variants => do
    let tag ← takeByte
    decodeNumbered tag variants tag.toNat
  | .taggedEnum variants => do
    let tag ← takeByte
    decodeTagged tag (variants tag)
  | .uLeb128 maxBytes => do
    let value ← takeGroups maxBytes.toNat 0 0
    return .string (toString value.toNat)
  | .byteList size => do
    let length ← takeUnsigned size.byteCount
    takeHex length
  | type => fail (.unsupported type)

/-- **The values of fields** at the beginning of the data. -/
def Fields.decode : Fields → ValueReader Json
  | .named fields => do return Json.ofMembers (← decodeNamed fields)
  | .unnamed fields => do return .array (← decodeUnnamed fields)
  | .none => return .array []

/-- The values of fields with names. -/
def decodeNamed : List (String × SchemaType) → ValueReader (List (String × Json))
  | [] => return []
  | (name, type) :: rest => do
    let value ← type.decode
    let others ← decodeNamed rest
    return (name, value) :: others

/-- The values of fields without names. -/
def decodeUnnamed : List SchemaType → ValueReader (List Json)
  | [] => return []
  | type :: rest => do
    let value ← type.decode
    let others ← decodeUnnamed rest
    return value :: others

/-- The value of the variant which is `number` places further on; `tag` is its number in the
whole enum. -/
def decodeNumbered (tag : UInt8) : List (String × Fields) → Nat → ValueReader Json
  | [], _ => fail (.mismatch (.unknownTag tag))
  | (name, fields) :: _, 0 => do return Json.ofMembers [(name, ← fields.decode)]
  | _ :: rest, number + 1 => decodeNumbered tag rest number

/-- The value of the variant with a tag, if there is one. -/
def decodeTagged (tag : UInt8) : Option (String × Fields) → ValueReader Json
  | none => fail (.mismatch (.unknownTag tag))
  | some (name, fields) => do return Json.ofMembers [(name, ← fields.decode)]

end

/-! ### The codec -/

namespace ValueCodec

/-- The bytes of a value according to a schema. -/
def encode (blob : SchemaBlob) (value : Json) : Except ValueError (List UInt8) :=
  match blob.parse with
  | .ok type => type.encode value
  | .error error => .error (.schema error)

/-- The value of bytes of a type, all of which are needed. -/
def decodeWhole (type : SchemaType) (data : List UInt8) : Except ValueError Json :=
  match type.decode data with
  | .ok (value, rest) =>
    if rest.isEmpty then .ok value else .error (.trailingData rest.length)
  | .error error => .error error

/-- The value of bytes according to a schema. -/
def decode (blob : SchemaBlob) (data : List UInt8) : Except ValueError Json :=
  match blob.parse with
  | .ok type => decodeWhole type data
  | .error error => .error (.schema error)

end ValueCodec

/-- **The codec of JSON values.** -/
def valueCodec : SchemaCodec Json ValueError where
  encode := ValueCodec.encode
  decode := ValueCodec.decode

end ContractSchema
