import ContractSchema.Json.Source
import ContractSchema.Schema.Type

/-!
# Reading types from JSON

The JSON form of a type is an object with the name of the type under `type` and what
it is made of under `value`; fields have their shape under `fields`. Members with
other keys are passed over: they only have to be JSON. The two members may stand in
either order, and instead of the object there may be an array of both.

What stands under `value` can be read only once the name is known. If it comes
first, it is put aside, and what is put aside is read less literally. Its keys are
just texts by then, which is why no tagged enum with variants can be read from it.

* `ContractSchema.Labelled` is a name with its value, found by
  `ContractSchema.Labelled.ofSource?`; `ContractSchema.NamedValue` is one whose name has been
  read.
* `ContractSchema.SchemaType.ofNamedValue?` and `ContractSchema.Fields.ofNamedValue?` say what
  a name and a value stand for, given an `ContractSchema.ItemReader` for what is inside.
* `ContractSchema.SchemaType.ofSource?` and `ContractSchema.Fields.ofSource?` read types and
  fields from the tree of a text, given how many more arrays and objects may be nested.
* `ContractSchema.SchemaType.ofJson?` reads a type from a text.
-/

namespace ContractSchema

open Json (Source)

/-! ### Names with values -/

/-- **A name with a value**, as types and fields have it. -/
structure Labelled where
  /-- What stands for the name. -/
  label : Source
  /-- What stands for the value, if there is anything. -/
  value : Option Source
  /-- Whether the value comes before the name. -/
  valueFirst : Bool

namespace Labelled

/-- The members whose key is the given one, or `value`; `true` marks the former. There are
none if a key stands for no text. -/
def relevant? (key : String) :
    List (List Json.StringUnit × Source) → Option (List (Bool × Source))
  | [] => some []
  | (units, member) :: rest => do
    let text ← Source.string? units
    let others ← relevant? key rest
    if text = key then return (true, member) :: others
    else if text = "value" then return (false, member) :: others
    else return others

/-- Finds the name under the given key, and its value. -/
def ofSource? (key : String) : Source → Option Labelled
  | .object members =>
    match relevant? key members with
    | some [(true, label)] => some ⟨label, none, false⟩
    | some [(true, label), (false, value)] => some ⟨label, some value, false⟩
    | some [(false, value), (true, label)] => some ⟨label, some value, true⟩
    | _ => none
  | .array [label, value] => some ⟨label, some value, false⟩
  | _ => none

/-- Whether the value can be put aside: it has to be a JSON value with at most `depth`
arrays and objects nested inside each other. -/
def canWait (depth : Nat) (labelled : Labelled) : Bool :=
  match labelled.value with
  | some value => (value.value? depth).isSome
  | none => true

end Labelled

/-! ### Words and numbers -/

/-- Reads a word of a fixed list: a string, or an object with the word as its only key and
nothing in it. -/
def wordOfSource? (aside : Bool) (depth : Nat) : Source → Option String
  | .string units => Source.string? units
  | .object [(units, .null)] => if depth = 0 then none else Source.string? units
  | .object [(units, .object [])] =>
    if depth = 0 || !aside then none else Source.string? units
  | _ => none

/-- Reads a text. -/
def textOfSource? : Source → Option String
  | .string units => Source.string? units
  | _ => none

/-- Reads a number of 32 bits. -/
def u32OfSource? : Source → Option UInt32
  | .number numeral =>
    match numeral.value? with
    | some (.natural n) => if n.toNat < UInt32.size then some (UInt32.ofNat n.toNat) else none
    | _ => none
  | _ => none

/-- Reads the width of a length. -/
def SizeLength.ofSource? (aside : Bool) (depth : Nat) (source : Source) : Option SizeLength := do
  let word ← wordOfSource? aside depth source
  if word = "u8" then some .u8
  else if word = "u16" then some .u16
  else if word = "u32" then some .u32
  else if word = "u64" then some .u64
  else none

/-- The decimal digit that a part of a key is. -/
def digitOfUnit? : Json.StringUnit → Option Nat
  | .plain c => if Source.isDigit c then some (c.toNat - 48) else none
  | _ => none

/-- The decimal number below 256 that a key is, without sign and leading zeros. -/
def tagOfKey? (units : List Json.StringUnit) : Option UInt8 := do
  let digits ← units.mapM digitOfUnit?
  match digits with
  | [] => none
  | first :: rest =>
    if first = 0 ∧ rest ≠ [] then none
    else if Json.Numeral.ofDigits digits < 256 then
      some (UInt8.ofNat (Json.Numeral.ofDigits digits))
    else none

/-! ### Types -/

/-- The type without parts that has the given name. -/
def SchemaType.simple? (name : String) : Option SchemaType :=
  [("unit", SchemaType.unit), ("bool", .bool), ("u8", .u8), ("u16", .u16), ("u32", .u32),
    ("u64", .u64), ("u128", .u128), ("i8", .i8), ("i16", .i16), ("i32", .i32), ("i64", .i64),
    ("i128", .i128), ("amount", .amount), ("accountAddress", .accountAddress),
    ("contractAddress", .contractAddress), ("timestamp", .timestamp),
    ("duration", .duration)].lookup name

/-- The type which consists of the width of a length and has the given name. -/
def SchemaType.sized? (name : String) : Option (SizeLength → SchemaType) :=
  [("string", SchemaType.string), ("contractName", .contractName),
    ("receiveName", .receiveName), ("byteList", .byteList)].lookup name

/-- The type which consists of a number and has the given name. -/
def SchemaType.counted? (name : String) : Option (UInt32 → SchemaType) :=
  [("uLeb128", SchemaType.uLeb128), ("iLeb128", .iLeb128), ("byteArray", .byteArray)].lookup name

/-- Whether what stands for a value is nothing. -/
def isNothing : Option Source → Bool
  | none => true
  | some .null => true
  | some _ => false

/-- **A name which has been read**, with what stands for its value. -/
structure NamedValue where
  /-- The name. -/
  name : String
  /-- What stands for the value, if there is anything. -/
  value : Option Source
  /-- Whether the value was put aside. -/
  aside : Bool

/-- Reads the name under the given key, and finds its value. -/
def NamedValue.ofSource? (key : String) (aside : Bool) (depth : Nat) (source : Source) :
    Option NamedValue := do
  let labelled ← Labelled.ofSource? key source
  let name ← wordOfSource? aside depth labelled.label
  if labelled.valueFirst && !aside && !labelled.canWait depth then none
  else return ⟨name, labelled.value, aside || labelled.valueFirst⟩

/-- **What reads the items of an array** and the members of an object. -/
structure ItemReader where
  /-- Reads the width of a length. -/
  size : Source → Option SizeLength
  /-- Reads a type. -/
  type : Source → Option SchemaType
  /-- Reads a field with a name. -/
  named : Source → Option (String × SchemaType)
  /-- Reads a variant of an enum. -/
  variant : Source → Option (String × Fields)

/-- The type of the given name which consists of items. -/
def SchemaType.ofItems? (reader : ItemReader) (name : String) (items : List Source) :
    Option SchemaType :=
  if name = "enum" then (items.mapM reader.variant).map .enum
  else
    match items with
    | [left, right] =>
      if name = "pair" then do return .pair (← reader.type left) (← reader.type right)
      else if name = "list" then do return .list (← reader.size left) (← reader.type right)
      else if name = "set" then do return .set (← reader.size left) (← reader.type right)
      else if name = "array" then do return .array (← u32OfSource? left) (← reader.type right)
      else none
    | [size, key, value] =>
      if name = "map" then do
        return .map (← reader.size size) (← reader.type key) (← reader.type value)
      else none
    | _ => none

/-- Reads a tag with its variant. -/
def ItemReader.member? (reader : ItemReader) (member : List Json.StringUnit × Source) :
    Option (UInt8 × (String × Fields)) := do
  let tag ← tagOfKey? member.1
  let variant ← reader.variant member.2
  return (tag, variant)

/-- The tagged enum with the variants which members stand for; the last variant of a tag
wins. -/
def SchemaType.ofMembers? (reader : ItemReader) (members : List (List Json.StringUnit × Source)) :
    Option SchemaType := do
  let entries ← members.mapM reader.member?
  return .taggedEnum (entries.foldl (fun found (tag, variant) => setEntry tag variant found)
    noEntries)

/-- **The type of a name and a value**, given what reads fields and, if there may be arrays and
objects at all, what reads their items and members. -/
def SchemaType.ofNamedValue? (depth : Nat) (fields : Source → Option Fields)
    (reader : Option ItemReader) (table : NamedValue) : Option SchemaType :=
  match SchemaType.simple? table.name with
  | some type => if isNothing table.value then some type else none
  | none => do
    let value ← table.value
    match SchemaType.sized? table.name, SchemaType.counted? table.name with
    | some make, _ => (SizeLength.ofSource? table.aside depth value).map make
    | none, some make => (u32OfSource? value).map make
    | none, none =>
      if table.name = "struct" then (fields value).map .struct
      else
        match reader, value with
        | some reader, .array items => SchemaType.ofItems? reader table.name items
        | some reader, .object members =>
          if table.name = "taggedEnum" && (!table.aside || members.isEmpty) then
            SchemaType.ofMembers? reader members
          else none
        | _, _ => none

/-- **The fields of a name and a value.** -/
def Fields.ofNamedValue? (reader : Option ItemReader) (table : NamedValue) : Option Fields :=
  if table.name = "none" then if isNothing table.value then some Fields.none else Option.none
  else
    match reader, table.value with
    | some reader, some (.array items) =>
      if table.name = "named" then (items.mapM reader.named).map .named
      else if table.name = "unnamed" then (items.mapM reader.type).map .unnamed
      else Option.none
    | _, _ => Option.none

mutual

/-- **Reading a type** from the tree of a text. At most `depth` arrays and objects may be
nested inside each other; `aside` says whether the tree was put aside before. -/
def SchemaType.ofSource? (aside : Bool) : Nat → Source → Option SchemaType
  | 0, _ => none
  | depth + 1, source => do
    let table ← NamedValue.ofSource? "type" aside depth source
    SchemaType.ofNamedValue? depth (Fields.ofSource? table.aside depth)
      (itemReader? table.aside depth) table

/-- **Reading fields** from the tree of a text. -/
def Fields.ofSource? (aside : Bool) : Nat → Source → Option Fields
  | 0, _ => none
  | depth + 1, source => do
    let table ← NamedValue.ofSource? "fields" aside depth source
    Fields.ofNamedValue? (itemReader? table.aside depth) table

/-- What reads the items of an array, if there may be arrays at all. -/
def itemReader? (aside : Bool) : Nat → Option ItemReader
  | 0 => none
  | depth + 1 => some {
      size := SizeLength.ofSource? aside depth
      type := SchemaType.ofSource? aside depth
      named := namedOfSource? aside depth
      variant := variantOfSource? aside depth }

/-- Reads a variant of an enum: an array of its name and its fields. -/
def variantOfSource? (aside : Bool) : Nat → Source → Option (String × Fields)
  | depth + 1, .array [name, fields] => do
    return (← textOfSource? name, ← Fields.ofSource? aside depth fields)
  | _, _ => none

/-- Reads a field with a name: an array of its name and its type. -/
def namedOfSource? (aside : Bool) : Nat → Source → Option (String × SchemaType)
  | depth + 1, .array [name, type] => do
    return (← textOfSource? name, ← SchemaType.ofSource? aside depth type)
  | _, _ => none

end

/-- **Reading a type from a JSON text.** -/
def SchemaType.ofJson? (text : String) : Option SchemaType := do
  SchemaType.ofSource? false Source.maxDepth (← Source.ofText? text)

end ContractSchema
