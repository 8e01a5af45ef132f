import ContractSchema.Json.Number

/-!
# JSON values

* `ContractSchema.Json` is the type of JSON values; an object is the list of its members.
* `ContractSchema.Json.ofMembers` makes an object whose members are ordered by key and
  have different keys; values read from outside are built with it.
* `ContractSchema.Json.compact` writes a value without blanks, and
  `ContractSchema.Json.pretty` on several lines, two spaces for each level.

In a written string only the quote, the backslash and the controls below the space
are escaped; all other characters stand for themselves.
-/

namespace ContractSchema

/-- **A JSON value.** -/
inductive Json
  /-- The value `null`. -/
  | null
  /-- A truth value. -/
  | bool (b : Bool)
  /-- A number. -/
  | number (n : Json.Number)
  /-- A string. -/
  | string (s : String)
  /-- An array with its items. -/
  | array (items : List Json)
  /-- An object with its members. -/
  | object (members : List (String × Json))

namespace Json

/-! ### Looking into values -/

/-- The truth value a value is. -/
def bool? : Json → Option Bool
  | .bool b => some b
  | _ => none

/-- The integer a value is, if it is one which is not negative. -/
def natural? : Json → Option UInt64
  | .number n => n.natural?
  | _ => none

/-- The string a value is. -/
def string? : Json → Option String
  | .string s => some s
  | _ => none

/-- The items of an array. -/
def array? : Json → Option (List Json)
  | .array items => some items
  | _ => none

/-- The members of an object. -/
def object? : Json → Option (List (String × Json))
  | .object members => some members
  | _ => none

/-- The member of an object with the given key. -/
def get? (value : Json) (key : String) : Option Json := do
  (← value.object?).lookup key

/-- The number of a natural number below `2 ^ 64`. -/
def ofNat (n : Nat) : Json :=
  .number (.natural (UInt64.ofNat n))

/-- A value which may be missing. -/
def ofOption : Option Json → Json
  | some value => value
  | none => .null

/-! ### Objects in order -/

/-- Puts a member among members ordered by key, in place of one with the same key. -/
def insertMember (key : String) (value : Json) : List (String × Json) → List (String × Json)
  | [] => [(key, value)]
  | (k, v) :: rest =>
    if key < k then (key, value) :: (k, v) :: rest
    else if key = k then (key, value) :: rest
    else (k, v) :: insertMember key value rest

/-- The members ordered by key; of members with the same key the last is kept. -/
def orderMembers (members : List (String × Json)) : List (String × Json) :=
  members.foldl (fun ordered member => insertMember member.1 member.2 ordered) []

/-- **The object of the given members**, ordered by key. -/
def ofMembers (members : List (String × Json)) : Json :=
  .object (orderMembers members)

/-! ### Strings -/

/-- The characters that stand for a character between quotes. -/
def escape (c : Char) : List Char :=
  if c = '"' then ['\\', '"']
  else if c = '\\' then ['\\', '\\']
  else if c = '\n' then ['\\', 'n']
  else if c = '\r' then ['\\', 'r']
  else if c = '\t' then ['\\', 't']
  else if c = '\x08' then ['\\', 'b']
  else if c = '\x0c' then ['\\', 'f']
  else if c.toNat < 32 then
    ['\\', 'u', '0', '0', Nat.digitChar (c.toNat / 16), Nat.digitChar (c.toNat % 16)]
  else [c]

/-- A string between quotes. -/
def quote (s : String) : List Char :=
  '"' :: s.toList.flatMap escape ++ ['"']

/-! ### Compact text -/

/-- Texts in a row with a separator between them. -/
def separated (separator : List Char) : List (List Char) → List Char
  | [] => []
  | [text] => text
  | text :: next :: rest => text ++ separator ++ separated separator (next :: rest)

mutual

/-- The characters of a value without blanks. -/
def compactChars : Json → List Char
  | .null => "null".toList
  | .bool b => (if b then "true" else "false").toList
  | .number n => n.text.toList
  | .string s => quote s
  | .array items => '[' :: separated [','] (compactItems items) ++ [']']
  | .object members => '{' :: separated [','] (compactMembers members) ++ ['}']

/-- The texts of items. -/
def compactItems : List Json → List (List Char)
  | [] => []
  | item :: rest => compactChars item :: compactItems rest

/-- The texts of members. -/
def compactMembers : List (String × Json) → List (List Char)
  | [] => []
  | (key, value) :: rest => (quote key ++ ':' :: compactChars value) :: compactMembers rest

end

/-- **The text of a value without blanks.** -/
def compact (value : Json) : String :=
  String.ofList value.compactChars

/-! ### Text on several lines -/

/-- The end of a line and the blanks in front of the next at the given level. -/
def newline (level : Nat) : List Char :=
  '\n' :: List.replicate (2 * level) ' '

/-- Encloses texts in brackets, each on a line of its own at the level above `level`; brackets
with nothing between them stay together. -/
def enclosed (opening closing : Char) (level : Nat) (texts : List (List Char)) : List Char :=
  if texts.isEmpty then [opening, closing]
  else
    opening :: newline (level + 1) ++ separated (',' :: newline (level + 1)) texts ++
      newline level ++ [closing]

mutual

/-- The characters of a value which begins on a line at the given level. -/
def prettyChars (level : Nat) : Json → List Char
  | .null => "null".toList
  | .bool b => (if b then "true" else "false").toList
  | .number n => n.text.toList
  | .string s => quote s
  | .array items => enclosed '[' ']' level (prettyItems (level + 1) items)
  | .object members => enclosed '{' '}' level (prettyMembers (level + 1) members)

/-- The texts of items at a level. -/
def prettyItems (level : Nat) : List Json → List (List Char)
  | [] => []
  | item :: rest => prettyChars level item :: prettyItems level rest

/-- The texts of members at a level. -/
def prettyMembers (level : Nat) : List (String × Json) → List (List Char)
  | [] => []
  | (key, value) :: rest =>
    (quote key ++ ':' :: ' ' :: prettyChars level value) :: prettyMembers level rest

end

/-- **The text of a value on several lines.** -/
def pretty (value : Json) : String :=
  String.ofList (value.prettyChars 0)

end Json

end ContractSchema
