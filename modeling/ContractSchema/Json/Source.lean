import ContractSchema.Json.Basic

/-!
# JSON texts

Reading a JSON text is done in two stages. The first knows the grammar only: it
turns a text into a tree whose leaves are numbers and strings *as they are written*.
The second says what they stand for, and that can fail: a number may exceed all
doubles, an escape in a string may be half of a surrogate pair, and values may be
nested too deeply. A reader with expectations of its own walks the tree directly and
leaves the parts it has no use for uninterpreted.

* `ContractSchema.Json.Source` is the tree of a text, `ContractSchema.Json.Source.ofText?`
  the first stage.
* `ContractSchema.Json.Source.value?` is the second stage, and `ContractSchema.Json.parse?`
  both.
-/

namespace ContractSchema.Json

/-! ### The tree of a text -/

/-- A part of a string as it is written. -/
inductive StringUnit
  /-- A character standing for itself. -/
  | plain (c : Char)
  /-- A backslash and a letter or sign, together standing for the character `c`. -/
  | escaped (c : Char)
  /-- A backslash, the letter `u` and four hexadecimal digits. -/
  | code (n : Nat)
deriving DecidableEq, Repr

/-- **The tree of a JSON text**: its numbers and strings are kept as they are written, and
the members of its objects in their order, with all repetitions. -/
inductive Source
  /-- The word `null`. -/
  | null
  /-- One of the words `true` and `false`. -/
  | bool (b : Bool)
  /-- A number. -/
  | number (n : Numeral)
  /-- A string. -/
  | string (units : List StringUnit)
  /-- An array. -/
  | array (items : List Source)
  /-- An object. -/
  | object (members : List (List StringUnit × Source))

namespace Source

/-! ### Blanks, strings and numbers -/

/-- Whether a character may stand between the parts of a text. -/
def isBlank (c : Char) : Bool :=
  c == ' ' || c == '\n' || c == '\t' || c == '\r'

/-- Passes over blanks. -/
def skipBlanks (input : List Char) : List Char :=
  input.dropWhile isBlank

/-- The value of a hexadecimal digit of either case. -/
def hexValue? (c : Char) : Option Nat :=
  let n := c.toNat
  if 48 ≤ n ∧ n ≤ 57 then some (n - 48)
  else if 97 ≤ n ∧ n ≤ 102 then some (n - 87)
  else if 65 ≤ n ∧ n ≤ 70 then some (n - 55)
  else none

/-- The character that a backslash and the given letter or sign stand for. -/
def shortEscape? (c : Char) : Option Char :=
  if c = '"' then some '"'
  else if c = '\\' then some '\\'
  else if c = '/' then some '/'
  else if c = 'b' then some '\x08'
  else if c = 'f' then some '\x0c'
  else if c = 'n' then some '\n'
  else if c = 'r' then some '\r'
  else if c = 't' then some '\t'
  else none

/-- Reads a string behind its opening quote, up to and with its closing quote. -/
def readUnits? : List Char → Option (List StringUnit × List Char)
  | [] => none
  | '"' :: rest => some ([], rest)
  | '\\' :: 'u' :: a :: b :: c :: d :: rest => do
    let n := 4096 * (← hexValue? a) + 256 * (← hexValue? b) + 16 * (← hexValue? c) +
      (← hexValue? d)
    let (units, rest) ← readUnits? rest
    return (.code n :: units, rest)
  | '\\' :: c :: rest => do
    let c ← shortEscape? c
    let (units, rest) ← readUnits? rest
    return (.escaped c :: units, rest)
  | c :: rest => do
    if c.toNat < 32 then none
    let (units, rest) ← readUnits? rest
    return (.plain c :: units, rest)

/-- Whether a character is a decimal digit. -/
def isDigit (c : Char) : Bool :=
  48 ≤ c.toNat && c.toNat ≤ 57

/-- Reads the digits at the beginning of the input. -/
def readDigits (input : List Char) : List Nat × List Char :=
  ((input.takeWhile isDigit).map fun c => c.toNat - 48, input.dropWhile isDigit)

/-- Reads at least one digit. -/
def readDigits? (input : List Char) : Option (List Nat × List Char) :=
  let (digits, rest) := readDigits input
  if digits.isEmpty then none else some (digits, rest)

/-- Reads the digits before the point: a zero alone, or digits of which the first is none. -/
def readWhole? : List Char → Option (List Nat × List Char)
  | '0' :: rest => some ([0], rest)
  | input => readDigits? input

/-- Reads the point and the digits behind it, if there is a point. -/
def readFraction? : List Char → Option (Option (List Nat) × List Char)
  | '.' :: rest => do
    let (digits, rest) ← readDigits? rest
    return (some digits, rest)
  | input => some (none, input)

/-- Reads a sign, if there is one, and whether it is a minus. -/
def readSign : List Char → Bool × List Char
  | '-' :: rest => (true, rest)
  | '+' :: rest => (false, rest)
  | input => (false, input)

/-- Reads an exponent, if there is one. -/
def readExponent? (input : List Char) : Option (Option Exponent × List Char) :=
  match input with
  | c :: rest =>
    if c = 'e' ∨ c = 'E' then do
      let (negative, rest) := readSign rest
      let (digits, rest) ← readDigits? rest
      return (some ⟨negative, digits⟩, rest)
    else some (none, input)
  | [] => some (none, input)

/-- Reads a number. -/
def readNumeral? (input : List Char) : Option (Numeral × List Char) := do
  let (negative, input) :=
    match input with
    | '-' :: rest => (true, rest)
    | _ => (false, input)
  let (whole, input) ← readWhole? input
  let (fraction, input) ← readFraction? input
  let (exponent, input) ← readExponent? input
  return (⟨negative, whole, fraction, exponent⟩, input)

/-! ### The grammar -/

mutual

/-- Reads a value. The first argument bounds the nesting of calls. -/
def readValue? : Nat → List Char → Option (Source × List Char)
  | 0, _ => none
  | fuel + 1, input =>
    match skipBlanks input with
    | 'n' :: 'u' :: 'l' :: 'l' :: rest => some (.null, rest)
    | 't' :: 'r' :: 'u' :: 'e' :: rest => some (.bool true, rest)
    | 'f' :: 'a' :: 'l' :: 's' :: 'e' :: rest => some (.bool false, rest)
    | '"' :: rest => do
      let (units, rest) ← readUnits? rest
      return (.string units, rest)
    | '[' :: rest =>
      match skipBlanks rest with
      | ']' :: rest => some (.array [], rest)
      | rest => do
        let (items, rest) ← readItems? fuel rest
        return (.array items, rest)
    | '{' :: rest =>
      match skipBlanks rest with
      | '}' :: rest => some (.object [], rest)
      | rest => do
        let (members, rest) ← readMembers? fuel rest
        return (.object members, rest)
    | input => do
      let (numeral, rest) ← readNumeral? input
      return (.number numeral, rest)

/-- Reads the items of an array, at least one, and the closing bracket. -/
def readItems? : Nat → List Char → Option (List Source × List Char)
  | 0, _ => none
  | fuel + 1, input => do
    let (item, rest) ← readValue? fuel input
    match skipBlanks rest with
    | ']' :: rest => some ([item], rest)
    | ',' :: rest => do
      let (items, rest) ← readItems? fuel rest
      return (item :: items, rest)
    | _ => none

/-- Reads the members of an object, at least one, and the closing brace. -/
def readMembers? : Nat → List Char → Option (List (List StringUnit × Source) × List Char)
  | 0, _ => none
  | fuel + 1, input =>
    match skipBlanks input with
    | '"' :: rest => do
      let (key, rest) ← readUnits? rest
      match skipBlanks rest with
      | ':' :: rest => do
        let (value, rest) ← readValue? fuel rest
        match skipBlanks rest with
        | '}' :: rest => some ([(key, value)], rest)
        | ',' :: rest => do
          let (members, rest) ← readMembers? fuel rest
          return ((key, value) :: members, rest)
        | _ => none
      | _ => none
    | _ => none

end

/-- Reads a text which holds one value and blanks. -/
def ofChars? (input : List Char) : Option Source := do
  -- one level of nesting takes two calls and at least one character
  let (source, rest) ← readValue? (2 * input.length + 2) input
  if (skipBlanks rest).isEmpty then some source else none

/-- **The tree of a text**, or `none` if the text violates the grammar. -/
def ofText? (text : String) : Option Source :=
  ofChars? text.toList

/-! ### What is meant -/

/-- Whether a number is the first half of a surrogate pair. -/
def isHighSurrogate (n : Nat) : Bool :=
  0xD800 ≤ n && n < 0xDC00

/-- Whether a number is the second half of a surrogate pair. -/
def isLowSurrogate (n : Nat) : Bool :=
  0xDC00 ≤ n && n < 0xE000

/-- The characters a string stands for. The two halves of a surrogate pair have to stand
next to each other. -/
def characters? : List StringUnit → Option (List Char)
  | [] => some []
  | .plain c :: rest => do return c :: (← characters? rest)
  | .escaped c :: rest => do return c :: (← characters? rest)
  | .code n :: rest =>
    if isHighSurrogate n then
      match rest with
      | .code m :: rest =>
        if isLowSurrogate m then do
          return Char.ofNat (0x10000 + 0x400 * (n - 0xD800) + (m - 0xDC00)) ::
            (← characters? rest)
        else none
      | _ => none
    else if isLowSurrogate n then none
    else do return Char.ofNat n :: (← characters? rest)

/-- The text a string stands for. -/
def string? (units : List StringUnit) : Option String :=
  (characters? units).map String.ofList

/-- How many arrays and objects may stand inside each other. -/
def maxDepth : Nat := 127

mutual

/-- **The value a tree stands for**, if it is nested at most `depth` times. -/
def value? (depth : Nat) : Source → Option Json
  | .null => some .null
  | .bool b => some (.bool b)
  | .number n => n.value?.map .number
  | .string units => (string? units).map .string
  | .array items =>
    match depth with
    | 0 => none
    | depth + 1 => (values? depth items).map .array
  | .object members =>
    match depth with
    | 0 => none
    | depth + 1 => (memberValues? depth members).map ofMembers

/-- The values of items. -/
def values? (depth : Nat) : List Source → Option (List Json)
  | [] => some []
  | item :: rest => do
    let value ← value? depth item
    let values ← values? depth rest
    return value :: values

/-- The keys and values of members. -/
def memberValues? (depth : Nat) :
    List (List StringUnit × Source) → Option (List (String × Json))
  | [] => some []
  | (units, member) :: rest => do
    let key ← string? units
    let value ← value? depth member
    let members ← memberValues? depth rest
    return (key, value) :: members

end

end Source

/-- **Reading a JSON text.** -/
def parse? (text : String) : Option Json := do
  (← Source.ofText? text).value? Source.maxDepth

end ContractSchema.Json
