/-!
# Base64 text

Binary schemas travel as Base64 in the standard alphabet, padded with `=` to
groups of four symbols. Reading is strict: each byte string has exactly one
accepted text, so a text which pads too little, or whose last symbol carries bits
that are thrown away, is refused.

* `ContractSchema.Base64.encode` writes bytes in groups of three.
* `ContractSchema.Base64.decode` reads a text, taken as its bytes.
* `ContractSchema.Base64Error` lists the reasons for refusal; positions in it are byte
  offsets in the text.

All groups but the last hold four symbols of the alphabet. The last group, of one
to four bytes, is where padding may stand and where the text ends.
-/

namespace ContractSchema

/-- Why a text is not the Base64 form of any bytes. -/
inductive Base64Error
  /-- The byte at the offset is not in the alphabet, or is a `=` out of place. -/
  | invalidSymbol (symbol : UInt8) (offset : Nat)
  /-- The last group holds a single symbol; `length` counts the symbols before the padding. -/
  | invalidLength (length : Nat)
  /-- The last symbol carries bits which belong to no byte. -/
  | invalidLastSymbol (symbol : UInt8) (offset : Nat)
  /-- The last group is not padded to four symbols. -/
  | invalidPadding
deriving DecidableEq, Repr

/-- The text of the error. -/
def Base64Error.message : Base64Error → String
  | .invalidSymbol symbol offset => s!"Invalid symbol {symbol.toNat}, offset {offset}."
  | .invalidLength length => s!"Invalid input length: {length}"
  | .invalidLastSymbol symbol offset => s!"Invalid last symbol {symbol.toNat}, offset {offset}."
  | .invalidPadding => "Invalid padding"

namespace Base64

/-! ### The alphabet -/

/-- The symbol of a number below sixty-four. -/
def symbol (n : Nat) : UInt8 :=
  if n < 26 then UInt8.ofNat (65 + n)
  else if n < 52 then UInt8.ofNat (71 + n)
  else if n < 62 then UInt8.ofNat (n - 4)
  else if n = 62 then 43
  else 47

/-- The number a symbol of the alphabet stands for. -/
def symbolValue? (byte : UInt8) : Option Nat :=
  let n := byte.toNat
  if 65 ≤ n ∧ n ≤ 90 then some (n - 65)
  else if 97 ≤ n ∧ n ≤ 122 then some (n - 71)
  else if 48 ≤ n ∧ n ≤ 57 then some (n + 4)
  else if n = 43 then some 62
  else if n = 47 then some 63
  else none

/-- The padding symbol `=`. -/
def padding : UInt8 := 61

/-! ### Writing -/

/-- The symbols of bytes: four for three of them, and a padded group for the rest. -/
def encodeBytes : List UInt8 → List UInt8
  | a :: b :: c :: rest =>
    let n := 65536 * a.toNat + 256 * b.toNat + c.toNat
    symbol (n / 262144) :: symbol (n / 4096 % 64) :: symbol (n / 64 % 64) :: symbol (n % 64) ::
      encodeBytes rest
  | [a, b] =>
    let n := 256 * a.toNat + b.toNat
    [symbol (n / 1024), symbol (n / 16 % 64), symbol (n % 16 * 4), padding]
  | [a] => [symbol (a.toNat / 4), symbol (a.toNat % 4 * 16), padding, padding]
  | [] => []

/-- **Base64 form** of bytes. -/
def encode (bytes : List UInt8) : String :=
  String.ofList ((encodeBytes bytes).map fun symbol => Char.ofNat symbol.toNat)

/-! ### Reading -/

/-- The value of the symbol at an offset of the text. -/
def symbolValue (offset : Nat) (byte : UInt8) : Except Base64Error Nat :=
  match symbolValue? byte with
  | some value => .ok value
  | none => .error (.invalidSymbol byte offset)

/-- What a scan of the last group has met so far. -/
structure Tail where
  /-- Values of the symbols met, in order. -/
  values : List Nat
  /-- The last symbol met. -/
  last : UInt8
  /-- How many padding symbols were met. -/
  pads : Nat

/-- Scans the last group, whose first byte is at offset `start`. A padding symbol is
welcome from the third place on, and only padding may follow it. -/
def scanTail (start : Nat) : Nat → Tail → List UInt8 → Except Base64Error Tail
  | _, tail, [] => .ok tail
  | place, tail, byte :: rest =>
    if byte = padding then
      if place < 2 then .error (.invalidSymbol byte (start + place))
      else scanTail start (place + 1) { tail with pads := tail.pads + 1 } rest
    else if 0 < tail.pads then
      .error (.invalidSymbol padding (start + tail.values.length))
    else do
      let value ← symbolValue (start + place) byte
      scanTail start (place + 1)
        { tail with values := tail.values ++ [value], last := byte } rest

/-- The bytes of the last group. -/
def decodeTail (start : Nat) (group : List UInt8) : Except Base64Error (List UInt8) := do
  let tail ← scanTail start 0 ⟨[], 0, 0⟩ group
  let symbols := tail.values.length
  if group.isEmpty then return []
  if symbols < 2 then throw (.invalidLength (start + symbols))
  if (symbols + tail.pads) % 4 ≠ 0 then throw .invalidPadding
  let leftover := .invalidLastSymbol tail.last (start + symbols - 1)
  match tail.values with
  | [a, b, c, d] =>
    let n := 262144 * a + 4096 * b + 64 * c + d
    return [UInt8.ofNat (n / 65536), UInt8.ofNat (n / 256), UInt8.ofNat n]
  | [a, b, c] =>
    if c % 4 ≠ 0 then throw leftover
    let n := (4096 * a + 64 * b + c) / 4
    return [UInt8.ofNat (n / 256), UInt8.ofNat n]
  | [a, b] =>
    if b % 16 ≠ 0 then throw leftover
    return [UInt8.ofNat ((64 * a + b) / 16)]
  | _ => return []

/-- Reads groups of four symbols as long as something follows them, and then the last
group; `start` is the offset of the first byte. -/
def decodeGroups (start : Nat) : List UInt8 → Except Base64Error (List UInt8)
  | a :: b :: c :: d :: e :: rest => do
    let p ← symbolValue start a
    let q ← symbolValue (start + 1) b
    let r ← symbolValue (start + 2) c
    let s ← symbolValue (start + 3) d
    let n := 262144 * p + 4096 * q + 64 * r + s
    let bytes ← decodeGroups (start + 4) (e :: rest)
    return UInt8.ofNat (n / 65536) :: UInt8.ofNat (n / 256) :: UInt8.ofNat n :: bytes
  | group => decodeTail start group

/-- The complaint about a text of one byte too many: a foreign byte there is named before
anything else is looked at. -/
def strayLast? (symbols : List UInt8) : Option Base64Error :=
  match symbols.getLast? with
  | some last =>
    if symbols.length % 4 = 1 ∧ last ≠ padding ∧ (symbolValue? last).isNone then
      some (.invalidSymbol last (symbols.length - 1))
    else none
  | none => none

/-- **Reading Base64 text.** -/
def decode (text : String) : Except Base64Error (List UInt8) :=
  let symbols := text.toByteArray.data.toList
  match strayLast? symbols with
  | some error => .error error
  | none => decodeGroups 0 symbols

end Base64

end ContractSchema
