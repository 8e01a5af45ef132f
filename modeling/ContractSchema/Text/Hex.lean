/-!
# Hexadecimal text

Bytes are written as pairs of hexadecimal digits, the high half first. Writing
uses lower-case digits only; reading takes digits of either case.

* `ContractSchema.Hex.encode` writes bytes, `ContractSchema.Hex.decode` reads them back.
* `ContractSchema.HexError` lists the reasons for which a text is refused. An odd length is
  noticed first, then the first byte which is no digit; whoever expects a certain number
  of bytes looks at that last.
-/

namespace ContractSchema

/-- Why a text is not the hexadecimal form of the expected bytes. -/
inductive HexError
  /-- The text has an odd number of bytes. -/
  | oddLength (length : Nat)
  /-- The byte is not a hexadecimal digit. -/
  | invalidDigit (byte : UInt8)
  /-- The text stands for `length` bytes instead of the expected number. -/
  | invalidLength (length expected : Nat)
deriving DecidableEq, Repr

/-- The text of the error. -/
def HexError.message : HexError → String
  | .oddLength length => s!"odd hex string length {length}"
  | .invalidDigit byte => s!"invalid hex character {byte.toNat}"
  | .invalidLength length expected => s!"bad hex string length {length} (expected {expected})"

namespace Hex

/-! ### Writing -/

/-- The lower-case digit of a number below sixteen. -/
def digit (n : Nat) : Char :=
  if n < 10 then Char.ofNat (48 + n) else Char.ofNat (87 + n)

/-- The two digits of a byte. -/
def encodeByte (byte : UInt8) : List Char :=
  [digit (byte.toNat / 16), digit (byte.toNat % 16)]

/-- **Hexadecimal form** of bytes: two lower-case digits for each. -/
def encode (bytes : List UInt8) : String :=
  String.ofList (bytes.flatMap encodeByte)

/-! ### Reading -/

/-- The number a digit of either case stands for. -/
def digitValue? (byte : UInt8) : Option Nat :=
  let n := byte.toNat
  if 48 ≤ n ∧ n ≤ 57 then some (n - 48)
  else if 97 ≤ n ∧ n ≤ 102 then some (n - 87)
  else if 65 ≤ n ∧ n ≤ 70 then some (n - 55)
  else none

/-- The value of a digit, or the complaint about it. -/
def digitValue (byte : UInt8) : Except HexError Nat :=
  match digitValue? byte with
  | some value => .ok value
  | none => .error (.invalidDigit byte)

/-- Reads digits pair by pair, from the left; a digit without a partner is dropped. -/
def decodePairs : List UInt8 → Except HexError (List UInt8)
  | high :: low :: rest => do
    let high ← digitValue high
    let low ← digitValue low
    let bytes ← decodePairs rest
    return UInt8.ofNat (16 * high + low) :: bytes
  | _ => .ok []

/-- **Reading hexadecimal text**, in which every byte of the text is a digit. -/
def decode (text : String) : Except HexError (List UInt8) :=
  let symbols := text.toByteArray.data.toList
  if symbols.length % 2 = 1 then .error (.oddLength symbols.length) else decodePairs symbols

end Hex

end ContractSchema
