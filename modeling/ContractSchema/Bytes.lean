/-!
# Bytes in a row

What the readers and writers of binary data share.

* `ContractSchema.splitExact` cuts a list after a given number of elements.
* `ContractSchema.littleEndian` and `ContractSchema.littleEndianBytes` go from bytes to a
  number and back, the lowest byte first.
-/

namespace ContractSchema

/-- The first `count` elements of a list and the others, if there are that many. -/
def splitExact {α : Type} : Nat → List α → Option (List α × List α)
  | 0, rest => some ([], rest)
  | _ + 1, [] => none
  | count + 1, a :: rest =>
    match splitExact count rest with
    | some (taken, rest) => some (a :: taken, rest)
    | none => none

/-- The number that bytes stand for, the lowest first. -/
def littleEndian (bytes : List UInt8) : Nat :=
  bytes.foldr (fun byte n => byte.toNat + 256 * n) 0

/-- The lowest `count` bytes of a number, the lowest first. -/
def littleEndianBytes : Nat → Nat → List UInt8
  | 0, _ => []
  | count + 1, n => UInt8.ofNat n :: littleEndianBytes count (n / 256)

end ContractSchema
