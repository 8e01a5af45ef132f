import ContractSchema.Text.Hex

/-!
# References to modules

A deployed module is referred to by the hash of its source, 32 bytes whose text is
their hexadecimal form.

* `ContractSchema.ModuleRef.text` and `ContractSchema.ModuleRef.ofString` go from a
  reference to its text and back.
* `ContractSchema.ModuleRef.compare` orders references by their bytes.
-/

namespace ContractSchema

/-- **A reference to a module**: the hash of its source. -/
structure ModuleRef where
  /-- The bytes of the hash. -/
  bytes : List UInt8
  /-- A hash has 32 bytes. -/
  length_eq : bytes.length = 32
deriving DecidableEq

namespace ModuleRef

/-- The reference made of the given bytes, if they are 32. -/
def ofBytes? (bytes : List UInt8) : Option ModuleRef :=
  if h : bytes.length = 32 then some ⟨bytes, h⟩ else none

/-- The hexadecimal text of a reference. -/
def text (ref : ModuleRef) : String :=
  Hex.encode ref.bytes

/-- Reads a reference from its hexadecimal text. -/
def ofString (text : String) : Except HexError ModuleRef :=
  match Hex.decode text with
  | .error error => .error error
  | .ok bytes =>
    if h : bytes.length = 32 then .ok ⟨bytes, h⟩ else .error (.invalidLength bytes.length 32)

/-- The order of bytes: the first place where two byte strings differ decides, and a byte
string precedes its continuations. -/
def compareBytes : List UInt8 → List UInt8 → Ordering
  | [], [] => .eq
  | [], _ :: _ => .lt
  | _ :: _, [] => .gt
  | a :: as, b :: bs => (Ord.compare a.toNat b.toNat).then (compareBytes as bs)

/-- The order of references. -/
def compare (a b : ModuleRef) : Ordering :=
  compareBytes a.bytes b.bytes

end ModuleRef

end ContractSchema
