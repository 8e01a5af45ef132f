import ContractSchema.Text.Graphic

/-!
# Names of contracts and entrypoints

A contract is known by a name without dots, an entrypoint by a name which may
contain dots and may even be empty: the empty name denotes the fallback
entrypoint. On chain the init function of a contract is called by the name of the
contract behind `init_`, and a receive function by both names with a dot between
them; since the name of the contract has no dot, the first dot divides the two.

* `ContractSchema.ContractName` and `ContractSchema.EntrypointName` are texts which satisfy
  the rules for names.
* `ContractSchema.ContractName.ofString` and `ContractSchema.EntrypointName.ofString` check
  the rules; `ContractSchema.NameError` says which rule a text breaks.
* `ContractSchema.ContractName.ofLiteral` and `ContractSchema.EntrypointName.ofLiteral` are
  for names written down in advance, where a broken rule is a mistake of the author.
-/

namespace ContractSchema

/-- Which rule for names a text breaks. -/
inductive NameError
  /-- A contract name is empty. -/
  | empty
  /-- The name takes more bytes than the limit. -/
  | tooLong (name : String) (limit : Nat)
  /-- The name contains a character which names must not contain. -/
  | invalidChar (name : String) (char : Char)
  /-- A contract name contains a dot. -/
  | containsDot (name : String)
deriving DecidableEq, Repr

/-- The text of the error. -/
def NameError.message : NameError → String
  | .empty => "contract name must not be empty."
  | .tooLong name limit => s!"name '{name}' is longer than {limit} bytes."
  | .invalidChar name char =>
    "name '" ++ name ++ "' contains character " ++ Graphic.quote char ++
      ", while only ASCII alphanumeric and punctuation characters are allowed."
  | .containsDot name => s!"contract name '{name}' must not contain a dot."

/-- Whether a character is one of the ASCII punctuation marks. -/
def isPunctuation (c : Char) : Bool :=
  let n := c.toNat
  (33 ≤ n && n ≤ 47) || (58 ≤ n && n ≤ 64) || (91 ≤ n && n ≤ 96) || (123 ≤ n && n ≤ 126)

/-- Whether a name may contain a character: ASCII letters, digits and punctuation. -/
def isNameChar (c : Char) : Bool :=
  c.isAlphanum || isPunctuation c

/-! ### Contracts -/

/-- The greatest number of bytes of a contract name. The name of the init function is five
bytes longer and has to fit into a hundred. -/
def ContractName.maxLength : Nat := 95

/-- The rules for contract names. -/
def ContractName.IsValid (text : String) : Prop :=
  text ≠ "" ∧ text.utf8ByteSize ≤ maxLength ∧
    (∀ c ∈ text.toList, isNameChar c = true) ∧ '.' ∉ text.toList

instance (text : String) : Decidable (ContractName.IsValid text) :=
  inferInstanceAs (Decidable (_ ∧ _ ∧ _ ∧ _))

/-- **The name of a contract**, without the `init_` in front. -/
@[ext]
structure ContractName where
  /-- The name as a text. -/
  text : String
  /-- The text satisfies the rules. -/
  isValid : ContractName.IsValid text
deriving DecidableEq

namespace ContractName

/-- Checks the rules for contract names, the length before the characters. -/
def ofString (text : String) : Except NameError ContractName :=
  if empty : text = "" then .error .empty
  else if long : maxLength < text.utf8ByteSize then .error (.tooLong text maxLength)
  else
    match allowed : text.toList.find? (fun c => !isNameChar c) with
    | some c => .error (.invalidChar text c)
    | none =>
      if dot : '.' ∈ text.toList then .error (.containsDot text)
      else .ok ⟨text, empty, by omega, by simpa using List.find?_eq_none.mp allowed, dot⟩

/-- The name of the init function on chain. -/
def initName (name : ContractName) : String :=
  "init_" ++ name.text

end ContractName

/-! ### Entrypoints -/

/-- The greatest number of bytes of an entrypoint name. -/
def EntrypointName.maxLength : Nat := 99

/-- The rules for entrypoint names. -/
def EntrypointName.IsValid (text : String) : Prop :=
  text.utf8ByteSize ≤ maxLength ∧ ∀ c ∈ text.toList, isNameChar c = true

instance (text : String) : Decidable (EntrypointName.IsValid text) :=
  inferInstanceAs (Decidable (_ ∧ _))

/-- **The name of an entrypoint** as it is known on chain. -/
@[ext]
structure EntrypointName where
  /-- The name as a text. -/
  text : String
  /-- The text satisfies the rules. -/
  isValid : EntrypointName.IsValid text
deriving DecidableEq

namespace EntrypointName

/-- Checks the rules for entrypoint names, the length before the characters. -/
def ofString (text : String) : Except NameError EntrypointName :=
  if long : maxLength < text.utf8ByteSize then .error (.tooLong text maxLength)
  else
    match allowed : text.toList.find? (fun c => !isNameChar c) with
    | some c => .error (.invalidChar text c)
    | none => .ok ⟨text, by omega, by simpa using List.find?_eq_none.mp allowed⟩

/-- Whether the name denotes the fallback entrypoint. -/
def isFallback (name : EntrypointName) : Bool :=
  name.text.isEmpty

/-- Names in ascending order of their texts. -/
def sort (names : List EntrypointName) : List EntrypointName :=
  names.mergeSort fun a b => a.text ≤ b.text

end EntrypointName

/-! ### Names written down in advance -/

/-- A name written down in advance which breaks a rule. -/
inductive LiteralError
  /-- The name was meant for a contract. -/
  | contract (error : NameError)
  /-- The name was meant for an entrypoint. -/
  | entrypoint (error : NameError)
deriving DecidableEq, Repr

/-- The text of the error. -/
def LiteralError.message : LiteralError → String
  | .contract error => "invalid contract name literal: " ++ error.message
  | .entrypoint error => "invalid entrypoint name literal: " ++ error.message

/-- A contract name written down in advance. -/
def ContractName.ofLiteral (text : String) : Except LiteralError ContractName :=
  (ofString text).mapError .contract

/-- An entrypoint name written down in advance. -/
def EntrypointName.ofLiteral (text : String) : Except LiteralError EntrypointName :=
  (ofString text).mapError .entrypoint

end ContractSchema
