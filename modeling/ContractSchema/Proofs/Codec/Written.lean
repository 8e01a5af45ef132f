import ContractSchema.Proofs.Codec.Atoms

/-!
# What is written for a value

The writer of values looks at a value and either refuses it or goes on with its parts. Here
this is turned round: for every form of type it is said which values are written as given
bytes. These are the languages that readers of values are compared with
(`ContractSchema.SchemaType.Written`, `ContractSchema.Fields.Written`).
-/

namespace ContractSchema

attribute [simp] SchemaType.encode Fields.encode encodeNamed encodeUnnamed encodeVariant

attribute [simp] SchemaType.decode Fields.decode decodeNamed decodeUnnamed decodeNumbered

/-- The language of a type: the values that are written as the bytes. -/
abbrev SchemaType.Written (type : SchemaType) : Language Json :=
  fun bytes value => type.encode value = .ok bytes

/-- The language of fields: the values that are written as the bytes. -/
abbrev Fields.Written (fields : Fields) : Language Json :=
  fun bytes value => fields.encode value = .ok bytes

variable {value : Json} {b : List UInt8}

/-! ### Values without parts -/

theorem encodeBool_eq_ok_iff :
    SchemaType.bool.encode value = .ok b ↔
      ∃ truth, value = .bool truth ∧ b = [if truth then 1 else 0] := by
  rw [SchemaType.encode]
  constructor
  · intro h
    split at h
    · next truth htruth =>
      exact ⟨truth, Json.bool?_eq_some_iff.mp htruth, (Except.ok.inj h).symm⟩
    · exact absurd h (by simp)
  · rintro ⟨truth, rfl, rfl⟩
    rfl

theorem encodeAmount_eq_ok_iff :
    SchemaType.amount.encode value = .ok b ↔
      ∃ text n, value = .string text ∧ amount? text = some n ∧ b = littleEndianBytes 8 n := by
  rw [SchemaType.encode]
  constructor
  · intro h
    split at h
    · next n hn =>
      obtain ⟨text, htext, hamount⟩ := Option.bind_eq_some_iff.mp hn
      exact ⟨text, n, Json.string?_eq_some_iff.mp htext, hamount, (Except.ok.inj h).symm⟩
    · exact absurd h (by simp)
  · rintro ⟨text, n, rfl, hamount, rfl⟩
    simp only [Json.string?, Option.bind_some, hamount]

theorem encodeAccountAddress_eq_ok_iff :
    SchemaType.accountAddress.encode value = .ok b ↔
      ∃ text, value = .string text ∧ Hex.decode text = .ok b ∧ b.length = 32 := by
  rw [SchemaType.encode]
  constructor
  · intro h
    split at h
    · next bytes hbytes =>
      obtain rfl := Except.ok.inj h
      obtain ⟨text, htext, haccount⟩ := Option.bind_eq_some_iff.mp hbytes
      exact ⟨text, Json.string?_eq_some_iff.mp htext, account?_eq_some_iff.mp haccount⟩
    · exact absurd h (by simp)
  · rintro ⟨text, rfl, haccount⟩
    simp only [Json.string?, Option.bind_some, account?_eq_some_iff.mpr haccount]

/-! ### Values with parts -/

theorem encodeList_eq_ok_iff {size : SizeLength} {item : SchemaType} :
    (SchemaType.list size item).encode value = .ok b ↔
      ∃ items parts, value = .array items ∧ List.Forall₂ item.Written parts items ∧
        b = littleEndianBytes size.byteCount items.length ++ parts.flatten := by
  rw [SchemaType.encode]
  constructor
  · intro h
    split at h
    · next items hitems =>
      obtain ⟨parts, hparts, h⟩ := except_bind_eq_ok.mp h
      exact ⟨items, parts, Json.array?_eq_some_iff.mp hitems, mapM_eq_ok_iff.mp hparts,
        (Except.ok.inj h).symm⟩
    · exact absurd h (by simp)
  · rintro ⟨items, parts, rfl, hparts, rfl⟩
    exact except_bind_eq_ok.mpr ⟨parts, mapM_eq_ok_iff.mpr hparts, rfl⟩

theorem encodeEnum_eq_ok_iff {variants : List (String × Fields)} :
    (SchemaType.enum variants).encode value = .ok b ↔
      ∃ name inner, value = .object [(name, inner)] ∧
        encodeVariant name inner variants 0 = .ok b := by
  constructor
  · intro h
    rcases value with _ | _ | _ | _ | _ | (_ | ⟨⟨name, inner⟩, _ | ⟨member, members⟩⟩)
    case object.cons.nil => exact ⟨name, inner, rfl, h⟩
    all_goals cases h
  · rintro ⟨name, inner, rfl, h⟩
    exact h

theorem encodeUnnamedFields_eq_ok_iff {fields : List SchemaType} :
    (Fields.unnamed fields).encode value = .ok b ↔
      ∃ items, value = .array items ∧ items.length = fields.length ∧
        encodeUnnamed fields items = .ok b := by
  rw [Fields.encode]
  constructor
  · intro h
    split at h
    · next items hitems =>
      split at h
      · next hlength => exact ⟨items, Json.array?_eq_some_iff.mp hitems, hlength, h⟩
      · exact absurd h (by simp)
    · exact absurd h (by simp)
  · rintro ⟨items, rfl, hlength, h⟩
    exact (if_pos hlength).trans h

/-! ### One field, one variant -/

/-- What is written has a member for every field. -/
theorem encodeNamed_cons_eq_ok_iff {name : String} {type : SchemaType}
    {fields : List (String × SchemaType)} :
    encodeNamed ((name, type) :: fields) value = .ok b ↔
      ∃ member first others, value.get? name = some member ∧ type.encode member = .ok first ∧
        encodeNamed fields value = .ok others ∧ b = first ++ others := by
  rw [encodeNamed]
  constructor
  · intro h
    split at h
    · next member hmember =>
      obtain ⟨first, hfirst, h⟩ := except_bind_eq_ok.mp h
      obtain ⟨others, hothers, h⟩ := except_bind_eq_ok.mp h
      exact ⟨member, first, others, hmember, hfirst, hothers, (Except.ok.inj h).symm⟩
    · exact absurd h (by simp)
  · rintro ⟨member, first, others, hmember, hfirst, hothers, rfl⟩
    rw [hmember]
    exact except_bind_eq_ok.mpr ⟨first, hfirst, except_bind_eq_ok.mpr ⟨others, hothers, rfl⟩⟩

theorem encodeUnnamed_cons_eq_ok_iff {type : SchemaType} {fields : List SchemaType} {item : Json}
    {items : List Json} :
    encodeUnnamed (type :: fields) (item :: items) = .ok b ↔
      ∃ first others, type.encode item = .ok first ∧ encodeUnnamed fields items = .ok others ∧
        b = first ++ others := by
  rw [encodeUnnamed]
  constructor
  · intro h
    obtain ⟨first, hfirst, h⟩ := except_bind_eq_ok.mp h
    obtain ⟨others, hothers, h⟩ := except_bind_eq_ok.mp h
    exact ⟨first, others, hfirst, hothers, (Except.ok.inj h).symm⟩
  · rintro ⟨first, others, hfirst, hothers, rfl⟩
    exact except_bind_eq_ok.mpr ⟨first, hfirst, except_bind_eq_ok.mpr ⟨others, hothers, rfl⟩⟩

/-- A variant is written if it has the name, and otherwise one behind it is. -/
theorem encodeVariant_cons_eq_ok_iff {name variant : String} {inner : Json} {fields : Fields}
    {variants : List (String × Fields)} {number : Nat} :
    encodeVariant name inner ((variant, fields) :: variants) number = .ok b ↔
      (variant = name ∧ ∃ bytes, fields.encode inner = .ok bytes ∧
        b = UInt8.ofNat number :: bytes) ∨
      (variant ≠ name ∧ encodeVariant name inner variants (number + 1) = .ok b) := by
  rw [encodeVariant]
  by_cases hname : variant = name
  · rw [if_pos hname]
    constructor
    · intro h
      obtain ⟨bytes, hbytes, h⟩ := except_bind_eq_ok.mp h
      exact Or.inl ⟨hname, bytes, hbytes, (Except.ok.inj h).symm⟩
    · rintro (⟨-, bytes, hbytes, rfl⟩ | ⟨hne, -⟩)
      · exact except_bind_eq_ok.mpr ⟨bytes, hbytes, rfl⟩
      · exact absurd hname hne
  · rw [if_neg hname]
    constructor
    · exact fun h => Or.inr ⟨hname, h⟩
    · rintro (⟨heq, -⟩ | ⟨-, h⟩)
      · exact absurd heq hname
      · exact h

end ContractSchema
