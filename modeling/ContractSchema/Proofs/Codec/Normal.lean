import ContractSchema.Proofs.Codec.Decoded

/-!
# The normal form of values

The writer takes more values than the reader returns: whatever stands in place of the
value of a type without bytes, members of objects that no field asks for, amounts with a
plus or with zeros in front, and addresses in upper case. The **normal form** of a value
(`ContractSchema.SchemaType.norm`) is what it comes back as. A value and its normal form
are written as the same bytes (`ContractSchema.encode_norm`).

What does not come back at all are numbers that lose their high bytes when they are
written: integers, lengths of lists and numbers of variants. Where they fit, the value is in
range (`ContractSchema.SchemaType.InRange`).
-/

namespace ContractSchema

/-! ### Normal forms -/

mutual

/-- **The normal form of a value** of a type. -/
@[simp]
def SchemaType.norm : SchemaType → Json → Json
  | .unit, _ => .null
  | .amount, value =>
    match value.string?.bind amount? with
    | some n => .string (toString n)
    | none => value
  | .accountAddress, value =>
    match value.string? with
    | some text => .string (text.map Char.toLower)
    | none => value
  | .list _ item, value =>
    match value.array? with
    | some items => .array (items.map item.norm)
    | none => value
  | .struct fields, value => fields.norm value
  | .enum variants, value =>
    match value with
    | .object [(name, inner)] => .object [(name, normVariant name inner variants)]
    | _ => value
  | _, value => value

/-- **The normal form of the fields** of a value. -/
@[simp]
def Fields.norm : Fields → Json → Json
  | .named fields, value => Json.ofMembers (normNamed fields value)
  | .unnamed fields, value =>
    match value.array? with
    | some items => .array (normUnnamed fields items)
    | none => value
  | .none, _ => .array []

/-- The members for which there are fields with names, in normal form. -/
@[simp]
def normNamed : List (String × SchemaType) → Json → List (String × Json)
  | [], _ => []
  | (name, type) :: rest, value =>
    match value.get? name with
    | some member => (name, type.norm member) :: normNamed rest value
    | none => normNamed rest value

/-- The items for fields without names, in normal form. -/
@[simp]
def normUnnamed : List SchemaType → List Json → List Json
  | type :: rest, item :: items => type.norm item :: normUnnamed rest items
  | _, items => items

/-- The normal form of the value of the first variant with a name. -/
@[simp]
def normVariant (name : String) (inner : Json) : List (String × Fields) → Json
  | [] => inner
  | (variant, fields) :: rest =>
    if variant = name then fields.norm inner else normVariant name inner rest

end

theorem norm_amount {text : String} {n : Nat} (h : amount? text = some n) :
    SchemaType.amount.norm (.string text) = .string (toString n) := by
  rw [SchemaType.norm]
  simp only [Json.string?, Option.bind_some, h]

theorem norm_accountAddress (text : String) :
    SchemaType.accountAddress.norm (.string text) = .string (text.map Char.toLower) := by
  rw [SchemaType.norm]
  rfl

theorem norm_list (size : SizeLength) (item : SchemaType) (items : List Json) :
    (SchemaType.list size item).norm (.array items) = .array (items.map item.norm) := by
  rw [SchemaType.norm]
  rfl

theorem norm_unnamed (fields : List SchemaType) (items : List Json) :
    (Fields.unnamed fields).norm (.array items) = .array (normUnnamed fields items) := by
  rw [Fields.norm]
  rfl

section Named

variable {fields : List (String × SchemaType)} {value : Json}

theorem mem_normNamed {key : String} {x : Json} :
    (key, x) ∈ normNamed fields value ↔
      ∃ type member, (key, type) ∈ fields ∧ value.get? key = some member ∧
        x = type.norm member := by
  induction fields with
  | nil =>
    rw [normNamed]
    simp
  | cons field fields ih =>
    obtain ⟨name, type⟩ := field
    rw [normNamed]
    split
    · next member hmember =>
      rw [List.mem_cons, ih]
      constructor
      · rintro (h | ⟨type', member', hmem, hget, rfl⟩)
        · obtain ⟨rfl, rfl⟩ := Prod.mk.inj h
          exact ⟨type, member, List.mem_cons_self .., hmember, rfl⟩
        · exact ⟨type', member', List.mem_cons_of_mem _ hmem, hget, rfl⟩
      · rintro ⟨type', member', hmem, hget, rfl⟩
        rcases List.mem_cons.mp hmem with h | hmem
        · obtain ⟨rfl, rfl⟩ := Prod.mk.inj h
          obtain rfl := Option.some.inj (hmember.symm.trans hget)
          exact Or.inl rfl
        · exact Or.inr ⟨type', member', hmem, hget, rfl⟩
    · next hnone =>
      rw [ih]
      constructor
      · rintro ⟨type', member', hmem, hget, rfl⟩
        exact ⟨type', member', List.mem_cons_of_mem _ hmem, hget, rfl⟩
      · rintro ⟨type', member', hmem, hget, rfl⟩
        rcases List.mem_cons.mp hmem with h | hmem
        · obtain ⟨rfl, -⟩ := Prod.mk.inj h
          exact absurd (hnone.symm.trans hget) (by simp)
        · exact ⟨type', member', hmem, hget, rfl⟩

theorem map_fst_normNamed_sublist :
    ((normNamed fields value).map (·.1)).Sublist (fields.map (·.1)) := by
  induction fields with
  | nil =>
    rw [normNamed]
    exact .slnil
  | cons field fields ih =>
    rw [normNamed]
    split
    · exact ih.cons_cons field.1
    · exact ih.cons field.1

/-- **The normal form of an object** whose members are in order drops the members that no
field asks for, and leaves the others where they are. -/
theorem norm_named_object {members : List (String × Json)} (ordered : Json.InOrder members)
    (distinct : (fields.map (·.1)).Nodup) :
    (Fields.named fields).norm (.object members) =
      .object (members.filterMap fun member =>
        (fields.lookup member.1).map fun type => (member.1, type.norm member.2)) := by
  have hfilter : Json.InOrder (members.filterMap fun member =>
      (fields.lookup member.1).map fun type => (member.1, type.norm member.2)) := by
    refine List.Pairwise.filterMap _ ?_ ordered
    rintro ⟨key, x⟩ ⟨key', x'⟩ hlt y hy y' hy'
    obtain ⟨type, -, rfl⟩ := Option.map_eq_some_iff.mp hy
    obtain ⟨type', -, rfl⟩ := Option.map_eq_some_iff.mp hy'
    exact hlt
  have hnames : ((normNamed fields (.object members)).map (·.1)).Nodup :=
    distinct.sublist map_fst_normNamed_sublist
  -- both are in order, so it is enough to look up the same under every key
  rw [Fields.norm, Json.ofMembers]
  refine congrArg Json.object (Json.eq_of_lookup_eq (Json.inOrder_orderMembers _) hfilter ?_)
  intro key
  refine Option.ext fun x => ?_
  rw [lookup_eq_some_iff_mem hfilter.distinct, List.mem_filterMap]
  refine (Json.get?_ofMembers_eq_some_iff hnames).trans (mem_normNamed.trans ?_)
  constructor
  · rintro ⟨type, member, htype, hmember, rfl⟩
    refine ⟨(key, member), (lookup_eq_some_iff_mem ordered.distinct).mp hmember, ?_⟩
    rw [(lookup_eq_some_iff_mem distinct).mpr htype]
    rfl
  · rintro ⟨⟨key', member⟩, hmember, hx⟩
    obtain ⟨type, htype, hpair⟩ := Option.map_eq_some_iff.mp hx
    obtain ⟨rfl, rfl⟩ := Prod.mk.inj hpair
    exact ⟨type, member, (lookup_eq_some_iff_mem distinct).mp htype,
      (lookup_eq_some_iff_mem ordered.distinct).mpr hmember, rfl⟩

end Named

/-! ### Range -/

mutual

/-- **A value in range**: what is written of its numbers is all of them. -/
def SchemaType.InRange : SchemaType → Json → Prop
  | .u8, value => ∀ n, value.natural? = some n → n.toNat < 2 ^ 8
  | .u16, value => ∀ n, value.natural? = some n → n.toNat < 2 ^ 16
  | .u32, value => ∀ n, value.natural? = some n → n.toNat < 2 ^ 32
  | .list size item, value =>
    ∀ items, value.array? = some items →
      items.length < 2 ^ (8 * size.byteCount) ∧ ∀ x ∈ items, item.InRange x
  | .struct fields, value => fields.InRange value
  | .enum variants, value =>
    ∀ name inner, value = .object [(name, inner)] → variantInRange name inner variants 0
  | _, _ => True

/-- The fields of a value are in range. -/
def Fields.InRange : Fields → Json → Prop
  | .named fields, value => namedInRange fields value
  | .unnamed fields, value => ∀ items, value.array? = some items → unnamedInRange fields items
  | .none, _ => True

/-- The members for fields with names are in range. -/
def namedInRange : List (String × SchemaType) → Json → Prop
  | [], _ => True
  | (name, type) :: rest, value =>
    (∀ member, value.get? name = some member → type.InRange member) ∧ namedInRange rest value

/-- The items for fields without names are in range. -/
def unnamedInRange : List SchemaType → List Json → Prop
  | type :: rest, item :: items => type.InRange item ∧ unnamedInRange rest items
  | _, _ => True

/-- The first variant with a name, among those numbered from `number` on, has a number of one
byte, and its value is in range. -/
def variantInRange (name : String) (inner : Json) : List (String × Fields) → Nat → Prop
  | [], _ => True
  | (variant, fields) :: rest, number =>
    if variant = name then number < 256 ∧ fields.InRange inner
    else variantInRange name inner rest (number + 1)

end

/-! ### Writing normal forms -/

section Writing

/-- The bytes of a value are those of its normal form. -/
abbrev SchemaType.NormWritten (type : SchemaType) : Prop :=
  ∀ value b, type.encode value = .ok b → type.encode (type.norm value) = .ok b

/-- The bytes of the fields of a value are those of their normal form. -/
abbrev Fields.NormWritten (fields : Fields) : Prop :=
  ∀ value b, fields.encode value = .ok b → fields.encode (fields.norm value) = .ok b

theorem map_fst_normNamed {fields : List (String × SchemaType)} {value : Json} {b : List UInt8}
    (h : encodeNamed fields value = .ok b) :
    (normNamed fields value).map (·.1) = fields.map (·.1) := by
  induction fields generalizing b with
  | nil => rw [normNamed]; rfl
  | cons field fields ih =>
    obtain ⟨member, first, others, hmember, -, hothers, -⟩ := encodeNamed_cons_eq_ok_iff.mp h
    rw [normNamed]
    simp only [hmember, List.map_cons, ih hothers]

theorem encodeNamed_normNamed {fields : List (String × SchemaType)}
    (h : ∀ field ∈ fields, field.2.NormWritten) {value object : Json} {b : List UInt8}
    (hencode : encodeNamed fields value = .ok b)
    (hobject : ∀ member ∈ normNamed fields value, object.get? member.1 = some member.2) :
    encodeNamed fields object = .ok b := by
  induction fields generalizing b with
  | nil =>
    rw [encodeNamed] at hencode ⊢
    exact hencode
  | cons field fields ih =>
    obtain ⟨hfield, hfields⟩ := List.forall_mem_cons.mp h
    obtain ⟨member, first, others, hmember, hfirst, hothers, rfl⟩ :=
      encodeNamed_cons_eq_ok_iff.mp hencode
    rw [normNamed] at hobject
    simp only [hmember] at hobject
    obtain ⟨hget, hobject⟩ := List.forall_mem_cons.mp hobject
    exact encodeNamed_cons_eq_ok_iff.mpr ⟨_, first, others, hget, hfield member first hfirst,
      ih hfields hothers hobject, rfl⟩

theorem length_normUnnamed (fields : List SchemaType) (items : List Json) :
    (normUnnamed fields items).length = items.length := by
  induction fields generalizing items with
  | nil => rw [normUnnamed]; simp
  | cons type fields ih =>
    rcases items with _ | ⟨item, items⟩
    · rw [normUnnamed]; simp
    · rw [normUnnamed, List.length_cons, List.length_cons, ih]

theorem encodeUnnamed_normUnnamed {fields : List SchemaType}
    (h : ∀ type ∈ fields, type.NormWritten) {items : List Json} {b : List UInt8}
    (hencode : encodeUnnamed fields items = .ok b) :
    encodeUnnamed fields (normUnnamed fields items) = .ok b := by
  induction fields generalizing items b with
  | nil =>
    rw [normUnnamed]
    · exact hencode
    · simp
  | cons type fields ih =>
    obtain ⟨htype, hfields⟩ := List.forall_mem_cons.mp h
    rcases items with _ | ⟨item, items⟩
    · rw [normUnnamed]
      · exact hencode
      · simp
    · obtain ⟨first, others, hfirst, hothers, rfl⟩ := encodeUnnamed_cons_eq_ok_iff.mp hencode
      rw [normUnnamed]
      exact encodeUnnamed_cons_eq_ok_iff.mpr
        ⟨first, others, htype item first hfirst, ih hfields hothers, rfl⟩

theorem encodeFields_norm {fields : Fields} (distinct : fields.names.Nodup)
    (h : ∀ type ∈ fields.types, type.NormWritten) : fields.NormWritten := by
  intro value b hencode
  cases fields with
  | named fields =>
    rw [Fields.encode] at hencode
    have hfields : ∀ field ∈ fields, field.2.NormWritten := List.forall_mem_map.mp h
    have hmembers : ((normNamed fields value).map (·.1)).Nodup := by
      rw [map_fst_normNamed hencode]
      exact distinct
    rw [Fields.norm, Fields.encode]
    exact encodeNamed_normNamed hfields hencode fun member hmember =>
      (Json.get?_ofMembers_eq_some_iff hmembers).mpr hmember
  | unnamed fields =>
    obtain ⟨items, rfl, hlength, hencode⟩ := encodeUnnamedFields_eq_ok_iff.mp hencode
    rw [norm_unnamed]
    refine encodeUnnamedFields_eq_ok_iff.mpr ⟨_, rfl, ?_, encodeUnnamed_normUnnamed h hencode⟩
    rw [length_normUnnamed, hlength]
  | none =>
    rw [Fields.encode] at hencode ⊢
    exact hencode

theorem encodeVariant_norm {name : String} {inner : Json} {variants : List (String × Fields)}
    (h : ∀ variant ∈ variants, variant.2.NormWritten) {number : Nat} {b : List UInt8}
    (hencode : encodeVariant name inner variants number = .ok b) :
    encodeVariant name (normVariant name inner variants) variants number = .ok b := by
  induction variants generalizing number with
  | nil =>
    rw [encodeVariant] at hencode
    exact absurd hencode (by simp)
  | cons variant variants ih =>
    obtain ⟨variant, fields⟩ := variant
    obtain ⟨hvariant, hvariants⟩ := List.forall_mem_cons.mp h
    rw [normVariant]
    rcases encodeVariant_cons_eq_ok_iff.mp hencode with ⟨hname, bytes, hbytes, rfl⟩ | ⟨hne, hencode⟩
    · rw [if_pos hname]
      exact encodeVariant_cons_eq_ok_iff.mpr
        (Or.inl ⟨hname, bytes, hvariant inner bytes hbytes, rfl⟩)
    · rw [if_neg hne]
      exact encodeVariant_cons_eq_ok_iff.mpr (Or.inr ⟨hne, ih hvariants hencode⟩)

theorem encodeList_norm {size : SizeLength} {item : SchemaType} (h : item.NormWritten) :
    (SchemaType.list size item).NormWritten := by
  intro value b hencode
  obtain ⟨items, parts, rfl, hparts, rfl⟩ := encodeList_eq_ok_iff.mp hencode
  have hnorm : List.Forall₂ item.Written parts (items.map item.norm) :=
    List.forall₂_map_right_iff.mpr (hparts.imp fun part x hx => h x part hx)
  rw [norm_list]
  exact encodeList_eq_ok_iff.mpr ⟨_, parts, rfl, hnorm, by rw [List.length_map]⟩

theorem encodeAmount_norm : SchemaType.amount.NormWritten := by
  intro value b hencode
  obtain ⟨text, n, rfl, hamount, rfl⟩ := encodeAmount_eq_ok_iff.mp hencode
  rw [norm_amount hamount]
  exact encodeAmount_eq_ok_iff.mpr
    ⟨toString n, n, rfl, amount?_toString (amount?_lt hamount), rfl⟩

theorem encodeAccountAddress_norm : SchemaType.accountAddress.NormWritten := by
  intro value b hencode
  obtain ⟨text, rfl, hread, hlength⟩ := encodeAccountAddress_eq_ok_iff.mp hencode
  -- the text in lower case is the hexadecimal form of the bytes
  have hlower : Hex.decode (text.map Char.toLower) = .ok b := by
    rw [← Hex.encode_eq_of_decode hread]
    exact Hex.decode_encode b
  rw [norm_accountAddress]
  exact encodeAccountAddress_eq_ok_iff.mpr ⟨_, rfl, hlower, hlength⟩

/-- **A value and its normal form are written as the same bytes.** -/
theorem encode_norm {type : SchemaType} (distinct : type.Everywhere SchemaType.DistinctFields) :
    type.NormWritten := by
  induction type using SchemaType.partInduction with
  | step type ih =>
    have hpart : ∀ part : SchemaType, part.PartOf type → part.NormWritten := fun part hp =>
      ih part hp (distinct.part hp)
    have hfields : ∀ fields : Fields, type.HasFields fields → fields.NormWritten :=
      fun fields hf => encodeFields_norm (distinct.here fields hf) fun part hp =>
        hpart part (.field hf hp)
    cases type with
    | list size item => exact encodeList_norm (hpart item (.listItem ..))
    | struct fields =>
      intro value b hencode
      rw [SchemaType.norm]
      exact hfields fields (.struct fields) value b hencode
    | enum variants =>
      intro value b hencode
      obtain ⟨name, inner, rfl, hvariant⟩ := encodeEnum_eq_ok_iff.mp hencode
      exact encodeVariant_norm (fun variant hv => hfields variant.2 (.enum hv)) hvariant
    | amount => exact encodeAmount_norm
    | accountAddress => exact encodeAccountAddress_norm
    | _ =>
      intro value b hencode
      exact hencode

end Writing

end ContractSchema
