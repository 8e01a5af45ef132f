import ContractSchema.Proofs.Codec.Normal

/-!
# Values that have been written are read in normal form

What is written for a value in range is read back as its normal form
(`ContractSchema.accepts_decode`), whatever bytes follow. Together with what is known about
writing normal forms this is the round trip from values to bytes and back
(`ContractSchema.encoded_values_decode_to_norm`).
-/

namespace ContractSchema

open ValueReader

/-! ### Fields and variants -/

section Fields

/-- What is written for a value in range is read as its normal form. -/
abbrev SchemaType.NormRead (type : SchemaType) : Prop :=
  ∀ value b, type.encode value = .ok b → type.InRange value →
    Accepts type.decode b (type.norm value)

/-- What is written for the fields of a value in range is read as their normal form. -/
abbrev Fields.NormRead (fields : Fields) : Prop :=
  ∀ value b, fields.encode value = .ok b → fields.InRange value →
    Accepts fields.decode b (fields.norm value)

theorem accepts_decodeNamed {fields : List (String × SchemaType)}
    (h : ∀ field ∈ fields, field.2.NormRead) {value : Json} {b : List UInt8}
    (hencode : encodeNamed fields value = .ok b) (hrange : namedInRange fields value) :
    Accepts (decodeNamed fields) b (normNamed fields value) := by
  induction fields generalizing b with
  | nil =>
    rw [encodeNamed] at hencode
    obtain rfl := Except.ok.inj hencode
    rw [decodeNamed, normNamed]
    exact accepts_pure []
  | cons field fields ih =>
    obtain ⟨hfield, hfields⟩ := List.forall_mem_cons.mp h
    obtain ⟨member, first, others, hmember, hfirst, hothers, rfl⟩ :=
      encodeNamed_cons_eq_ok_iff.mp hencode
    rw [namedInRange] at hrange
    have hread := hfield member first hfirst (hrange.1 member hmember)
    have hread' := ih hfields hothers hrange.2
    rw [decodeNamed, normNamed]
    simp only [hmember]
    exact hread.bind (hread'.bind_pure fun members => (field.1, field.2.norm member) :: members)

theorem accepts_decodeUnnamed {fields : List SchemaType} (h : ∀ type ∈ fields, type.NormRead)
    {items : List Json} (hlength : items.length = fields.length) {b : List UInt8}
    (hencode : encodeUnnamed fields items = .ok b) (hrange : unnamedInRange fields items) :
    Accepts (decodeUnnamed fields) b (normUnnamed fields items) := by
  induction fields generalizing items b with
  | nil =>
    obtain rfl : items = [] := List.length_eq_zero_iff.mp hlength
    obtain rfl : [] = b := Except.ok.inj hencode
    rw [decodeUnnamed]
    exact accepts_pure []
  | cons type fields ih =>
    obtain ⟨htype, hfields⟩ := List.forall_mem_cons.mp h
    rcases items with _ | ⟨item, items⟩
    · exact absurd hlength (by simp)
    · obtain ⟨first, others, hfirst, hothers, rfl⟩ := encodeUnnamed_cons_eq_ok_iff.mp hencode
      rw [unnamedInRange] at hrange
      have hread := htype item first hfirst hrange.1
      have hread' := ih hfields (Nat.succ.inj hlength) hothers hrange.2
      rw [decodeUnnamed, normUnnamed]
      exact hread.bind (hread'.bind_pure (type.norm item :: ·))

theorem accepts_decodeFields {fields : Fields} (h : ∀ type ∈ fields.types, type.NormRead) :
    fields.NormRead := by
  intro value b hencode hrange
  cases fields with
  | named fields =>
    rw [Fields.encode] at hencode
    rw [Fields.InRange] at hrange
    have hfields : ∀ field ∈ fields, field.2.NormRead := List.forall_mem_map.mp h
    rw [Fields.decode, Fields.norm]
    exact (accepts_decodeNamed hfields hencode hrange).bind_pure Json.ofMembers
  | unnamed fields =>
    obtain ⟨items, rfl, hlength, hencode⟩ := encodeUnnamedFields_eq_ok_iff.mp hencode
    rw [Fields.InRange] at hrange
    rw [Fields.decode, norm_unnamed]
    exact (accepts_decodeUnnamed h hlength hencode (hrange items rfl)).bind_pure Json.array
  | none =>
    rw [Fields.encode] at hencode
    obtain rfl := Except.ok.inj hencode
    rw [Fields.decode, Fields.norm]
    exact accepts_pure _

/-- The variant that is written is the one at its place. -/
theorem accepts_decodeNumbered {name : String} {inner : Json} {variants : List (String × Fields)}
    (h : ∀ variant ∈ variants, variant.2.NormRead) {number : Nat} {b : List UInt8}
    (hencode : encodeVariant name inner variants number = .ok b)
    (hrange : variantInRange name inner variants number) :
    ∃ place bytes, b = UInt8.ofNat (number + place) :: bytes ∧ number + place < 256 ∧
      ∀ tag, Accepts (decodeNumbered tag variants place) bytes
        (.object [(name, normVariant name inner variants)]) := by
  induction variants generalizing number with
  | nil =>
    rw [encodeVariant] at hencode
    exact absurd hencode (by simp)
  | cons variant variants ih =>
    obtain ⟨variant, fields⟩ := variant
    obtain ⟨hvariant, hvariants⟩ := List.forall_mem_cons.mp h
    rw [variantInRange] at hrange
    rw [normVariant]
    rcases encodeVariant_cons_eq_ok_iff.mp hencode with ⟨rfl, bytes, hbytes, rfl⟩ | ⟨hne, hencode⟩
    · rw [if_pos rfl] at hrange
      refine ⟨0, bytes, rfl, hrange.1, fun tag => ?_⟩
      rw [decodeNumbered, if_pos rfl]
      exact (hvariant inner bytes hbytes hrange.2).bind_pure fun value =>
        Json.ofMembers [(variant, value)]
    · rw [if_neg hne] at hrange
      obtain ⟨place, bytes, rfl, hlt, hread⟩ := ih hvariants hencode hrange
      refine ⟨place + 1, bytes, by rw [Nat.add_right_comm, Nat.add_assoc], by omega, fun tag => ?_⟩
      rw [decodeNumbered, if_neg hne]
      exact hread tag

end Fields

/-! ### Types -/

theorem accepts_decodeList {size : SizeLength} {item : SchemaType} (h : item.NormRead) :
    (SchemaType.list size item).NormRead := by
  intro value b hencode hrange
  obtain ⟨items, parts, rfl, hparts, rfl⟩ := encodeList_eq_ok_iff.mp hencode
  rw [SchemaType.InRange] at hrange
  obtain ⟨hlength, hrange⟩ := hrange items rfl
  have hfits : items.length < 256 ^ size.byteCount := by
    rw [Nat.pow_mul] at hlength
    exact hlength
  have hitem : List.Forall₂ (fun b value => Accepts item.decode b value) parts
      (items.map item.norm) := by
    refine List.forall₂_map_right_iff.mpr (forall₂_imp_of_mem hparts ?_)
    exact fun part x hx hpart => h x part hpart (hrange x hx)
  have hread : Accepts (takeMany item.decode (items.map item.norm).length) parts.flatten
      (items.map item.norm) := accepts_many rfl (fun _ => rfl) hitem
  rw [List.length_map] at hread
  rw [SchemaType.decode, norm_list]
  exact (accepts_takeUnsigned hfits).bind (hread.bind_pure Json.array)

theorem accepts_decodeEnum {variants : List (String × Fields)}
    (h : ∀ variant ∈ variants, variant.2.NormRead) : (SchemaType.enum variants).NormRead := by
  intro value b hencode hrange
  obtain ⟨name, inner, rfl, hvariant⟩ := encodeEnum_eq_ok_iff.mp hencode
  rw [SchemaType.InRange] at hrange
  obtain ⟨place, bytes, rfl, hlt, hread⟩ :=
    accepts_decodeNumbered h hvariant (hrange name inner rfl)
  rw [Nat.zero_add] at hlt ⊢
  -- the number of the variant fits into its byte, and is read as it was written
  have htag : (UInt8.ofNat place).toNat = place := UInt8.toNat_ofNat_of_lt' hlt
  rw [SchemaType.decode]
  refine (accepts_takeByte (UInt8.ofNat place)).bind ?_
  rw [htag]
  exact hread (UInt8.ofNat place)

theorem accepts_decodeBool : SchemaType.bool.NormRead := by
  intro value b hencode hrange
  obtain ⟨truth, rfl, rfl⟩ := encodeBool_eq_ok_iff.mp hencode
  rw [SchemaType.decode]
  cases truth with
  | false => exact (accepts_takeByte 0).bind (accepts_pure (Json.bool false))
  | true => exact (accepts_takeByte 1).bind (accepts_pure (Json.bool true))

theorem accepts_decodeAmount : SchemaType.amount.NormRead := by
  intro value b hencode hrange
  obtain ⟨text, n, rfl, hamount, rfl⟩ := encodeAmount_eq_ok_iff.mp hencode
  rw [SchemaType.decode, norm_amount hamount]
  exact (accepts_takeUnsigned (amount?_lt hamount)).bind_pure fun n => Json.string (toString n)

theorem accepts_decodeAccountAddress : SchemaType.accountAddress.NormRead := by
  intro value b hencode hrange
  obtain ⟨text, rfl, hread, hlength⟩ := encodeAccountAddress_eq_ok_iff.mp hencode
  have htake := accepts_takeHex b
  rw [hlength, Hex.encode_eq_of_decode hread] at htake
  rw [SchemaType.decode, norm_accountAddress]
  exact htake

/-- **What is written is read in normal form.** -/
theorem accepts_decode (type : SchemaType) : type.NormRead := by
  induction type using SchemaType.partInduction with
  | step type ih =>
    have hfields : ∀ fields : Fields, type.HasFields fields → fields.NormRead :=
      fun fields hf => accepts_decodeFields fun part hp => ih part (.field hf hp)
    cases type with
    | list size item => exact accepts_decodeList (ih item (.listItem ..))
    | struct fields =>
      intro value b hencode hrange
      rw [SchemaType.decode, SchemaType.norm]
      exact hfields fields (.struct fields) value b hencode hrange
    | enum variants => exact accepts_decodeEnum fun variant hv => hfields variant.2 (.enum hv)
    | unit =>
      intro value b hencode hrange
      rw [SchemaType.encode] at hencode
      obtain rfl := Except.ok.inj hencode
      rw [SchemaType.decode, SchemaType.norm]
      exact accepts_pure _
    | bool => exact accepts_decodeBool
    | amount => exact accepts_decodeAmount
    | accountAddress => exact accepts_decodeAccountAddress
    | u8 | u16 | u32 =>
      intro value b hencode hrange
      rw [SchemaType.decode]
      exact accepts_takeNumber hencode hrange
    | u64 | timestamp | duration =>
      intro value b hencode hrange
      rw [SchemaType.decode]
      exact accepts_takeNumber hencode fun n _ => n.toNat_lt
    | _ =>
      intro value b hencode hrange
      cases hencode

/-! ### Codecs -/

/-- **Values that have been written come back in normal form.** Under a schema of a type in
which the names tell fields apart, what is encoded for a value in range is decoded as the
normal form of the value, which is encoded in the same way. -/
theorem encoded_values_decode_to_norm {blob : SchemaBlob} {type : SchemaType} {value : Json}
    {data : List UInt8} (hblob : blob.parse = .ok type)
    (fields : type.Everywhere SchemaType.DistinctFields)
    (hencode : valueCodec.encode blob value = .ok data) (hrange : type.InRange value) :
    valueCodec.decode blob data = .ok (type.norm value) ∧
      valueCodec.encode blob (type.norm value) = .ok data := by
  rw [valueCodec_encode hblob] at hencode ⊢
  rw [valueCodec_decode_eq_ok_iff hblob]
  have hread := accepts_decode type value data hencode hrange
  exact ⟨hread data [] (List.append_nil data).symm, encode_norm fields value data hencode⟩

/-- An amount with a plus and a zero in front, and a member that no field asks for. -/
theorem encoded_values_decode_to_norm_payment :
    valueCodec.encode ⟨"FAACAAAABgAAAGFtb3VudAoCAAAAaWQC"⟩
        (.object [("amount", .string "+05"), ("comment", .null), ("id", Json.ofNat 7)]) =
      .ok [5, 0, 0, 0, 0, 0, 0, 0, 7] ∧
    valueCodec.decode ⟨"FAACAAAABgAAAGFtb3VudAoCAAAAaWQC"⟩ [5, 0, 0, 0, 0, 0, 0, 0, 7] =
      .ok (.object [("amount", .string "5"), ("id", Json.ofNat 7)]) := by
  have hblob : (SchemaBlob.mk "FAACAAAABgAAAGFtb3VudAoCAAAAaWQC").parse =
      .ok (.struct (.named [("amount", .amount), ("id", .u8)])) := rfl
  have hfields : SchemaType.Everywhere SchemaType.DistinctFields
      (.struct (.named [("amount", .amount), ("id", .u8)])) := by
    have hamount : SchemaType.amount.Everywhere SchemaType.DistinctFields :=
      SchemaType.everywhere_of_depth_le_one (by decide) (by rintro fields ⟨⟩)
    have hu8 : SchemaType.u8.Everywhere SchemaType.DistinctFields :=
      SchemaType.everywhere_of_depth_le_one (by decide) (by rintro fields ⟨⟩)
    refine SchemaType.everywhere_struct_iff.mpr ⟨distinctFields_struct_iff.mpr (by decide), ?_⟩
    simp [Fields.types, hamount, hu8]
  have hencode : valueCodec.encode ⟨"FAACAAAABgAAAGFtb3VudAoCAAAAaWQC"⟩
      (.object [("amount", .string "+05"), ("comment", .null), ("id", Json.ofNat 7)]) =
    .ok [5, 0, 0, 0, 0, 0, 0, 0, 7] := rfl
  have hrange : SchemaType.InRange (.struct (.named [("amount", .amount), ("id", .u8)]))
      (.object [("amount", .string "+05"), ("comment", .null), ("id", Json.ofNat 7)]) := by
    refine ⟨fun _ _ => trivial, fun member hmember n hn => ?_, trivial⟩
    obtain rfl := Option.some.inj hmember
    obtain rfl := Option.some.inj hn
    decide
  exact ⟨hencode, (encoded_values_decode_to_norm hblob hfields hencode hrange).1⟩

end ContractSchema
