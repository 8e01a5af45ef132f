import ContractSchema.Method
import ContractSchema.Proofs.Codec.Written
import ContractSchema.Proofs.Schema.Parts

/-!
# Values that have been read are written as they were

A value that is read from bytes is written as the same bytes again. This asks of the
type that its values can be written at all
(`ContractSchema.SchemaType.Writable`), and that the names in it tell fields and variants
apart (`ContractSchema.SchemaType.DistinctFields`,
`ContractSchema.SchemaType.DistinctVariants`), for objects are written by name.

The language of a reader of values is then its writer
(`ContractSchema.sound_decode`), and the rest follows for codecs
(`ContractSchema.encode_of_decode`) and for the methods which call them
(`ContractSchema.decoded_values_encode_back`).
-/

namespace ContractSchema

open ValueReader

/-! ### Types whose values are written back -/

/-- **The sorts of types whose values can be written.** -/
def SchemaType.Writable : SchemaType → Prop
  | .unit | .bool | .u8 | .u16 | .u32 | .u64 => True
  | .timestamp | .duration | .amount | .accountAddress => True
  | .list _ _ | .struct _ | .enum _ => True
  | _ => False

/-- The fields in a type have different names, as far as they have names. -/
def SchemaType.DistinctFields (type : SchemaType) : Prop :=
  ∀ fields, type.HasFields fields → fields.names.Nodup

theorem distinctFields_struct_iff {fields : Fields} :
    (SchemaType.struct fields).DistinctFields ↔ fields.names.Nodup := by
  constructor
  · exact fun h => h fields (.struct fields)
  · rintro h _ ⟨⟩
    exact h

theorem distinctFields_enum_iff {variants : List (String × Fields)} :
    (SchemaType.enum variants).DistinctFields ↔
      ∀ variant ∈ variants, variant.2.names.Nodup := by
  constructor
  · exact fun h variant hv => h variant.2 (.enum hv)
  · rintro h _ (_ | hv)
    exact h _ hv

/-- The variants of an enum have different names. -/
def SchemaType.DistinctVariants : SchemaType → Prop
  | .enum variants => (variants.map (·.1)).Nodup
  | _ => True

/-! ### Fields and variants -/

section Fields

theorem sound_decodeNamed {fields : List (String × SchemaType)}
    (h : ∀ field ∈ fields, Sound field.2.decode field.2.Written) :
    Sound (decodeNamed fields) fun b members =>
      members.map (·.1) = fields.map (·.1) ∧ ∀ value : Json,
        (∀ member ∈ members, value.get? member.1 = some member.2) →
          encodeNamed fields value = .ok b := by
  -- for every object with the members, as the one made of all of them is not there yet
  induction fields with
  | nil =>
    rw [decodeNamed]
    exact sound_pure ⟨rfl, fun value _ => by rw [encodeNamed]⟩
  | cons field fields ih =>
    obtain ⟨hfield, hfields⟩ := List.forall_mem_cons.mp h
    obtain ⟨name, type⟩ := field
    rw [decodeNamed]
    refine hfield.bind fun b value hb => (ih hfields).bind_pure ?_
    rintro c others ⟨hnames, hothers⟩
    refine ⟨by rw [List.map_cons, List.map_cons, hnames], fun object hobject => ?_⟩
    obtain ⟨hmember, hmembers⟩ := List.forall_mem_cons.mp hobject
    exact encodeNamed_cons_eq_ok_iff.mpr
      ⟨value, b, c, hmember, hb, hothers object hmembers, rfl⟩

theorem sound_decodeUnnamed {fields : List SchemaType}
    (h : ∀ type ∈ fields, Sound type.decode type.Written) :
    Sound (decodeUnnamed fields) fun b items =>
      items.length = fields.length ∧ encodeUnnamed fields items = .ok b := by
  induction fields with
  | nil =>
    rw [decodeUnnamed]
    exact sound_pure ⟨rfl, by rw [encodeUnnamed]; simp⟩
  | cons type fields ih =>
    obtain ⟨htype, hfields⟩ := List.forall_mem_cons.mp h
    rw [decodeUnnamed]
    refine htype.bind fun b value hb => (ih hfields).bind_pure ?_
    rintro c others ⟨hlength, hothers⟩
    refine ⟨by rw [List.length_cons, List.length_cons, hlength], ?_⟩
    exact encodeUnnamed_cons_eq_ok_iff.mpr ⟨b, c, hb, hothers, rfl⟩

theorem sound_decodeFields {fields : Fields} (distinct : fields.names.Nodup)
    (h : ∀ type ∈ fields.types, Sound type.decode type.Written) :
    Sound fields.decode fields.Written := by
  cases fields with
  | named fields =>
    have hfields : ∀ field ∈ fields, Sound field.2.decode field.2.Written :=
      List.forall_mem_map.mp h
    rw [Fields.decode]
    refine (sound_decodeNamed hfields).bind_pure ?_
    rintro b members ⟨hnames, hencode⟩
    -- no member hides another one, for they have the names of the fields
    have hmembers : (members.map (·.1)).Nodup := hnames ▸ distinct
    rw [Fields.Written, Fields.encode]
    exact hencode _ fun member hmember => (Json.get?_ofMembers_eq_some_iff hmembers).mpr hmember
  | unnamed fields =>
    rw [Fields.decode]
    refine (sound_decodeUnnamed h).bind_pure ?_
    rintro b items ⟨hlength, hencode⟩
    exact encodeUnnamedFields_eq_ok_iff.mpr ⟨items, rfl, hlength, hencode⟩
  | none =>
    rw [Fields.decode]
    exact sound_pure (by rw [Fields.Written, Fields.encode])

/-- A variant is found again by its name, if no other one before it has the name. -/
theorem sound_decodeNumbered {variants : List (String × Fields)}
    (distinct : (variants.map (·.1)).Nodup)
    (h : ∀ variant ∈ variants, Sound variant.2.decode variant.2.Written) (tag : UInt8)
    (number start : Nat) :
    Sound (decodeNumbered tag variants number) fun b value => ∃ name inner,
      value = .object [(name, inner)] ∧ name ∈ variants.map (·.1) ∧
        encodeVariant name inner variants start = .ok (UInt8.ofNat (start + number) :: b) := by
  -- on the variants; `start` is the number which the first of them has in the whole enum
  induction variants generalizing number start with
  | nil =>
    rw [decodeNumbered]
    exact sound_fail _
  | cons variant variants ih =>
    obtain ⟨name, fields⟩ := variant
    obtain ⟨hvariant, hvariants⟩ := List.forall_mem_cons.mp h
    obtain ⟨hnotin, hdistinct⟩ := List.nodup_cons.mp distinct
    cases number with
    | zero =>
      rw [decodeNumbered]
      refine hvariant.bind_pure fun b inner hb => ⟨name, inner, rfl, List.mem_cons_self .., ?_⟩
      exact encodeVariant_cons_eq_ok_iff.mpr (Or.inl ⟨rfl, b, hb, rfl⟩)
    | succ number =>
      rw [decodeNumbered]
      refine (ih hdistinct hvariants number (start + 1)).imp ?_
      rintro b _ ⟨found, inner, rfl, hfound, hencode⟩
      have hne : name ≠ found := fun heq => hnotin (heq ▸ hfound)
      rw [Nat.add_right_comm, Nat.add_assoc] at hencode
      exact ⟨found, inner, rfl, List.mem_cons_of_mem _ hfound,
        encodeVariant_cons_eq_ok_iff.mpr (Or.inr ⟨hne, hencode⟩)⟩

end Fields

/-! ### Types -/

theorem sound_decodeList {size : SizeLength} {item : SchemaType}
    (h : Sound item.decode item.Written) :
    Sound (SchemaType.list size item).decode (SchemaType.list size item).Written := by
  rw [SchemaType.decode]
  refine (sound_takeUnsigned size.byteCount).bind ?_
  rintro b length ⟨hb, -⟩
  refine (sound_many rfl (fun _ => rfl) h length).bind_pure ?_
  rintro _ items ⟨parts, rfl, rfl, hparts⟩
  rw [hb]
  exact encodeList_eq_ok_iff.mpr ⟨items, parts, rfl, hparts, rfl⟩

theorem sound_decodeEnum {variants : List (String × Fields)}
    (distinct : (variants.map (·.1)).Nodup)
    (h : ∀ variant ∈ variants, Sound variant.2.decode variant.2.Written) :
    Sound (SchemaType.enum variants).decode (SchemaType.enum variants).Written := by
  rw [SchemaType.decode]
  refine sound_takeByte.bind fun b tag hb => ?_
  refine (sound_decodeNumbered distinct h tag tag.toNat 0).imp ?_
  rintro c _ ⟨name, inner, rfl, -, hencode⟩
  rw [Nat.zero_add, UInt8.ofNat_toNat] at hencode
  rw [hb]
  exact encodeEnum_eq_ok_iff.mpr ⟨name, inner, rfl, hencode⟩

theorem sound_decodeBool : Sound SchemaType.bool.decode SchemaType.bool.Written := by
  rw [SchemaType.decode]
  refine sound_takeByte.bind fun b byte hb => ?_
  split
  · next hzero =>
    rw [hb, hzero]
    exact sound_pure (encodeBool_eq_ok_iff.mpr ⟨false, rfl, rfl⟩)
  · split
    · next hone =>
      rw [hb, hone]
      exact sound_pure (encodeBool_eq_ok_iff.mpr ⟨true, rfl, rfl⟩)
    · exact sound_fail _

theorem sound_decodeAmount : Sound SchemaType.amount.decode SchemaType.amount.Written := by
  rw [SchemaType.decode]
  refine (sound_takeUnsigned 8).bind_pure ?_
  rintro b n ⟨hb, hn⟩
  exact encodeAmount_eq_ok_iff.mpr ⟨toString n, n, rfl, amount?_toString hn, hb⟩

theorem sound_decodeAccountAddress :
    Sound SchemaType.accountAddress.decode SchemaType.accountAddress.Written := by
  rw [SchemaType.decode]
  refine (sound_takeHex 32).imp ?_
  rintro b _ ⟨rfl, hlength⟩
  exact encodeAccountAddress_eq_ok_iff.mpr ⟨Hex.encode b, rfl, Hex.decode_encode b, hlength⟩

/-- **What is read is written as the bytes it was read from.** -/
theorem sound_decode {type : SchemaType} (writable : type.Everywhere SchemaType.Writable)
    (fields : type.Everywhere SchemaType.DistinctFields)
    (variants : type.Everywhere SchemaType.DistinctVariants) : Sound type.decode type.Written := by
  induction type using SchemaType.partInduction with
  | step type ih =>
    have hpart : ∀ part : SchemaType, part.PartOf type → Sound part.decode part.Written :=
      fun part hp => ih part hp (writable.part hp) (fields.part hp) (variants.part hp)
    have hfields : ∀ fs : Fields, type.HasFields fs → Sound fs.decode fs.Written := fun fs hf =>
      sound_decodeFields (fields.here fs hf) fun part hp => hpart part (.field hf hp)
    have hwritable := writable.here
    have hvariants := variants.here
    cases type with
    | list size item => exact sound_decodeList (hpart item (.listItem ..))
    | struct fs =>
      rw [SchemaType.decode]
      exact hfields fs (.struct fs)
    | enum vs => exact sound_decodeEnum hvariants fun variant hv => hfields variant.2 (.enum hv)
    | unit =>
      rw [SchemaType.decode]
      exact sound_pure (by rw [SchemaType.Written, SchemaType.encode])
    | bool => exact sound_decodeBool
    | amount => exact sound_decodeAmount
    | accountAddress => exact sound_decodeAccountAddress
    | u8 | u16 | u32 | u64 | timestamp | duration =>
      rw [SchemaType.decode]
      exact sound_takeNumber _ (by decide)
    | _ => exact absurd hwritable not_false

/-! ### Codecs and methods -/

section Codec

variable {blob : SchemaBlob} {type : SchemaType} {data : List UInt8} {value : Json}

theorem valueCodec_encode (hblob : blob.parse = .ok type) (value : Json) :
    valueCodec.encode blob value = type.encode value := by
  change ValueCodec.encode blob value = _
  rw [ValueCodec.encode, hblob]

theorem valueCodec_decode_eq_ok_iff (hblob : blob.parse = .ok type) :
    valueCodec.decode blob data = .ok value ↔ type.decode data = .ok (value, []) := by
  change ValueCodec.decode blob data = .ok value ↔ _
  rw [ValueCodec.decode, hblob]
  dsimp only
  rw [ValueCodec.decodeWhole]
  rcases type.decode data with error | ⟨read, _ | ⟨byte, rest⟩⟩
  · exact ⟨fun h => absurd h (by simp), fun h => absurd h (by simp)⟩
  · simp
  · simp

theorem encode_of_decode (hblob : blob.parse = .ok type) (h : Sound type.decode type.Written)
    (hdecode : valueCodec.decode blob data = .ok value) :
    valueCodec.encode blob value = .ok data := by
  obtain ⟨b, hdata, hencode⟩ := h _ _ _ ((valueCodec_decode_eq_ok_iff hblob).mp hdecode)
  obtain rfl : data = b := by rw [hdata, List.append_nil]
  rw [valueCodec_encode hblob, hencode]

section Methods

variable {method : ReceiveMethod}

theorem require_of_schema? (kind : SchemaKind) (h : method.schema? kind = some blob) :
    (method.require kind : Except (BindingError ValueError) SchemaBlob) = .ok blob := by
  rw [ReceiveMethod.require, h]

theorem encodeRequest_eq_ok_iff (h : method.request = some blob) :
    method.encodeRequest valueCodec value = .ok data ↔
      valueCodec.encode blob value = .ok data := by
  rw [ReceiveMethod.encodeRequest, require_of_schema? .request h]
  exact mapError_eq_ok_iff

theorem decodeResponse_eq_ok_iff (h : method.response = some blob) :
    method.decodeResponse valueCodec data = .ok value ↔
      valueCodec.decode blob data = .ok value := by
  rw [ReceiveMethod.decodeResponse, require_of_schema? .response h]
  exact mapError_eq_ok_iff

theorem decodeError_eq_ok_iff (h : method.error = some blob) :
    method.decodeError valueCodec data = .ok value ↔
      valueCodec.decode blob data = .ok value := by
  rw [ReceiveMethod.decodeError, require_of_schema? .error h]
  exact mapError_eq_ok_iff

end Methods

/-- **Values that have been read encode back.** Under a schema of a type whose values can be
written and whose names tell fields and variants apart, what is decoded from bytes is
encoded as the same bytes. So the bytes are determined by the value, and what a method
has returned, or the error it has ended with, can be passed on without loss. -/
theorem decoded_values_encode_back (hblob : blob.parse = .ok type)
    (writable : type.Everywhere SchemaType.Writable)
    (fields : type.Everywhere SchemaType.DistinctFields)
    (variants : type.Everywhere SchemaType.DistinctVariants) :
    (∀ data value, valueCodec.decode blob data = .ok value →
        valueCodec.encode blob value = .ok data) ∧
      (∀ data data' value, valueCodec.decode blob data = .ok value →
        valueCodec.decode blob data' = .ok value → data = data') ∧
      ∀ (method : ReceiveMethod) (data : List UInt8) (value : Json),
        (method.response = some blob ∧ method.decodeResponse valueCodec data = .ok value ∨
          method.error = some blob ∧ method.decodeError valueCodec data = .ok value) →
        (method.withRequest blob).encodeRequest valueCodec value = .ok data := by
  have hback : ∀ data value, valueCodec.decode blob data = .ok value →
      valueCodec.encode blob value = .ok data := fun _ _ =>
    encode_of_decode hblob (sound_decode writable fields variants)
  refine ⟨hback, fun data data' value h h' => ?_, fun method data value h => ?_⟩
  · exact Except.ok.inj ((hback data value h).symm.trans (hback data' value h'))
  · refine (encodeRequest_eq_ok_iff rfl).mpr (hback data value ?_)
    rcases h with ⟨hschema, hdecode⟩ | ⟨hschema, hdecode⟩
    · exact (decodeResponse_eq_ok_iff hschema).mp hdecode
    · exact (decodeError_eq_ok_iff hschema).mp hdecode

/-- The outcome of a call: an amount, or a failure. -/
theorem decoded_values_encode_back_outcome :
    valueCodec.decode ⟨"FQIAAAACAAAAT2sBAQAAAAoDAAAARXJyAg=="⟩ [0, 5, 0, 0, 0, 0, 0, 0, 0] =
        .ok (.object [("Ok", .array [.string "5"])]) ∧
      valueCodec.encode ⟨"FQIAAAACAAAAT2sBAQAAAAoDAAAARXJyAg=="⟩
          (.object [("Ok", .array [.string "5"])]) = .ok [0, 5, 0, 0, 0, 0, 0, 0, 0] := by
  have hblob : (SchemaBlob.mk "FQIAAAACAAAAT2sBAQAAAAoDAAAARXJyAg==").parse =
      .ok (.enum [("Ok", .unnamed [.amount]), ("Err", .none)]) := rfl
  have heverywhere : ∀ p : SchemaType → Prop,
      p (.enum [("Ok", .unnamed [.amount]), ("Err", .none)]) → p .amount →
        SchemaType.Everywhere p (.enum [("Ok", .unnamed [.amount]), ("Err", .none)]) := by
    intro p henum hp
    have hamount : SchemaType.amount.Everywhere p :=
      SchemaType.everywhere_of_depth_le_one (by decide) hp
    exact SchemaType.everywhere_enum_iff.mpr ⟨henum, by simp [Fields.types, hamount]⟩
  have hdistinct : SchemaType.DistinctFields
      (.enum [("Ok", .unnamed [.amount]), ("Err", .none)]) :=
    distinctFields_enum_iff.mpr (by decide)
  have hvariants : (["Ok", "Err"] : List String).Nodup := by decide
  have hdecode : valueCodec.decode ⟨"FQIAAAACAAAAT2sBAQAAAAoDAAAARXJyAg=="⟩
      [0, 5, 0, 0, 0, 0, 0, 0, 0] = .ok (.object [("Ok", .array [.string "5"])]) := rfl
  have hback := decoded_values_encode_back hblob (heverywhere _ trivial trivial)
    (heverywhere _ hdistinct (by rintro fields ⟨⟩))
    (heverywhere _ hvariants trivial)
  exact ⟨hdecode, hback.1 _ _ hdecode⟩

end Codec

end ContractSchema
