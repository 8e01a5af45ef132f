import ContractSchema.Contract
import ContractSchema.Proofs.Codec.Decoded
import ContractSchema.Proofs.Steps

/-!
# Values cut short and values that go on

Like the reader of schemas, the reader of values does not look ahead: the lengths of lists
and texts and the tags of variants stand in front of what they are about, and an integer in
groups tells by its bytes where it ends. So it is local for every type, whether or not its
values can be decoded (`ContractSchema.local_decode`), and whole values are decoded
accordingly. Bytes behind a value are left over, an error about a byte stays, and what is
cut short ends too early (`ContractSchema.decode_append`). The response or the error of a
method, or an event, is therefore never taken for another one of which it is the
beginning.
-/

namespace ContractSchema

namespace ValueReader

variable {α β : Type}

/-! ### Bytes and numbers -/

/-- More bytes come behind what is left. How many bytes are left over is said by no reader of
values. -/
instance : Extensible (List UInt8) ValueError where
  extend data more := data ++ more
  EndsEarly _ e := e = .unexpectedEnd
  AtByte e := e ≠ .unexpectedEnd ∧ ∀ count, e ≠ .trailingData count
  endsEarly_of_along := by
    rintro _ _ _ _ _ rfl
    rfl

theorem local_fail {error : ValueError} (hend : error ≠ .unexpectedEnd)
    (hrest : ∀ count, error ≠ .trailingData count) : Local (fail error : ValueReader α) where
  moves := by
    intro data a rest hrun
    cases hrun
  ok := by
    intro data a rest hrun
    cases hrun
  error := by
    intro data e hrun
    obtain rfl := Except.error.inj hrun
    exact Or.inr ⟨⟨hend, hrest⟩, fun more => rfl⟩

theorem local_mismatch (cause : Mismatch) : Local (fail (.mismatch cause) : ValueReader α) :=
  local_fail (by simp) (by simp)

/-- A reader that takes the bytes of a language only misses something at the end, if it
fails. -/
theorem local_of_exact {reader : ValueReader α} {L : Language α} (hsound : Sound reader L)
    (haccepts : ∀ b a, L b a → Accepts reader b a)
    (hend : ∀ data e, reader data = .error e → e = .unexpectedEnd) : Local reader where
  moves := by
    intro data a rest hrun
    obtain ⟨bytes, halong, -⟩ := hsound data a rest hrun
    exact ⟨bytes, halong⟩
  ok := by
    intro data a rest hrun more
    obtain ⟨bytes, halong, hL⟩ := hsound data a rest hrun
    obtain rfl : data = bytes ++ rest := halong
    exact haccepts bytes a hL _ _ (List.append_assoc bytes rest more)
  error := fun hrun => Or.inl (hend _ _ hrun)

theorem local_take (count : Nat) : Local (take count) := by
  refine local_of_exact (sound_take count) ?_ ?_
  · rintro b bytes ⟨rfl, rfl⟩
    exact accepts_take b
  · intro data e hrun
    rcases hsplit : splitExact count data with _ | ⟨bytes, rest⟩
    · rw [take, hsplit] at hrun
      exact (Except.error.inj hrun).symm
    · rw [take, hsplit] at hrun
      cases hrun

theorem local_takeByte : Local takeByte := by
  refine local_of_exact sound_takeByte ?_ ?_
  · rintro b byte rfl
    exact accepts_takeByte byte
  · rintro (_ | ⟨byte, rest⟩) e hrun
    · exact (Except.error.inj hrun).symm
    · cases hrun

theorem local_takeUnsigned (width : Nat) : Local (takeUnsigned width) :=
  (local_take width).bind_pure littleEndian

theorem local_takeNumber (width : Nat) : Local (takeNumber width) :=
  (local_takeUnsigned width).bind_pure Json.ofNat

theorem local_takeHex (count : Nat) : Local (takeHex count) :=
  (local_take count).bind_pure fun bytes => Json.string (Hex.encode bytes)

theorem local_takeMany {value : ValueReader α} (h : Local value) (count : Nat) :
    Local (takeMany value count) := by
  induction count with
  | zero => exact local_pure []
  | succ count ih => exact h.bind fun first => ih.bind_pure (first :: ·)

theorem local_takeGroups (count : Nat) (index : UInt32) (value : BitVec 128) :
    Local (takeGroups count index value) := by
  induction count generalizing index value with
  | zero => exact local_pure value
  | succ count ih =>
    refine local_takeByte.bind fun byte => ?_
    dsimp only
    split
    · exact local_pure _
    · exact ih _ _

end ValueReader

open ValueReader

/-! ### Fields and variants -/

section Fields

theorem local_decodeNamed {fields : List (String × SchemaType)}
    (h : ∀ field ∈ fields, Local field.2.decode) : Local (decodeNamed fields) := by
  induction fields with
  | nil =>
    rw [decodeNamed]
    exact local_pure []
  | cons field fields ih =>
    obtain ⟨hfield, hfields⟩ := List.forall_mem_cons.mp h
    rw [decodeNamed]
    exact hfield.bind fun value => (ih hfields).bind_pure ((field.1, value) :: ·)

theorem local_decodeUnnamed {fields : List SchemaType} (h : ∀ type ∈ fields, Local type.decode) :
    Local (decodeUnnamed fields) := by
  induction fields with
  | nil =>
    rw [decodeUnnamed]
    exact local_pure []
  | cons type fields ih =>
    obtain ⟨htype, hfields⟩ := List.forall_mem_cons.mp h
    rw [decodeUnnamed]
    exact htype.bind fun value => (ih hfields).bind_pure (value :: ·)

theorem local_decodeFields {fields : Fields} (h : ∀ type ∈ fields.types, Local type.decode) :
    Local fields.decode := by
  cases fields with
  | named fields =>
    have hfields : ∀ field ∈ fields, Local field.2.decode := fun field hfield =>
      h field.2 (List.mem_map_of_mem hfield)
    rw [Fields.decode]
    exact (local_decodeNamed hfields).bind_pure Json.ofMembers
  | unnamed fields =>
    rw [Fields.decode]
    exact (local_decodeUnnamed h).bind_pure Json.array
  | none =>
    rw [Fields.decode]
    exact local_pure _

theorem local_decodeNumbered {variants : List (String × Fields)}
    (h : ∀ variant ∈ variants, Local variant.2.decode) (tag : UInt8) (number : Nat) :
    Local (decodeNumbered tag variants number) := by
  induction variants generalizing number with
  | nil =>
    rw [decodeNumbered]
    exact local_mismatch _
  | cons variant variants ih =>
    obtain ⟨hvariant, hvariants⟩ := List.forall_mem_cons.mp h
    cases number with
    | zero =>
      rw [decodeNumbered]
      exact hvariant.bind_pure fun value => Json.ofMembers [(variant.1, value)]
    | succ number =>
      rw [decodeNumbered]
      exact ih hvariants number

theorem local_decodeTagged {variant : Option (String × Fields)}
    (h : ∀ entry, variant = some entry → Local entry.2.decode) (tag : UInt8) :
    Local (decodeTagged tag variant) := by
  rcases variant with _ | ⟨name, fields⟩
  · rw [decodeTagged]
    exact local_mismatch _
  · rw [decodeTagged]
    exact (h _ rfl).bind_pure fun value => Json.ofMembers [(name, value)]

end Fields

/-! ### Types -/

theorem local_decodeBool : Local SchemaType.bool.decode := by
  rw [SchemaType.decode]
  refine local_takeByte.bind fun byte => ?_
  split
  · exact local_pure _
  · split
    · exact local_pure _
    · exact local_mismatch _

/-- **No reader of values looks ahead**, of whatever type. -/
theorem local_decode (type : SchemaType) : Local type.decode := by
  induction type using SchemaType.partInduction with
  | step type ih =>
    have hfields : ∀ fields : Fields, type.HasFields fields → Local fields.decode :=
      fun fields hf => local_decodeFields fun part hpart => ih part (.field hf hpart)
    cases type with
    | bool => exact local_decodeBool
    | unit =>
      rw [SchemaType.decode]
      exact local_pure _
    | u8 | u16 | u32 | u64 | timestamp | duration =>
      rw [SchemaType.decode]
      exact local_takeNumber _
    | amount =>
      rw [SchemaType.decode]
      exact (local_takeUnsigned 8).bind_pure fun n => Json.string (toString n)
    | accountAddress =>
      rw [SchemaType.decode]
      exact local_takeHex 32
    | contractAddress =>
      rw [SchemaType.decode]
      refine (local_takeNumber 8).bind fun index => ?_
      exact (local_takeNumber 8).bind_pure fun subindex =>
        Json.ofMembers [("index", index), ("subindex", subindex)]
    | list size item =>
      rw [SchemaType.decode]
      refine (local_takeUnsigned size.byteCount).bind fun length => ?_
      exact (local_takeMany (ih item (.listItem ..)) length).bind_pure Json.array
    | struct fields =>
      rw [SchemaType.decode]
      exact hfields fields (.struct fields)
    | enum variants =>
      rw [SchemaType.decode]
      refine local_takeByte.bind fun tag => ?_
      exact local_decodeNumbered (fun variant hv => hfields variant.2 (.enum hv)) tag tag.toNat
    | taggedEnum variants =>
      rw [SchemaType.decode]
      refine local_takeByte.bind fun tag => ?_
      exact local_decodeTagged (fun variant hv => hfields variant.2 (.taggedEnum hv)) tag
    | uLeb128 maxBytes =>
      rw [SchemaType.decode]
      exact (local_takeGroups maxBytes.toNat 0 0).bind_pure fun value =>
        Json.string (toString value.toNat)
    | byteList size =>
      rw [SchemaType.decode]
      exact (local_takeUnsigned size.byteCount).bind fun length => local_takeHex length
    | _ =>
      rw [SchemaType.decode]
      · exact local_fail (by simp) (by simp)
      all_goals simp

/-! ### Whole values -/

/-- **What becomes of an outcome** when so many bytes are put behind the data, unless these have
ended too early. -/
def lengthened (count : Nat) : Except ValueError Json → Except ValueError Json
  | .ok _ => .error (.trailingData count)
  | .error (.trailingData earlier) => .error (.trailingData (earlier + count))
  | .error error => .error error

theorem lengthened_ne_ok (count : Nat) (outcome : Except ValueError Json) (value : Json) :
    lengthened count outcome ≠ .ok value := by
  intro h
  rcases outcome with error | written
  · cases error <;> cases h
  · cases h

theorem lengthened_of_ne {error : ValueError} (h : ∀ count, error ≠ .trailingData count)
    (count : Nat) : lengthened count (.error error) = .error error := by
  rw [lengthened]
  exact h

section Whole

variable {data more : List UInt8}

theorem decodeWhole_of_ok {type : SchemaType} {value : Json} {rest : List UInt8}
    (h : type.decode data = .ok (value, rest)) :
    ValueCodec.decodeWhole type data =
      if rest.isEmpty then .ok value else .error (.trailingData rest.length) := by
  rw [ValueCodec.decodeWhole, h]

theorem decodeWhole_of_error {type : SchemaType} {error : ValueError}
    (h : type.decode data = .error error) :
    ValueCodec.decodeWhole type data = .error error := by
  rw [ValueCodec.decodeWhole, h]

theorem decodeWhole_append (type : SchemaType) (hmore : more ≠ []) :
    ValueCodec.decodeWhole type data = .error .unexpectedEnd ∨
      ValueCodec.decodeWhole type (data ++ more) =
        lengthened more.length (ValueCodec.decodeWhole type data) := by
  have hlocal := local_decode type
  rcases hread : type.decode data with error | ⟨value, rest⟩
  · rw [decodeWhole_of_error hread]
    rcases hlocal.error hread with rfl | ⟨⟨-, hcount⟩, hlonger⟩
    · exact Or.inl rfl
    · have hsame := decodeWhole_of_error (hlonger more)
      exact Or.inr (hsame.trans (lengthened_of_ne hcount _).symm)
  · have hlonger : type.decode (data ++ more) = .ok (value, rest ++ more) :=
      hlocal.ok hread more
    have hleft : (rest ++ more).isEmpty = false :=
      List.isEmpty_eq_false_iff.mpr (List.append_ne_nil_of_right_ne_nil rest hmore)
    rw [decodeWhole_of_ok hread, decodeWhole_of_ok hlonger, hleft, List.length_append]
    rcases rest with _ | ⟨byte, rest⟩
    · rw [List.length_nil, Nat.zero_add]
      exact Or.inr rfl
    · exact Or.inr rfl

theorem decode_append_cases (blob : SchemaBlob) (hmore : more ≠ []) :
    valueCodec.decode blob data = .error .unexpectedEnd ∨
      valueCodec.decode blob (data ++ more) =
        lengthened more.length (valueCodec.decode blob data) := by
  -- what is decoded depends on the bytes only if the schema can be read
  rcases hblob : blob.parse with error | type
  · have hdecode : ∀ data, valueCodec.decode blob data = .error (.schema error) := fun data => by
      change ValueCodec.decode blob data = _
      rw [ValueCodec.decode, hblob]
    rw [hdecode, hdecode]
    exact Or.inr rfl
  · have hdecode : ∀ data, valueCodec.decode blob data = ValueCodec.decodeWhole type data :=
      fun data => by
        change ValueCodec.decode blob data = _
        rw [ValueCodec.decode, hblob]
    rw [hdecode, hdecode]
    exact decodeWhole_append type hmore

/-- A value that has been cut short ends too early. -/
theorem decode_of_longer {blob : SchemaBlob} {value : Json} (hmore : more ≠ [])
    (h : valueCodec.decode blob (data ++ more) = .ok value) :
    valueCodec.decode blob data = .error .unexpectedEnd := by
  rcases decode_append_cases blob hmore with hshort | hlonger
  · exact hshort
  · rw [h] at hlonger
    exact absurd hlonger.symm (lengthened_ne_ok _ _ _)

/-- What a call with the codec decodes ends too early when it is cut short. -/
theorem mapError_decode_of_longer {blob : SchemaBlob} {value : Json} (hmore : more ≠ [])
    (h : (valueCodec.decode blob (data ++ more)).mapError BindingError.codec = .ok value) :
    (valueCodec.decode blob data).mapError BindingError.codec =
      .error (.codec .unexpectedEnd) := by
  rw [decode_of_longer hmore (mapError_eq_ok_iff.mp h)]
  rfl

/-- **Values are self-delimiting**, under any schema. Bytes behind a value are left over, and
they are added to what has been left over before. Any other error stays the same unless it
says that the data end too early. So a value that has been cut short always ends too early,
and the beginning of a response, an error or an event is never taken for another one. -/
theorem decode_append (hmore : more ≠ []) :
    (∀ blob,
      (∀ value, valueCodec.decode blob data = .ok value →
        valueCodec.decode blob (data ++ more) = .error (.trailingData more.length)) ∧
      (∀ count, valueCodec.decode blob data = .error (.trailingData count) →
        valueCodec.decode blob (data ++ more) = .error (.trailingData (count + more.length))) ∧
      (∀ error, valueCodec.decode blob data = .error error → error ≠ .unexpectedEnd →
        (∀ count, error ≠ .trailingData count) →
          valueCodec.decode blob (data ++ more) = .error error) ∧
      ∀ value, valueCodec.decode blob (data ++ more) = .ok value →
        valueCodec.decode blob data = .error .unexpectedEnd) ∧
      (∀ (method : ReceiveMethod) (value : Json),
        (method.decodeResponse valueCodec (data ++ more) = .ok value →
          method.decodeResponse valueCodec data = .error (.codec .unexpectedEnd)) ∧
        (method.decodeError valueCodec (data ++ more) = .ok value →
          method.decodeError valueCodec data = .error (.codec .unexpectedEnd))) ∧
      ∀ (bindings : ContractBindings) (value : Json),
        bindings.decodeEvent valueCodec (data ++ more) = .ok value →
          bindings.decodeEvent valueCodec data = .error (.codec .unexpectedEnd) := by
  refine ⟨fun blob => ?_, fun method value => ⟨fun h => ?_, fun h => ?_⟩, fun bindings value h => ?_⟩
  · have hcases := @decode_append_cases data more blob hmore
    refine ⟨fun value h => ?_, fun count h => ?_, fun error h hend hcount => ?_,
      fun value => decode_of_longer hmore⟩
    · rw [h] at hcases
      exact hcases.resolve_left (by simp)
    · rw [h] at hcases
      exact hcases.resolve_left (by simp)
    · rw [h, lengthened_of_ne hcount] at hcases
      exact hcases.resolve_left fun heq => hend (Except.error.inj heq)
  · obtain ⟨blob, hblob, h⟩ := except_bind_eq_ok.mp h
    rw [ReceiveMethod.decodeResponse, hblob]
    exact mapError_decode_of_longer hmore h
  · obtain ⟨blob, hblob, h⟩ := except_bind_eq_ok.mp h
    rw [ReceiveMethod.decodeError, hblob]
    exact mapError_decode_of_longer hmore h
  · rw [ContractBindings.decodeEvent] at h ⊢
    split at h
    · exact mapError_decode_of_longer hmore h
    · cases h

/-- A list of two truth values in front of another byte and of two, with a byte that stands for
none of them, and cut short. -/
theorem decode_append_list :
    valueCodec.decode ⟨"EAAB"⟩ ([2, 0, 1] ++ [7]) = .error (.trailingData 1) ∧
      valueCodec.decode ⟨"EAAB"⟩ ([2, 0, 1, 7] ++ [7]) = .error (.trailingData 2) ∧
      valueCodec.decode ⟨"EAAB"⟩ ([2, 7] ++ [7]) = .error (.mismatch (.invalidBool 7)) ∧
      valueCodec.decode ⟨"EAAB"⟩ [2, 0] = .error .unexpectedEnd := by
  have hlist : valueCodec.decode ⟨"EAAB"⟩ ([2, 0] ++ [1]) =
      .ok (.array [.bool false, .bool true]) := rfl
  refine ⟨?_, ?_, ?_, ?_⟩
  · exact ((decode_append (by simp)).1 _).1 _ hlist
  · exact ((decode_append (by simp)).1 _).2.1 1 rfl
  · exact ((decode_append (by simp)).1 _).2.2.1 _ rfl (by simp) (by simp)
  · exact ((decode_append (by simp)).1 _).2.2.2 _ hlist

end Whole

end ContractSchema
