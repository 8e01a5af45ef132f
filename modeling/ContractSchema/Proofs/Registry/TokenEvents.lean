import ContractSchema.Proofs.Codec.Decoded
import ContractSchema.Proofs.Codec.Groups
import ContractSchema.Proofs.Codec.Returned
import ContractSchema.Proofs.Schema.Blobs
import ContractSchema.Registry.MultiRoyalties

/-!
# Events of tokens

The multi-royalties contract logs what happens to tokens. Its schema of events
is one of a tagged enum (`ContractSchema.MultiRoyalties.parse_event`), and here it is compared
with what such events are: amounts of tokens that are burned, minted or transferred
between addresses, and operators that are updated
(`ContractSchema.MultiRoyalties.TokenEvent`). The bytes of an event are its tag and its
fields, with amounts in as few 7-bit groups as possible
(`ContractSchema.ValueReader.length_groups_le`).

Every event is read from its bytes (`ContractSchema.MultiRoyalties.accepts_event`), and no
other tag is known but that of the metadata of a token. These hold a text, and the
codec does not read texts, so they are never decoded
(`ContractSchema.MultiRoyalties.decodeEvent_tokenEvents`).
-/

namespace ContractSchema

open ValueReader

/-! ### Codecs and tags -/

theorem decode_taggedEnum_cons (variants : UInt8 → Option (String × Fields)) (tag : UInt8)
    (data : List UInt8) :
    (SchemaType.taggedEnum variants).decode (tag :: data) =
      decodeTagged tag (variants tag) data := by
  rw [SchemaType.decode]
  rfl

theorem valueCodec_decode_eq_error {blob : SchemaBlob} {type : SchemaType} {data : List UInt8}
    {error : ValueError} (hblob : blob.parse = .ok type) (h : type.decode data = .error error) :
    valueCodec.decode blob data = .error error := by
  change ValueCodec.decode blob data = _
  rw [ValueCodec.decode, hblob]
  dsimp only
  rw [ValueCodec.decodeWhole, h]

/-! ### Fields in a row -/

theorem accepts_decodeNamed_nil : Accepts (decodeNamed []) [].flatten [] := by
  rw [decodeNamed]
  exact accepts_pure []

theorem accepts_decodeNamed_cons {name : String} {type : SchemaType}
    {fields : List (String × SchemaType)} {b : List UInt8} {parts : List (List UInt8)}
    {value : Json} {members : List (String × Json)} (h : Accepts type.decode b value)
    (hfields : Accepts (decodeNamed fields) parts.flatten members) :
    Accepts (decodeNamed ((name, type) :: fields)) (b :: parts).flatten
      ((name, value) :: members) := by
  rw [decodeNamed, List.flatten_cons]
  exact h.bind (hfields.bind_pure fun members => (name, value) :: members)

theorem accepts_decodeFields_named {fields : List (String × SchemaType)} {b : List UInt8}
    {members ordered : List (String × Json)} (h : Accepts (decodeNamed fields) b members)
    (horder : Json.ofMembers members = .object ordered) :
    Accepts (Fields.named fields).decode b (.object ordered) := by
  rw [Fields.decode, ← horder]
  exact h.bind_pure Json.ofMembers

/-- A variant with a single value that has no name. -/
theorem accepts_decodeUnnamed_one {type : SchemaType} {b : List UInt8} {value : Json}
    (h : Accepts type.decode b value) :
    Accepts (Fields.unnamed [type]).decode b (.array [value]) := by
  have hitems : Accepts (decodeUnnamed [type]) (b ++ []) [value] := by
    rw [decodeUnnamed]
    refine h.bind (Accepts.bind_pure ?_ (value :: ·))
    rw [decodeUnnamed]
    exact accepts_pure []
  rw [List.append_nil] at hitems
  rw [Fields.decode]
  exact hitems.bind_pure Json.array

namespace MultiRoyalties

/-! ### What events are about -/

/-- **The number of a token**: at most 255 bytes. -/
structure TokenId where
  /-- The bytes. -/
  bytes : List UInt8
  /-- They are counted in one byte. -/
  length_le : bytes.length ≤ 255

/-- **An address.** -/
inductive Address
  /-- The address of an account. -/
  | account (bytes : List UInt8) (length_eq : bytes.length = 32)
  /-- The address of an instance of a contract. -/
  | contract (index subindex : UInt64)

/-- What is done to an operator. -/
inductive OperatorUpdate
  /-- Someone is an operator no longer. -/
  | remove
  /-- Someone becomes an operator. -/
  | add

/-- **An event of a contract for tokens.** -/
inductive TokenEvent
  /-- An amount of a token is destroyed. -/
  | burn (id : TokenId) (amount : Fin (2 ^ 128)) (owner : Address)
  /-- An amount of a token is created. -/
  | mint (id : TokenId) (amount : Fin (2 ^ 128)) (owner : Address)
  /-- An amount of a token changes its owner. -/
  | transfer (id : TokenId) (amount : Fin (2 ^ 128)) (sender receiver : Address)
  /-- An owner has an operator or has one no longer. -/
  | updateOperator (update : OperatorUpdate) (owner operator : Address)

/-! ### Their bytes -/

/-- The bytes of the number of a token, with their count in front. -/
def TokenId.toBytes (id : TokenId) : List UInt8 :=
  UInt8.ofNat id.bytes.length :: id.bytes

/-- The bytes of an address. -/
def Address.toBytes : Address → List UInt8
  | .account bytes _ => 0 :: bytes
  | .contract index subindex =>
    1 :: (littleEndianBytes 8 index.toNat ++ littleEndianBytes 8 subindex.toNat)

/-- The bytes of an update. -/
def OperatorUpdate.toBytes : OperatorUpdate → List UInt8
  | .remove => [0]
  | .add => [1]

/-- **The bytes of an event**: its tag and its fields in a row. -/
def TokenEvent.toBytes : TokenEvent → List UInt8
  | .burn id amount owner => 253 :: [id.toBytes, groups amount.val, owner.toBytes].flatten
  | .mint id amount owner => 254 :: [id.toBytes, groups amount.val, owner.toBytes].flatten
  | .transfer id amount sender receiver =>
    255 :: [id.toBytes, groups amount.val, sender.toBytes, receiver.toBytes].flatten
  | .updateOperator update owner operator =>
    252 :: [update.toBytes, owner.toBytes, operator.toBytes].flatten

/-! ### Their values -/

/-- The value of the number of a token. -/
def TokenId.json (id : TokenId) : Json :=
  .string (Hex.encode id.bytes)

/-- The value of an amount. -/
def amountJson (amount : Fin (2 ^ 128)) : Json :=
  .string (toString amount.val)

/-- The value of an address. -/
def Address.json : Address → Json
  | .account bytes _ => .object [("Account", .array [.string (Hex.encode bytes)])]
  | .contract index subindex =>
    .object [("Contract", .array [.object
      [("index", .number (.natural index)), ("subindex", .number (.natural subindex))]])]

/-- The value of an update. -/
def OperatorUpdate.json : OperatorUpdate → Json
  | .remove => .object [("Remove", .array [])]
  | .add => .object [("Add", .array [])]

/-- **The value of an event**: an object whose members are in the order of their keys. -/
def TokenEvent.json : TokenEvent → Json
  | .burn id amount owner => .object [("Burn", .object
      [("amount", amountJson amount), ("owner", owner.json), ("token_id", id.json)])]
  | .mint id amount owner => .object [("Mint", .object
      [("amount", amountJson amount), ("owner", owner.json), ("token_id", id.json)])]
  | .transfer id amount sender receiver => .object [("Transfer", .object
      [("amount", amountJson amount), ("from", sender.json), ("to", receiver.json),
        ("token_id", id.json)])]
  | .updateOperator update owner operator => .object [("UpdateOperator", .object
      [("operator", operator.json), ("owner", owner.json), ("update", update.json)])]

/-! ### The type of events -/

/-- The type of addresses. -/
def addressType : SchemaType :=
  .enum [("Account", .unnamed [.accountAddress]), ("Contract", .unnamed [.contractAddress])]

/-- The type of updates. -/
def updateType : SchemaType :=
  .enum [("Remove", .none), ("Add", .none)]

/-- The type of links to metadata. -/
def metadataUrlType : SchemaType :=
  .struct (.named [("url", .string .u16),
    ("hash", .enum [("None", .none), ("Some", .unnamed [.byteArray 32])])])

/-- The fields of the metadata of a token. -/
def metadataFields : List (String × SchemaType) :=
  [("token_id", .byteList .u8), ("metadata_url", metadataUrlType)]

/-- The fields of an update of operators. -/
def operatorFields : List (String × SchemaType) :=
  [("update", updateType), ("owner", addressType), ("operator", addressType)]

/-- The fields of a burn and of a mint. -/
def supplyFields : List (String × SchemaType) :=
  [("token_id", .byteList .u8), ("amount", .uLeb128 37), ("owner", addressType)]

/-- The fields of a transfer. -/
def transferFields : List (String × SchemaType) :=
  [("token_id", .byteList .u8), ("amount", .uLeb128 37), ("from", addressType),
    ("to", addressType)]

/-- The variants of events by their tags. -/
def eventVariants : UInt8 → Option (String × Fields) :=
  setEntry 255 ("Transfer", .named transferFields) <|
    setEntry 254 ("Mint", .named supplyFields) <|
      setEntry 253 ("Burn", .named supplyFields) <|
        setEntry 252 ("UpdateOperator", .named operatorFields) <|
          setEntry 251 ("TokenMetadata", .named metadataFields) noEntries

/-- **What the schema of events describes.** -/
theorem parse_event : event.parse = .ok (.taggedEnum eventVariants) :=
  SchemaBlob.parse_eq_ok (by decide +kernel) (by decide +kernel) (by decide +kernel)

/-- The tags of events, that of metadata first. -/
def eventTags : List UInt8 :=
  [251, 252, 253, 254, 255]

theorem eventVariants_eq_none {tag : UInt8} (h : tag ∉ eventTags) : eventVariants tag = none := by
  simp only [eventTags, List.mem_cons, List.not_mem_nil, or_false, not_or] at h
  simp [eventVariants, setEntry, noEntries, h]

/-! ### Reading parts of events -/

theorem accepts_tokenId (id : TokenId) :
    Accepts (SchemaType.byteList .u8).decode id.toBytes id.json := by
  have hlength : id.bytes.length < 256 ^ SizeLength.u8.byteCount :=
    Nat.lt_succ_of_le id.length_le
  have hcount : littleEndianBytes SizeLength.u8.byteCount id.bytes.length =
      [UInt8.ofNat id.bytes.length] := rfl
  have hread := (accepts_takeUnsigned hlength).bind (accepts_takeHex id.bytes)
  rw [hcount] at hread
  rw [SchemaType.decode]
  exact hread

theorem accepts_amount (amount : Fin (2 ^ 128)) :
    Accepts (SchemaType.uLeb128 37).decode (groups amount.val) (amountJson amount) := by
  have hlength : (groups amount.val).length ≤ 19 :=
    (inFewestGroups_groups amount.val).length_le amount.isLt
  exact accepts_uLeb128 (by decide) (inGroups_groups amount.val)
    (Nat.le_trans hlength (by decide)) amount.isLt

theorem accepts_account {bytes : List UInt8} (length_eq : bytes.length = 32) :
    Accepts SchemaType.accountAddress.decode bytes (.string (Hex.encode bytes)) := by
  rw [SchemaType.decode, ← length_eq]
  exact accepts_takeHex bytes

theorem accepts_contract (index subindex : UInt64) :
    Accepts SchemaType.contractAddress.decode
      (littleEndianBytes 8 index.toNat ++ littleEndianBytes 8 subindex.toNat)
      (.object [("index", .number (.natural index)),
        ("subindex", .number (.natural subindex))]) := by
  have hnumber (n : UInt64) :
      Accepts (takeNumber 8) (littleEndianBytes 8 n.toNat) (.number (.natural n)) := by
    have hwritten : encodeUnsigned .u64 8 (.number (.natural n)) =
        .ok (littleEndianBytes 8 n.toNat) := encodeUnsigned_eq_ok_iff.mpr ⟨n, rfl, rfl⟩
    exact accepts_takeNumber hwritten fun m _ => m.toNat_lt
  have hvalue : Json.object
      [("index", .number (.natural index)), ("subindex", .number (.natural subindex))] =
        Json.ofMembers
          [("index", .number (.natural index)), ("subindex", .number (.natural subindex))] := by
    simp only [Json.ofMembers, Json.orderMembers, Json.insertMember,
      List.foldl_cons, List.foldl_nil, String.reduceLT, String.reduceEq, ↓reduceIte]
  rw [SchemaType.decode, hvalue]
  exact (hnumber index).bind ((hnumber subindex).bind_pure fun subindex =>
    Json.ofMembers [("index", .number (.natural index)), ("subindex", subindex)])

theorem accepts_address (address : Address) :
    Accepts addressType.decode address.toBytes address.json := by
  rw [addressType, SchemaType.decode]
  cases address with
  | account bytes length_eq =>
    refine (accepts_takeByte 0).bind ?_
    exact (accepts_decodeUnnamed_one (accepts_account length_eq)).bind_pure fun value =>
      Json.ofMembers [("Account", value)]
  | contract index subindex =>
    refine (accepts_takeByte 1).bind ?_
    exact (accepts_decodeUnnamed_one (accepts_contract index subindex)).bind_pure fun value =>
      Json.ofMembers [("Contract", value)]

theorem accepts_update (update : OperatorUpdate) :
    Accepts updateType.decode update.toBytes update.json := by
  rw [updateType, SchemaType.decode]
  cases update with
  | remove =>
    exact (accepts_takeByte 0).bind (accepts_pure _)
  | add => exact (accepts_takeByte 1).bind (accepts_pure _)

/-! ### Reading events -/

theorem accepts_supply (id : TokenId) (amount : Fin (2 ^ 128)) (owner : Address) :
    Accepts (Fields.named supplyFields).decode
      [id.toBytes, groups amount.val, owner.toBytes].flatten
      (.object [("amount", amountJson amount), ("owner", owner.json), ("token_id", id.json)]) := by
  have hmembers : Accepts (decodeNamed supplyFields)
      [id.toBytes, groups amount.val, owner.toBytes].flatten
      [("token_id", id.json), ("amount", amountJson amount), ("owner", owner.json)] :=
    accepts_decodeNamed_cons (accepts_tokenId id)
      (accepts_decodeNamed_cons (accepts_amount amount)
        (accepts_decodeNamed_cons (accepts_address owner) accepts_decodeNamed_nil))
  refine accepts_decodeFields_named hmembers ?_
  simp only [Json.ofMembers, Json.orderMembers, Json.insertMember,
    List.foldl_cons, List.foldl_nil, String.reduceLT, String.reduceEq, ↓reduceIte]

theorem accepts_transfer (id : TokenId) (amount : Fin (2 ^ 128)) (sender receiver : Address) :
    Accepts (Fields.named transferFields).decode
      [id.toBytes, groups amount.val, sender.toBytes, receiver.toBytes].flatten
      (.object [("amount", amountJson amount), ("from", sender.json), ("to", receiver.json),
        ("token_id", id.json)]) := by
  have hmembers : Accepts (decodeNamed transferFields)
      [id.toBytes, groups amount.val, sender.toBytes, receiver.toBytes].flatten
      [("token_id", id.json), ("amount", amountJson amount), ("from", sender.json),
        ("to", receiver.json)] :=
    accepts_decodeNamed_cons (accepts_tokenId id)
      (accepts_decodeNamed_cons (accepts_amount amount)
        (accepts_decodeNamed_cons (accepts_address sender)
          (accepts_decodeNamed_cons (accepts_address receiver) accepts_decodeNamed_nil)))
  refine accepts_decodeFields_named hmembers ?_
  simp only [Json.ofMembers, Json.orderMembers, Json.insertMember,
    List.foldl_cons, List.foldl_nil, String.reduceLT, String.reduceEq, ↓reduceIte]

theorem accepts_operator (update : OperatorUpdate) (owner operator : Address) :
    Accepts (Fields.named operatorFields).decode
      [update.toBytes, owner.toBytes, operator.toBytes].flatten
      (.object [("operator", operator.json), ("owner", owner.json), ("update", update.json)]) := by
  have hmembers : Accepts (decodeNamed operatorFields)
      [update.toBytes, owner.toBytes, operator.toBytes].flatten
      [("update", update.json), ("owner", owner.json), ("operator", operator.json)] :=
    accepts_decodeNamed_cons (accepts_update update)
      (accepts_decodeNamed_cons (accepts_address owner)
        (accepts_decodeNamed_cons (accepts_address operator) accepts_decodeNamed_nil))
  refine accepts_decodeFields_named hmembers ?_
  simp only [Json.ofMembers, Json.orderMembers, Json.insertMember,
    List.foldl_cons, List.foldl_nil, String.reduceLT, ↓reduceIte]

/-- **Every event is read** from its bytes. -/
theorem accepts_event (event : TokenEvent) :
    Accepts (SchemaType.taggedEnum eventVariants).decode event.toBytes event.json := by
  rw [SchemaType.decode]
  cases event with
  | burn id amount owner =>
    exact (accepts_takeByte 253).bind ((accepts_supply id amount owner).bind_pure fun value =>
      Json.ofMembers [("Burn", value)])
  | mint id amount owner =>
    exact (accepts_takeByte 254).bind ((accepts_supply id amount owner).bind_pure fun value =>
      Json.ofMembers [("Mint", value)])
  | transfer id amount sender receiver =>
    exact (accepts_takeByte 255).bind ((accepts_transfer id amount sender receiver).bind_pure
      fun value => Json.ofMembers [("Transfer", value)])
  | updateOperator update owner operator =>
    exact (accepts_takeByte 252).bind ((accepts_operator update owner operator).bind_pure
      fun value => Json.ofMembers [("UpdateOperator", value)])

/-! ### Bindings -/

theorem decodeEvent_eq (data : List UInt8) :
    bindings.decodeEvent valueCodec data = (valueCodec.decode event data).mapError .codec := rfl

/-- Any other byte is refused as a tag. -/
theorem decodeEvent_unknownTag {tag : UInt8} (h : tag ∉ eventTags) (data : List UInt8) :
    bindings.decodeEvent valueCodec (tag :: data) =
      .error (.codec (.mismatch (.unknownTag tag))) := by
  have htype : (SchemaType.taggedEnum eventVariants).decode (tag :: data) =
      .error (.mismatch (.unknownTag tag)) := by
    rw [decode_taggedEnum_cons, eventVariants_eq_none h, decodeTagged]
    rfl
  rw [decodeEvent_eq, valueCodec_decode_eq_error parse_event htype]
  rfl

/-- Metadata of a token hold a text, which cannot be read. -/
theorem decodeEvent_metadata (data : List UInt8) (value : Json) :
    bindings.decodeEvent valueCodec (251 :: data) ≠ .ok value := by
  intro hdecode
  have hurl : metadataUrlType.Unreadable :=
    unreadable_struct (List.mem_cons_self ..) (unreadable_string .u16)
  have hfield : ("metadata_url", metadataUrlType) ∈ metadataFields :=
    List.mem_cons_of_mem _ (List.mem_cons_self ..)
  have hvariant : eventVariants 251 = some ("TokenMetadata", .named metadataFields) := rfl
  rw [decodeEvent_eq, mapError_eq_ok_iff, valueCodec_decode_eq_ok_iff parse_event,
    decode_taggedEnum_cons, hvariant, decodeTagged] at hdecode
  obtain ⟨inner, rest, hinner, -⟩ := step_bind_eq_ok.mp hdecode
  exact returns_nothing_of_field hfield hurl data inner rest hinner

/-- **Events of tokens are read exactly.** Every burn, mint, transfer and update of operators
is decoded from its tag and its fields. No other first byte is a tag but that of metadata,
and metadata hold a text, so they are never decoded. -/
theorem decodeEvent_tokenEvents :
    (∀ event : TokenEvent, bindings.decodeEvent valueCodec event.toBytes = .ok event.json) ∧
      (∀ tag data, tag ∉ eventTags →
        bindings.decodeEvent valueCodec (tag :: data) =
          .error (.codec (.mismatch (.unknownTag tag)))) ∧
      ∀ data value, bindings.decodeEvent valueCodec (251 :: data) ≠ .ok value := by
  refine ⟨fun event => ?_, fun tag data htag => decodeEvent_unknownTag htag data,
    decodeEvent_metadata⟩
  have hread := accepts_event event event.toBytes [] (List.append_nil _).symm
  rw [decodeEvent_eq, (valueCodec_decode_eq_ok_iff parse_event).mpr hread]
  rfl

/-- A mint of 300 tokens for the first account, and two other first bytes. -/
theorem decodeEvent_mint :
    bindings.decodeEvent valueCodec
        ([254, 1, 7, 172, 2, 0] ++ List.replicate 32 1) =
      .ok (.object [("Mint", .object [("amount", .string "300"),
        ("owner", .object [("Account", .array
          [.string "0101010101010101010101010101010101010101010101010101010101010101"])]),
        ("token_id", .string "07")])]) ∧
      250 ∉ eventTags ∧
      bindings.decodeEvent valueCodec [250] = .error (.codec (.mismatch (.unknownTag 250))) := by
  have hother : 250 ∉ eventTags := by decide
  have hgroups : groups 300 = [172, 2] := by
    rw [groups, if_neg (by decide), groups, if_pos (by decide)]
    rfl
  have hmint := decodeEvent_tokenEvents.1
    (.mint ⟨[7], by decide⟩ 300 (.account (List.replicate 32 1) rfl))
  have hamount : (300 : Fin (2 ^ 128)).val = 300 := by decide
  rw [TokenEvent.toBytes, hamount, hgroups] at hmint
  exact ⟨hmint, hother, decodeEvent_tokenEvents.2.1 250 [] hother⟩

end MultiRoyalties

end ContractSchema
