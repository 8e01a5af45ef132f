import ContractSchema.Proofs.Codec.Decoded
import ContractSchema.Proofs.Codec.Returned
import ContractSchema.Proofs.Form.Documents
import ContractSchema.Proofs.Schema.Blobs

/-!
# What documents of forms and schemas agree on

The off-chain transfers contract describes its data twice, by schemas for the codec
and by documents for people. Both are compared here on all values that the codec can
decode. A type **suits** a schema of documents if no value of the type breaks it
(`ContractSchema.SchemaType.Suits`), and this is found out along the type: for lists by their
items, for structs by their fields under the names of the properties.

The two descriptions agree with each other but for times
(`ContractSchema.OffchainTransfers.documents_agree_but_for_times`). The codec reads times as
integers, the documents want texts, and so each value with a time is refused on account of
the time alone (`ContractSchema.OffchainTransfers.RefusesInteger`).
-/

namespace ContractSchema

open ValueReader

/-! ### Types that suit schemas -/

/-- **Values of the type suit the schema**: none that is read breaks it. -/
def SchemaType.Suits (type : SchemaType) (schema : JsonSchema) : Prop :=
  Returns type.decode fun value => schema.violations value = []

theorem suits_texts {type : SchemaType}
    (h : Returns type.decode fun value => ∃ s, value = .string s) :
    type.Suits JsonSchema.texts := by
  refine h.imp ?_
  rintro _ ⟨s, rfl⟩
  exact JsonSchema.violations_texts s

theorem suits_naturals {type : SchemaType} {width : Nat}
    (h : type.decode = takeNumber width) (hwidth : width ≤ 8) {maximum : Option Json.Number}
    (hmaximum : ∀ m, maximum = some m → ∃ bound : UInt64, m = .natural bound ∧
      256 ^ width ≤ bound.toNat + 1) : type.Suits (JsonSchema.naturals maximum) := by
  rw [SchemaType.Suits, h]
  refine (returns_takeNumber hwidth).imp ?_
  rintro _ ⟨n, rfl, hn⟩
  refine JsonSchema.violations_naturals fun m hm => ?_
  obtain ⟨bound, rfl, hbound⟩ := hmaximum m hm
  rw [JsonSchema.natural_less_iff, decide_eq_false_iff_not]
  omega

theorem suits_lists {size : SizeLength} {item : SchemaType} {schema : JsonSchema}
    (h : item.Suits schema) : (SchemaType.list size item).Suits (JsonSchema.lists schema) := by
  refine (returns_list h).imp ?_
  rintro _ ⟨items, rfl, hitems⟩
  rw [JsonSchema.violations_lists]
  exact List.flatMap_eq_nil_iff.mpr hitems

theorem suits_records {fields : List (String × SchemaType)}
    {properties : List (String × JsonSchema)} (distinct : (fields.map (·.1)).Nodup)
    (h : ∀ field ∈ fields, ∀ property ∈ properties, property.1 = field.1 →
      field.2.Suits property.2) :
    (SchemaType.struct (.named fields)).Suits (JsonSchema.records properties) := by
  have hfields : ∀ field ∈ fields, Returns field.2.decode fun member =>
      ∀ property ∈ properties, property.1 = field.1 → property.2.violations member = [] :=
    fun field hfield data member rest hrun property hproperty hname =>
      h field hfield property hproperty hname data member rest hrun
  refine (returns_struct distinct hfields).imp ?_
  rintro _ ⟨⟨members, rfl⟩, -, hmember'⟩
  rw [JsonSchema.violations_records]
  refine JsonSchema.propertyViolations_eq_nil fun property hproperty member hmember => ?_
  obtain ⟨field, -, hname, hviolations⟩ := hmember' property.1 member hmember
  exact hviolations property hproperty hname.symm

namespace OffchainTransfers

open JsonSchema

/-! ### Types of blobs -/

/-- The type of lists of transfers. -/
def transfersType : SchemaType :=
  .list .u32 (.struct (.named [("address", .accountAddress), ("amount", .amount)]))

/-- The type of settlements. -/
def settlementType : SchemaType :=
  .struct (.named [("send_transfers", transfersType), ("receive_transfers", transfersType),
    ("meta_data", .list .u32 .u8)])

/-- The fields of what the init function takes. -/
def initFields : List (String × SchemaType) :=
  [("validator", .accountAddress), ("judge", .accountAddress), ("time_to_finality", .duration),
    ("settlement_limit", .u32)]

/-- The fields of what `getSettlement` returns. -/
def settlementResponseFields : List (String × SchemaType) :=
  [("id", .u64), ("transfer", settlementType), ("finality_time", .timestamp)]

theorem parse_initRequest : initRequest.parse = .ok (.struct (.named initFields)) :=
  SchemaBlob.parse_eq_ok (by decide +kernel) (by decide +kernel) (by decide +kernel)

theorem parse_addSettlementRequest : addSettlementRequest.parse = .ok settlementType :=
  SchemaBlob.parse_eq_ok (by decide +kernel) (by decide +kernel) (by decide +kernel)

theorem parse_getSettlementResponse :
    getSettlementResponse.parse = .ok (.struct (.named settlementResponseFields)) :=
  SchemaBlob.parse_eq_ok (by decide +kernel) (by decide +kernel) (by decide +kernel)

theorem parse_getSettlementRequest : getSettlementRequest.parse = .ok .u64 :=
  SchemaBlob.parse_eq_ok (by decide +kernel) (by decide) (by decide)

theorem parse_settledBalanceOfRequest : settledBalanceOfRequest.parse = .ok .accountAddress :=
  SchemaBlob.parse_eq_ok (by decide +kernel) (by decide) (by decide)

theorem parse_settledBalanceOfResponse : settledBalanceOfResponse.parse = .ok .amount :=
  SchemaBlob.parse_eq_ok (by decide +kernel) (by decide) (by decide)

theorem parse_withdrawRequest : withdrawRequest.parse = .ok .amount :=
  SchemaBlob.parse_eq_ok (by decide +kernel) (by decide) (by decide)

/-! ### Schemas of documents -/

/-- The schema of lists of transfers. -/
def transfersSchema : JsonSchema :=
  lists (records [("address", texts), ("amount", texts)])

/-- The schema of settlements. -/
def settlementSchema : JsonSchema :=
  records [("meta_data", lists (naturals (some (.natural 255)))),
    ("receive_transfers", transfersSchema), ("send_transfers", transfersSchema)]

theorem ofJson_transfersDocument (title : String) :
    ofJson (transfersDocument title) = .ok transfersSchema := by
  refine ofJson_listDocument title (ofJson_objectDocument "" ?_)
  simp only [Json.orderMembers, Json.insertMember, List.foldl_cons, List.foldl_nil,
    String.reduceLT, String.reduceEq, ↓reduceIte]
  exact ofMembers_cons (ofJson_textDocument _)
    (ofMembers_cons (ofJson_textDocument _) ofMembers_nil)

theorem ofJson_settlementDocument (title : String) :
    ofJson (settlementDocument title) = .ok settlementSchema := by
  refine ofJson_objectDocument title ?_
  simp only [Json.orderMembers, Json.insertMember, List.foldl_cons, List.foldl_nil,
    String.reduceLT, ↓reduceIte]
  exact ofMembers_cons (ofJson_listDocument _ (ofJson_boundedDocument _ _))
    (ofMembers_cons (ofJson_transfersDocument _)
      (ofMembers_cons (ofJson_transfersDocument _) ofMembers_nil))

/-- The documents of what the init function takes. -/
def initDocuments : List (String × Json) :=
  [("validator", textDocument "Validator"), ("judge", textDocument "Judge"),
    ("time_to_finality", textDocument "Time To Finality"),
    ("settlement_limit", boundedDocument "Settlement Limit" 4294967295)]

/-- The schemas of what the init function takes. -/
def initProperties : List (String × JsonSchema) :=
  [("judge", texts), ("settlement_limit", naturals (some (.natural 4294967295))),
    ("time_to_finality", texts), ("validator", texts)]

theorem ofMembers_initDocuments :
    JsonSchema.ofMembers (Json.orderMembers initDocuments) = .ok initProperties := by
  simp only [initDocuments, Json.orderMembers, Json.insertMember, List.foldl_cons, List.foldl_nil,
    String.reduceLT, String.reduceEq, ↓reduceIte]
  exact ofMembers_cons (ofJson_textDocument _) (ofMembers_cons (ofJson_boundedDocument _ _)
    (ofMembers_cons (ofJson_textDocument _)
      (ofMembers_cons (ofJson_textDocument _) ofMembers_nil)))

/-- The document of a time in settlements. -/
theorem ofJson_timeDocument (title : String) :
    ofJson (Json.ofMembers [("type", .string "string"), ("format", .string "date-time"),
      ("title", .string title)]) = .ok texts := by
  have hdocument : Json.ofMembers [("type", .string "string"), ("format", .string "date-time"),
      ("title", .string title)] = .object [("format", .string "date-time"),
        ("title", .string title), ("type", .string "string")] := by
    simp only [Json.ofMembers, Json.orderMembers, Json.insertMember,
      List.foldl_cons, List.foldl_nil, String.reduceLT, String.reduceEq, ↓reduceIte]
  rw [hdocument]
  rfl

/-! ### Comparison -/

theorem suits_u64 : SchemaType.u64.Suits (naturals none) := by
  refine suits_naturals (by rw [SchemaType.decode]) (Nat.le_refl 8) ?_
  rintro _ ⟨⟩

theorem suits_transfers : transfersType.Suits transfersSchema := by
  refine suits_lists (suits_records (by decide) ?_)
  have haddress := suits_texts returns_accountAddress
  have hamount := suits_texts returns_amount
  simp [haddress, hamount]

theorem suits_settlement : settlementType.Suits settlementSchema := by
  have hbyte : SchemaType.u8.Suits (naturals (some (.natural 255))) := by
    refine suits_naturals (by rw [SchemaType.decode]) (by decide : 1 ≤ 8) ?_
    rintro _ ⟨⟩
    exact ⟨255, rfl, by decide⟩
  have hbytes : (SchemaType.list .u32 .u8).Suits (lists (naturals (some (.natural 255)))) :=
    suits_lists hbyte
  have htransfers := suits_transfers
  refine suits_records (by decide) ?_
  simp [hbytes, htransfers]

/-! ### Times -/

/-- **A document refuses an object** for one reason only: it wants a text where the object
has an integer. -/
structure RefusesInteger (document : FormDocument) (name : String) (value : Json) (n : UInt64) :
    Prop where
  /-- The member is an integer. -/
  member : value.get? name = some (.number (.natural n))
  /-- This is what the document complains about. -/
  check_eq : document.check value = .error (.invalidInput document.title
    [.wrongKind (.number (.natural n)) [.string]])
  /-- The other members are as their properties want them. -/
  others : ∀ other member, other ≠ name → value.get? other = some member →
    ∃ property, document.property? other = some property ∧
      FormDocument.check ⟨property⟩ member = .ok ()

/-- An integer stands among the fields where the document wants a text, and the other fields
suit the document. -/
theorem returns_refusesInteger {title name : String} {documents : List (String × Json)}
    {fields : List (String × SchemaType)} {before after : List (String × JsonSchema)}
    (distinct : (fields.map (·.1)).Nodup)
    (hdocuments : JsonSchema.ofMembers (Json.orderMembers documents) =
      .ok (before ++ (name, texts) :: after))
    (hnew : ∀ property ∈ before ++ after, property.1 ≠ name)
    {type : SchemaType} (hname : (name, type) ∈ fields)
    (hinteger : ∀ field ∈ fields, field.1 = name → Returns field.2.decode fun value =>
      ∃ n : UInt64, value = .number (.natural n))
    (hothers : ∀ field ∈ fields, field.1 ≠ name →
      (∀ property ∈ before ++ after, property.1 = field.1 → field.2.Suits property.2) ∧
      ∃ document schema, documents.reverse.lookup field.1 = some document ∧
        ofJson document = .ok schema ∧ field.2.Suits schema) :
    Returns (SchemaType.struct (.named fields)).decode fun value =>
      ∃ n, RefusesInteger ⟨objectDocument title documents⟩ name value n := by
  have hfields : ∀ field ∈ fields, Returns field.2.decode fun member =>
      (field.1 = name → ∃ n : UInt64, member = .number (.natural n)) ∧
      (field.1 ≠ name →
        (∀ property ∈ before ++ after, property.1 = field.1 → property.2.violations member = []) ∧
        ∃ document, documents.reverse.lookup field.1 = some document ∧
          FormDocument.check ⟨document⟩ member = .ok ()) := by
    intro field hfield data member rest hrun
    refine ⟨fun heq => hinteger field hfield heq data member rest hrun, fun hne => ?_⟩
    obtain ⟨hsuits, document, schema, hlookup, hschema, hproperty⟩ := hothers field hfield hne
    refine ⟨fun property hmem heq => hsuits property hmem heq data member rest hrun, document,
      hlookup, ?_⟩
    exact FormDocument.check_of_violations_eq_nil hschema (hproperty data member rest hrun)
  refine (returns_struct distinct hfields).imp ?_
  rintro _ ⟨⟨members, rfl⟩, hmembers, hfield⟩
  obtain ⟨_, hmember, hnumber, -⟩ := hmembers _ hname
  obtain ⟨n, rfl⟩ := hnumber rfl
  refine ⟨n, hmember, ?_, fun other member hne hother => ?_⟩
  · have hrest : ∀ property ∈ before ++ after, ∀ member,
        (Json.object members).get? property.1 = some member →
          property.2.violations member = [] := by
      intro property hproperty member hmember
      obtain ⟨field, -, heq, -, hsuits⟩ := hfield property.1 member hmember
      exact (hsuits (heq ▸ hnew property hproperty)).1 property hproperty heq.symm
    have hviolations : (records (before ++ (name, texts) :: after)).violations
        (.object members) = [.wrongKind (.number (.natural n)) [.string]] := by
      rw [violations_records, propertyViolations_of_others hmember hrest, violations_texts_number]
    have hschema : ofJson (FormDocument.mk (objectDocument title documents)).json =
        .ok (records (before ++ (name, texts) :: after)) := ofJson_objectDocument title hdocuments
    rw [FormDocument.check_eq hschema, hviolations]
    rfl
  · obtain ⟨field, -, rfl, -, hsuits⟩ := hfield other member hother
    rw [property?_objectDocument]
    exact (hsuits hne).2

/-- Times are read as integers. -/
theorem returns_time :
    Returns (takeNumber 8) fun value => ∃ n : UInt64, value = .number (.natural n) :=
  (returns_takeNumber (Nat.le_refl 8)).imp fun _ ⟨n, hn, _⟩ => ⟨n, hn⟩

/-- The init function takes a time as an integer, and the document wants it to be a text. -/
theorem returns_refusesInteger_init :
    Returns (SchemaType.struct (.named initFields)).decode fun value =>
      ∃ n, RefusesInteger initDocument "time_to_finality" value n := by
  have hschemas : JsonSchema.ofMembers (Json.orderMembers initDocuments) =
      .ok ([("judge", texts), ("settlement_limit", naturals (some (.natural 4294967295)))] ++
        ("time_to_finality", texts) :: [("validator", texts)]) := ofMembers_initDocuments
  have haddress := suits_texts returns_accountAddress
  have hlimit : SchemaType.u32.Suits (naturals (some (.natural 4294967295))) := by
    refine suits_naturals (by rw [SchemaType.decode]) (by decide : 4 ≤ 8) ?_
    rintro _ ⟨⟩
    exact ⟨4294967295, rfl, by decide⟩
  have hname : ("time_to_finality", SchemaType.duration) ∈ initFields := by simp [initFields]
  refine returns_refusesInteger (by decide) hschemas (by decide) hname ?_ ?_
  · simp [initFields, returns_time]
  · simp only [initFields, List.forall_mem_cons]
    refine ⟨fun _ => ⟨?_, _, _, rfl, ofJson_textDocument _, haddress⟩,
      fun _ => ⟨?_, _, _, rfl, ofJson_textDocument _, haddress⟩, fun h => absurd rfl h,
      fun _ => ⟨?_, _, _, rfl, ofJson_boundedDocument _ _, hlimit⟩,
      fun _ h => absurd h List.not_mem_nil⟩
    all_goals simp [haddress, hlimit]

/-- So is the time of a settlement. -/
theorem returns_refusesInteger_settlement :
    Returns (SchemaType.struct (.named settlementResponseFields)).decode fun value =>
      ∃ n, RefusesInteger settlementResponseDocument "finality_time" value n := by
  have hschemas : JsonSchema.ofMembers (Json.orderMembers
      [("id", naturalDocument "Id"), ("transfer", settlementDocument "Transfer"),
        ("finality_time", Json.ofMembers [("type", .string "string"),
          ("format", .string "date-time"), ("title", .string "Finality Time")])]) =
      .ok ([] ++ ("finality_time", texts) ::
        [("id", naturals none), ("transfer", settlementSchema)]) := by
    simp only [Json.orderMembers, Json.insertMember, List.foldl_cons, List.foldl_nil,
      String.reduceLT, String.reduceEq, ↓reduceIte]
    exact ofMembers_cons (ofJson_timeDocument _) (ofMembers_cons (ofJson_naturalDocument _)
      (ofMembers_cons (ofJson_settlementDocument _) ofMembers_nil))
  have hname : ("finality_time", SchemaType.timestamp) ∈ settlementResponseFields := by
    simp [settlementResponseFields]
  refine returns_refusesInteger (by decide) hschemas (by decide) hname ?_ ?_
  · simp [settlementResponseFields, returns_time]
  · simp only [settlementResponseFields, List.forall_mem_cons]
    refine ⟨fun _ => ⟨?_, _, _, rfl, ofJson_naturalDocument _, suits_u64⟩,
      fun _ => ⟨?_, _, _, rfl, ofJson_settlementDocument _, suits_settlement⟩,
      fun h => absurd rfl h, fun _ h => absurd h List.not_mem_nil⟩
    all_goals simp [suits_u64, suits_settlement]

/-! ### Forms -/

/-- **A document agrees with a blob**: whatever is decoded under the blob passes the
document. -/
def Agrees (document : FormDocument) (blob : SchemaBlob) : Prop :=
  ∀ data value, valueCodec.decode blob data = .ok value → document.check value = .ok ()

theorem decoded_of_returns {blob : SchemaBlob} {type : SchemaType} {P : Json → Prop}
    (hblob : blob.parse = .ok type) (h : Returns type.decode P) {data : List UInt8} {value : Json}
    (hdecode : valueCodec.decode blob data = .ok value) : P value :=
  h data value [] ((valueCodec_decode_eq_ok_iff hblob).mp hdecode)

theorem agrees_of_suits {document : FormDocument} {blob : SchemaBlob} {type : SchemaType}
    {schema : JsonSchema} (hblob : blob.parse = .ok type)
    (hdocument : ofJson document.json = .ok schema) (h : type.Suits schema) :
    Agrees document blob := fun _ _ hdecode =>
  FormDocument.check_of_violations_eq_nil hdocument (decoded_of_returns hblob h hdecode)

/-- **Documents and blobs of the contract agree, except for times.** Whatever is decoded under
the blob of a request passes the document of the request, and so does the balance that is
returned. In what the init function takes and in what `getSettlement` returns, a time is
decoded as an integer, and this is the one thing the documents complain about, every time. -/
theorem documents_agree_but_for_times :
    (∀ key ∈ ["addSettlement", "getSettlement", "settledBalanceOf", "withdraw"],
      ∃ form document blob, forms.entrypoint key = .ok form ∧
        form.requestDocument = some document ∧ form.method.request = some blob ∧
        Agrees document blob) ∧
    (∃ form document blob, forms.entrypoint "settledBalanceOf" = .ok form ∧
      form.responseDocument = some document ∧ form.method.response = some blob ∧
      Agrees document blob) ∧
    (∃ blob, forms.bindings.init.request = some blob ∧
      ∀ data value, valueCodec.decode blob data = .ok value →
        ∃ n, RefusesInteger forms.initDocument "time_to_finality" value n) ∧
    ∃ form document blob, forms.entrypoint "getSettlement" = .ok form ∧
      form.responseDocument = some document ∧ form.method.response = some blob ∧
      ∀ data value, valueCodec.decode blob data = .ok value →
        ∃ n, RefusesInteger document "finality_time" value n := by
  have hamount : SchemaType.amount.Suits texts := suits_texts returns_amount
  have haddress : SchemaType.accountAddress.Suits texts := suits_texts returns_accountAddress
  refine ⟨?_, ⟨_, _, _, rfl, rfl, rfl, ?_⟩, ⟨_, rfl, fun data value hdecode => ?_⟩,
    ⟨_, _, _, rfl, rfl, rfl, fun data value hdecode => ?_⟩⟩
  · simp only [List.forall_mem_cons]
    refine ⟨⟨_, _, _, rfl, rfl, rfl, ?_⟩, ⟨_, _, _, rfl, rfl, rfl, ?_⟩,
      ⟨_, _, _, rfl, rfl, rfl, ?_⟩, ⟨_, _, _, rfl, rfl, rfl, ?_⟩, List.forall_mem_nil _⟩
    · exact agrees_of_suits parse_addSettlementRequest (ofJson_settlementDocument _)
        suits_settlement
    · exact agrees_of_suits parse_getSettlementRequest (ofJson_naturalDocument _) suits_u64
    · exact agrees_of_suits parse_settledBalanceOfRequest (ofJson_textDocument _) haddress
    · exact agrees_of_suits parse_withdrawRequest (ofJson_textDocument _) hamount
  · exact agrees_of_suits parse_settledBalanceOfResponse (ofJson_textDocument _) hamount
  · exact decoded_of_returns parse_initRequest returns_refusesInteger_init hdecode
  · exact decoded_of_returns parse_getSettlementResponse returns_refusesInteger_settlement hdecode

/-- An instance with a time of five milliseconds, and a withdrawal of five. -/
theorem documents_agree_but_for_times_five :
    (∃ value, valueCodec.decode initRequest
        (List.replicate 64 1 ++ [5, 0, 0, 0, 0, 0, 0, 0, 7, 0, 0, 0]) = .ok value ∧
      initDocument.check value =
        .error (.invalidInput "Init Request" [.wrongKind (Json.ofNat 5) [.string]])) ∧
    valueCodec.decode withdrawRequest [5, 0, 0, 0, 0, 0, 0, 0] = .ok (.string "5") ∧
      withdrawDocument.check (.string "5") = .ok () := by
  obtain ⟨hrequests, -, ⟨blob, hblob, hinit⟩, -⟩ := documents_agree_but_for_times
  refine ⟨?_, rfl, ?_⟩
  · obtain rfl : initRequest = blob := Option.some.inj hblob
    have hdecode : valueCodec.decode initRequest
        (List.replicate 64 1 ++ [5, 0, 0, 0, 0, 0, 0, 0, 7, 0, 0, 0]) =
          .ok (Json.ofMembers [("validator", .string (Hex.encode (List.replicate 32 1))),
            ("judge", .string (Hex.encode (List.replicate 32 1))),
            ("time_to_finality", Json.ofNat 5), ("settlement_limit", Json.ofNat 7)]) := rfl
    obtain ⟨n, hrefuses⟩ := hinit _ _ hdecode
    have hmember := hrefuses.member
    rw [Json.get?_ofMembers] at hmember
    have hnumber : Json.number (.natural 5) = .number (.natural n) := Option.some.inj hmember
    obtain rfl : 5 = n := Json.Number.natural.inj (Json.number.inj hnumber)
    refine ⟨_, hdecode, ?_⟩
    have htitle : initDocument.title = "Init Request" := title_objectDocument ..
    rw [← htitle]
    exact hrefuses.check_eq
  · obtain ⟨form, document, blob, hform, hdocument, hblob, hagrees⟩ :=
      hrequests "withdraw" (by simp)
    obtain rfl := Except.ok.inj hform
    obtain rfl : withdrawDocument = document := Option.some.inj hdocument
    obtain rfl : withdrawRequest = blob := Option.some.inj hblob
    exact hagrees [5, 0, 0, 0, 0, 0, 0, 0] _ rfl

end OffchainTransfers

end ContractSchema
