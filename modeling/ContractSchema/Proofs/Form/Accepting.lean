import ContractSchema.Proofs.Form.Agreement
import ContractSchema.Proofs.Json.Numbers

/-!
# What documents of forms accept

A document allows texts, natural numbers up to a bound, lists of what another document allows,
and objects whose members are allowed where they are present. Each of these is a kind of values,
and which values a schema allows is known from its parts (`ContractSchema.JsonSchema.Allows`).

For what the init function and `addSettlement` of the off-chain transfers contract take, this
says which values pass (`ContractSchema.OffchainTransfers.documents_accept_exactly`). A number is
judged by its value, so that it may be written with a fraction of zero. Members that a document
does not speak of make no difference, and whatever does not pass is refused under the title of the
document.
-/

namespace ContractSchema

/-! ### Kinds of values -/

namespace Json

/-- **A text.** -/
def IsText (value : Json) : Prop :=
  ∃ s, value = .string s

/-- **A natural number up to a bound**, in whatever form it is written. -/
def IsNaturalUpTo (maximum : ℕ) (value : Json) : Prop :=
  ∃ (n : Number) (k : ℕ), value = .number n ∧ n.value = k ∧ k ≤ maximum

/-- **A list** of values of a kind. -/
def IsListOf (kind : Json → Prop) (value : Json) : Prop :=
  ∃ items, value = .array items ∧ ∀ item ∈ items, kind item

/-- **An object**, whatever its members are. -/
def IsObject (value : Json) : Prop :=
  ∃ members, value = .object members

/-- **A member is of a kind** where it is present. -/
def MemberIs (value : Json) (key : String) (kind : Json → Prop) : Prop :=
  ∀ member, value.get? key = some member → kind member

/-- A member with another key makes no difference to a lookup. -/
theorem get?_object_insert {key other : String} (h : other ≠ key) (member : Json)
    (front back : List (String × Json)) :
    (Json.object (front ++ (key, member) :: back)).get? other =
      (Json.object (front ++ back)).get? other := by
  have hbeq : (other == key) = false := beq_eq_false_iff_ne.mpr h
  change (front ++ (key, member) :: back).lookup other = (front ++ back).lookup other
  rw [List.lookup_append, List.lookup_append, List.lookup_cons, hbeq]

end Json

/-! ### Kinds that schemas allow -/

namespace JsonSchema

open Json

/-- **A schema allows a kind of values**: these are the ones which do not break it. -/
def Allows (schema : JsonSchema) (kind : Json → Prop) : Prop :=
  ∀ value, schema.violations value = [] ↔ kind value

theorem kindViolations_eq_nil_iff {kind : ValueKind} {value : Json} :
    kindViolations (some [kind]) value = [] ↔ kind.admits value = true := by
  rw [kindViolations, List.any_cons, List.any_nil, Bool.or_false]
  split
  · next h => simp [h]
  · next h => simp [h]

theorem minimumViolations_number_eq_nil_iff {minimum n : Number} :
    minimumViolations (some minimum) (.number n) = [] ↔ minimum.value ≤ n.value := by
  rw [minimumViolations, ← not_lt, ← Number.less_iff]
  split
  · next h => simp [h]
  · next h => simp [h]

theorem maximumViolations_number_eq_nil_iff {maximum n : Number} :
    maximumViolations (some maximum) (.number n) = [] ↔ n.value ≤ maximum.value := by
  rw [maximumViolations, ← not_lt, ← Number.less_iff]
  split
  · next h => simp [h]
  · next h => simp [h]

theorem allows_texts : Allows texts IsText := by
  intro value
  cases value with
  | string s =>
    rw [violations_texts]
    simp [IsText]
  | _ => simp [texts, violations, kindViolations, ValueKind.admits, IsText]

theorem allows_naturals (maximum : UInt64) :
    Allows (naturals (some (.natural maximum))) (IsNaturalUpTo maximum.toNat) := by
  intro value
  rw [naturals, violations, propertyViolations, itemViolations]
  simp only [List.append_nil, List.append_eq_nil_iff, kindViolations_eq_nil_iff]
  cases value with
  | number n =>
    have hnumber : IsNaturalUpTo maximum.toNat (.number n) ↔
        ∃ k : ℕ, k ≤ maximum.toNat ∧ n.value = k := by
      simp [IsNaturalUpTo, and_comm]
    rw [minimumViolations_number_eq_nil_iff, maximumViolations_number_eq_nil_iff, hnumber,
      ← Number.isIntegral_between_iff, ValueKind.admits, and_assoc]
    simp [Number.value]
  | _ => simp [ValueKind.admits, IsNaturalUpTo]

theorem allows_lists {schema : JsonSchema} {kind : Json → Prop} (h : schema.Allows kind) :
    Allows (lists schema) (IsListOf kind) := by
  intro value
  cases value with
  | array items =>
    rw [violations_lists, List.flatMap_eq_nil_iff]
    simp [IsListOf, h _]
  | _ => simp [lists, violations, kindViolations, ValueKind.admits, IsListOf]

theorem propertyViolations_eq_nil_iff {properties : List (String × JsonSchema)} {value : Json} :
    propertyViolations properties value = [] ↔
      ∀ property ∈ properties, value.MemberIs property.1 fun member =>
        property.2.violations member = [] := by
  refine ⟨fun h => ?_, propertyViolations_eq_nil⟩
  induction properties with
  | nil => simp
  | cons property properties ih =>
    rw [propertyViolations, List.append_eq_nil_iff] at h
    refine List.forall_mem_cons.mpr ⟨fun member hmember => ?_, ih h.2⟩
    have hproperty := h.1
    rwa [hmember] at hproperty

theorem allows_records (properties : List (String × JsonSchema)) :
    Allows (records properties) fun value => value.IsObject ∧
      ∀ property ∈ properties, value.MemberIs property.1 fun member =>
        property.2.violations member = [] := by
  intro value
  cases value with
  | object members =>
    rw [violations_records, propertyViolations_eq_nil_iff]
    simp [IsObject]
  | _ => simp [records, violations, kindViolations, ValueKind.admits, IsObject]

/-- Members that no property is for make no difference. -/
theorem violations_records_insert {properties : List (String × JsonSchema)} {key : String}
    (h : key ∉ properties.map (·.1)) (member : Json)
    (front back : List (String × Json)) :
    (records properties).violations (.object (front ++ (key, member) :: back)) =
      (records properties).violations (.object (front ++ back)) := by
  rw [violations_records, violations_records]
  induction properties with
  | nil => rw [propertyViolations, propertyViolations]
  | cons property properties ih =>
    rw [List.map_cons, List.mem_cons, not_or] at h
    rw [propertyViolations, propertyViolations, ih h.2, get?_object_insert (Ne.symm h.1)]

end JsonSchema

namespace FormDocument

variable {document : FormDocument} {schema : JsonSchema}

theorem check_eq_ok_iff (h : JsonSchema.ofJson document.json = .ok schema) {value : Json} :
    document.check value = .ok () ↔ schema.violations value = [] := by
  rw [check_eq h]
  split
  · next hnil => simpa using hnil
  · next hnil => simpa using hnil

/-- **A value that does not pass is refused** under the title of the document. -/
theorem check_eq_ok_or_error (h : JsonSchema.ofJson document.json = .ok schema) (value : Json) :
    document.check value = .ok () ∨
      ∃ violations, violations ≠ [] ∧
        document.check value = .error (.invalidInput document.title violations) := by
  rw [check_eq h]
  split
  · exact Or.inl rfl
  · next hnil => exact Or.inr ⟨_, by simpa using hnil, rfl⟩

/-- **A member that is not declared** may be put anywhere: the answer stays the same. -/
theorem check_insert {properties : List (String × JsonSchema)}
    (h : JsonSchema.ofJson document.json = .ok (.records properties)) {key : String}
    (hkey : key ∉ properties.map (·.1)) (member : Json) (front back : List (String × Json)) :
    document.check (.object (front ++ (key, member) :: back)) =
      document.check (.object (front ++ back)) := by
  rw [check_eq h, check_eq h, JsonSchema.violations_records_insert hkey]

end FormDocument

/-! ### Documents of the off-chain transfers contract -/

namespace OffchainTransfers

open Json JsonSchema

/-- **A transfer**: an object with texts for the address and the amount. -/
structure IsTransfer (value : Json) : Prop where
  /-- It is an object. -/
  isObject : value.IsObject
  /-- The address is a text. -/
  address : value.MemberIs "address" IsText
  /-- So is the amount. -/
  amount : value.MemberIs "amount" IsText

/-- **What the init function is asked for.** -/
structure IsInitRequest (value : Json) : Prop where
  /-- It is an object. -/
  isObject : value.IsObject
  /-- The validator is a text. -/
  validator : value.MemberIs "validator" IsText
  /-- So is the judge. -/
  judge : value.MemberIs "judge" IsText
  /-- So is the time after which settlements are final. -/
  timeToFinality : value.MemberIs "time_to_finality" IsText
  /-- The number of settlements has 32 bits. -/
  settlementLimit : value.MemberIs "settlement_limit" (IsNaturalUpTo 4294967295)

/-- **What `addSettlement` is asked for.** -/
structure IsSettlement (value : Json) : Prop where
  /-- It is an object. -/
  isObject : value.IsObject
  /-- What is sent is a list of transfers. -/
  sendTransfers : value.MemberIs "send_transfers" (IsListOf IsTransfer)
  /-- So is what is received. -/
  receiveTransfers : value.MemberIs "receive_transfers" (IsListOf IsTransfer)
  /-- The data of the user are bytes. -/
  metaData : value.MemberIs "meta_data" (IsListOf (IsNaturalUpTo 255))

theorem allows_transfers : Allows transfersSchema (IsListOf IsTransfer) := by
  refine allows_lists fun value => ?_
  rw [allows_records]
  simp only [List.forall_mem_cons, List.not_mem_nil, false_implies, implies_true, and_true,
    allows_texts _]
  exact ⟨fun ⟨hobject, haddress, hamount⟩ => ⟨hobject, haddress, hamount⟩,
    fun h => ⟨h.isObject, h.address, h.amount⟩⟩

/-- The schemas of the members of settlements. -/
def settlementProperties : List (String × JsonSchema) :=
  [("meta_data", lists (naturals (some (.natural 255)))),
    ("receive_transfers", transfersSchema), ("send_transfers", transfersSchema)]

theorem allows_settlement : Allows (records settlementProperties) IsSettlement := by
  intro value
  have hbytes : Allows (lists (naturals (some (.natural 255)))) (IsListOf (IsNaturalUpTo 255)) :=
    allows_lists (allows_naturals 255)
  rw [settlementProperties, allows_records]
  simp only [List.forall_mem_cons, List.not_mem_nil, false_implies, implies_true, and_true,
    allows_transfers _, hbytes _]
  exact ⟨fun ⟨hobject, hdata, hreceive, hsend⟩ => ⟨hobject, hsend, hreceive, hdata⟩,
    fun h => ⟨h.isObject, h.metaData, h.receiveTransfers, h.sendTransfers⟩⟩

theorem allows_init : Allows (records initProperties) IsInitRequest := by
  intro value
  have hlimit : Allows (naturals (some (.natural 4294967295))) (IsNaturalUpTo 4294967295) :=
    allows_naturals 4294967295
  rw [initProperties, allows_records]
  simp only [List.forall_mem_cons, List.not_mem_nil, false_implies, implies_true, and_true,
    allows_texts _, hlimit _]
  exact ⟨fun ⟨hobject, hjudge, hlimit, htime, hvalidator⟩ =>
      ⟨hobject, hvalidator, hjudge, htime, hlimit⟩,
    fun h => ⟨h.isObject, h.judge, h.settlementLimit, h.timeToFinality, h.validator⟩⟩

theorem ofJson_initDocument : ofJson initDocument.json = .ok (records initProperties) :=
  ofJson_objectDocument "Init Request" ofMembers_initDocuments

theorem ofJson_addSettlementDocument :
    ofJson addSettlementDocument.json = .ok (records settlementProperties) :=
  ofJson_settlementDocument "Add Settlement Request"

/-- **Documents accept exactly what is meant.** What the init function is asked for passes its
document, and what `addSettlement` is asked for passes the other one; nothing else does. All
other values are refused under the title of the document. A member that a document does not
declare may be put anywhere among the members, and the answer stays the same. -/
theorem documents_accept_exactly :
    (∀ value, initDocument.check value = .ok () ↔ IsInitRequest value) ∧
    (∀ value, ¬IsInitRequest value → ∃ violations, violations ≠ [] ∧
      initDocument.check value = .error (.invalidInput "Init Request" violations)) ∧
    (∀ key ∉ ["validator", "judge", "time_to_finality", "settlement_limit"],
      ∀ member front back, initDocument.check (.object (front ++ (key, member) :: back)) =
        initDocument.check (.object (front ++ back))) ∧
    (∀ value, addSettlementDocument.check value = .ok () ↔ IsSettlement value) ∧
    (∀ value, ¬IsSettlement value → ∃ violations, violations ≠ [] ∧
      addSettlementDocument.check value =
        .error (.invalidInput "Add Settlement Request" violations)) ∧
    ∀ key ∉ ["send_transfers", "receive_transfers", "meta_data"],
      ∀ member front back, addSettlementDocument.check (.object (front ++ (key, member) :: back)) =
        addSettlementDocument.check (.object (front ++ back)) := by
  have hinit : ∀ value, initDocument.check value = .ok () ↔ IsInitRequest value := fun value =>
    (FormDocument.check_eq_ok_iff ofJson_initDocument).trans (allows_init value)
  have hsettlement : ∀ value, addSettlementDocument.check value = .ok () ↔ IsSettlement value :=
    fun value =>
      (FormDocument.check_eq_ok_iff ofJson_addSettlementDocument).trans (allows_settlement value)
  have htitle : initDocument.title = "Init Request" := title_objectDocument ..
  have htitle' : addSettlementDocument.title = "Add Settlement Request" := title_objectDocument ..
  refine ⟨hinit, fun value hvalue => ?_, fun key hkey member front back => ?_, hsettlement,
    fun value hvalue => ?_, fun key hkey member front back => ?_⟩
  · rw [← htitle]
    exact (FormDocument.check_eq_ok_or_error ofJson_initDocument value).resolve_left
      fun hok => hvalue ((hinit value).mp hok)
  · have hother : key ∉ initProperties.map (·.1) := fun h => hkey (by
      simp only [initProperties, List.map_cons, List.map_nil, List.mem_cons] at h ⊢
      tauto)
    exact FormDocument.check_insert ofJson_initDocument hother member front back
  · rw [← htitle']
    exact (FormDocument.check_eq_ok_or_error ofJson_addSettlementDocument value).resolve_left
      fun hok => hvalue ((hsettlement value).mp hok)
  · have hother : key ∉ settlementProperties.map (·.1) := fun h => hkey (by
      simp only [settlementProperties, List.map_cons, List.map_nil, List.mem_cons] at h ⊢
      tauto)
    exact FormDocument.check_insert ofJson_addSettlementDocument hother member front back

/-- Five as a double, `5.0`. -/
def five : Json.Number :=
  .double ⟨false, 5629499534213120, -50⟩

/-- The double `5.5`. -/
def fiveAndHalf : Json.Number :=
  .double ⟨false, 6192449487634432, -50⟩

/-- A limit of five passes as a double, with a member that nobody asked for in front of it. With a
half more it is refused, and so is a transfer whose amount is a number. -/
theorem documents_accept_exactly_five :
    initDocument.check (.object [("note", .null), ("settlement_limit", .number five)]) =
        .ok () ∧
      (∃ violations, violations ≠ [] ∧
        initDocument.check (.object [("settlement_limit", .number fiveAndHalf)]) =
          .error (.invalidInput "Init Request" violations)) ∧
      ∃ violations, violations ≠ [] ∧
        addSettlementDocument.check (.object [("send_transfers",
            .array [.object [("amount", .number (.natural 1))]])]) =
          .error (.invalidInput "Add Settlement Request" violations) := by
  obtain ⟨hinit, hrefused, hundeclared, -, hrefused', -⟩ := documents_accept_exactly
  have hfive : five.value = (5 : ℕ) := by
    norm_num [five, Json.Number.value, Double.value]
  have hhalf : 2 * fiveAndHalf.value = (11 : ℕ) := by
    norm_num [fiveAndHalf, Json.Number.value, Double.value]
  refine ⟨?_, hrefused _ fun h => ?_, hrefused' _ fun h => ?_⟩
  · refine (hundeclared "note" (by decide) .null [] _).trans ((hinit _).mpr ?_)
    refine ⟨⟨_, rfl⟩, ?_, ?_, ?_, ?_⟩
    · rintro member ⟨⟩
    · rintro member ⟨⟩
    · rintro member ⟨⟩
    · rintro member ⟨⟩
      exact ⟨_, 5, rfl, hfive, by decide⟩
  · obtain ⟨n, k, hn, hk, -⟩ := h.settlementLimit _ rfl
    obtain rfl : fiveAndHalf = n := Json.number.inj hn
    rw [hk] at hhalf
    have heleven : 2 * k = 11 := by exact_mod_cast hhalf
    omega
  · obtain ⟨_, ⟨⟩, hitems⟩ := h.sendTransfers _ rfl
    obtain ⟨s, hs⟩ := (hitems _ (List.mem_cons_self ..)).amount _ rfl
    cases hs

end OffchainTransfers

end ContractSchema
