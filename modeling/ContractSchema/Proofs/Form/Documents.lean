import ContractSchema.Form.OffchainTransfers
import ContractSchema.Proofs.Json.Members
import ContractSchema.Proofs.Steps

/-!
# Documents as schemas

The documents of forms are put together from few parts: texts, integers that are not
negative, lists and objects. So are the schemas they are read as, and what is said here of
each of them is which schema it is and how values break it. For objects this is the
matter of their members: if all members but one are allowed, violations are those of this
one (`ContractSchema.JsonSchema.propertyViolations_of_others`).
-/

namespace ContractSchema

namespace JsonSchema

/-! ### Schemas of a single kind -/

/-- Allows texts. -/
def texts : JsonSchema :=
  .keywords (some [.string]) none none [] none

/-- Allows integers from zero on, up to a bound if there is one. -/
def naturals (maximum : Option Json.Number) : JsonSchema :=
  .keywords (some [.integer]) (some (.natural 0)) maximum [] none

/-- Allows lists of what the schema allows. -/
def lists (items : JsonSchema) : JsonSchema :=
  .keywords (some [.array]) none none [] (some items)

/-- Allows objects whose members are allowed by the schemas of the properties. -/
def records (properties : List (String × JsonSchema)) : JsonSchema :=
  .keywords (some [.object]) none none properties none

/-! ### Violations -/

theorem violations_texts (s : String) : texts.violations (.string s) = [] := by
  rw [texts, violations, propertyViolations, itemViolations]
  rfl

theorem violations_texts_number (n : Json.Number) :
    texts.violations (.number n) = [.wrongKind (.number n) [.string]] := by
  rw [texts, violations, propertyViolations, itemViolations]
  rfl

theorem natural_less_iff (m n : UInt64) :
    (Json.Number.natural m).less (.natural n) = decide (m.toNat < n.toNat) := by
  simp [Json.Number.less, Json.Number.ratio]

theorem violations_naturals {maximum : Option Json.Number} {n : UInt64}
    (h : ∀ m, maximum = some m → m.less (.natural n) = false) :
    (naturals maximum).violations (.number (.natural n)) = [] := by
  have hzero : (Json.Number.natural n).less (.natural 0) = false := by
    rw [natural_less_iff]
    simp
  have hmaximum : maximumViolations maximum (.number (.natural n)) = [] := by
    rcases maximum with _ | m
    · rfl
    · rw [maximumViolations, h m rfl]
      rfl
  rw [naturals, violations, propertyViolations, itemViolations, hmaximum, minimumViolations, hzero]
  rfl

theorem violations_lists (schema : JsonSchema) (items : List Json) :
    (lists schema).violations (.array items) = items.flatMap schema.violations := by
  rw [lists, violations, propertyViolations, itemViolations]
  rfl

theorem violations_records (properties : List (String × JsonSchema))
    (members : List (String × Json)) :
    (records properties).violations (.object members) =
      propertyViolations properties (.object members) := by
  rw [records, violations, itemViolations, List.append_nil]
  rfl

theorem propertyViolations_append (before after : List (String × JsonSchema)) (value : Json) :
    propertyViolations (before ++ after) value =
      propertyViolations before value ++ propertyViolations after value := by
  induction before with
  | nil => rw [propertyViolations]; rfl
  | cons property before ih =>
    rw [List.cons_append, propertyViolations, propertyViolations, ih, List.append_assoc]

theorem propertyViolations_eq_nil {properties : List (String × JsonSchema)} {value : Json}
    (h : ∀ property ∈ properties, ∀ member, value.get? property.1 = some member →
      property.2.violations member = []) : propertyViolations properties value = [] := by
  induction properties with
  | nil => rw [propertyViolations]
  | cons property properties ih =>
    obtain ⟨hproperty, hproperties⟩ := List.forall_mem_cons.mp h
    rw [propertyViolations, ih hproperties, List.append_nil]
    split
    · next member hmember => exact hproperty member hmember
    · rfl

/-- If the other members are allowed, violations are those of one member. -/
theorem propertyViolations_of_others {before after : List (String × JsonSchema)} {name : String}
    {schema : JsonSchema} {value member : Json} (hmember : value.get? name = some member)
    (h : ∀ property ∈ before ++ after, ∀ member, value.get? property.1 = some member →
      property.2.violations member = []) :
    propertyViolations (before ++ (name, schema) :: after) value = schema.violations member := by
  obtain ⟨hbefore, hafter⟩ := List.forall_mem_append.mp h
  rw [propertyViolations_append, propertyViolations_eq_nil hbefore, propertyViolations,
    propertyViolations_eq_nil hafter, hmember]
  simp

end JsonSchema

namespace FormDocument

/-- A document is checked by the schema it is. -/
theorem check_eq {document : FormDocument} {schema : JsonSchema}
    (h : JsonSchema.ofJson document.json = .ok schema) (value : Json) :
    document.check value =
      if (schema.violations value).isEmpty then .ok ()
      else .error (.invalidInput document.title (schema.violations value)) := by
  rw [check, FormDocument.schema, h]
  rfl

theorem check_of_violations_eq_nil {document : FormDocument} {schema : JsonSchema} {value : Json}
    (h : JsonSchema.ofJson document.json = .ok schema) (hnil : schema.violations value = []) :
    document.check value = .ok () := by
  rw [check_eq h, hnil]
  rfl

end FormDocument

namespace OffchainTransfers

open JsonSchema

/-! ### Reading documents -/

theorem propertiesOf_cons_of_ne {keyword : String} {value : Json} {members : List (String × Json)}
    (h : keyword ≠ "properties") :
    propertiesOf ((keyword, value) :: members) = propertiesOf members := by
  cases value with
  | object properties => rw [propertiesOf, if_neg h]
  | _ =>
    rw [propertiesOf, if_neg h]
    simp

theorem ofJson_textDocument (title : String) : ofJson (textDocument title) = .ok texts := by
  have hdocument : textDocument title =
      .object [("title", .string title), ("type", .string "string")] := by
    simp only [textDocument, Json.ofMembers, Json.orderMembers, Json.insertMember,
      List.foldl_cons, List.foldl_nil, String.reduceLT, ↓reduceIte]
  rw [hdocument]
  rfl

theorem ofJson_naturalDocument (title : String) :
    ofJson (naturalDocument title) = .ok (naturals none) := by
  have hdocument : naturalDocument title =
      .object [("minimum", Json.ofNat 0), ("title", .string title),
        ("type", .string "integer")] := by
    simp only [naturalDocument, Json.ofMembers, Json.orderMembers, Json.insertMember,
      List.foldl_cons, List.foldl_nil, String.reduceLT, String.reduceEq, ↓reduceIte]
  rw [hdocument]
  rfl

theorem ofJson_boundedDocument (title : String) (maximum : Nat) :
    ofJson (boundedDocument title maximum) =
      .ok (naturals (some (.natural (UInt64.ofNat maximum)))) := by
  have hdocument : boundedDocument title maximum =
      .object [("maximum", Json.ofNat maximum), ("minimum", Json.ofNat 0),
        ("title", .string title), ("type", .string "integer")] := by
    simp only [boundedDocument, Json.ofMembers, Json.orderMembers, Json.insertMember,
      List.foldl_cons, List.foldl_nil, String.reduceLT, String.reduceEq, ↓reduceIte]
  rw [hdocument]
  rfl

theorem ofJson_listDocument (title : String) {items : Json} {schema : JsonSchema}
    (h : ofJson items = .ok schema) : ofJson (listDocument title items) = .ok (lists schema) := by
  have hdocument : listDocument title items =
      .object [("items", items), ("title", .string title), ("type", .string "array")] := by
    simp only [listDocument, Json.ofMembers, Json.orderMembers, Json.insertMember,
      List.foldl_cons, List.foldl_nil, String.reduceLT, ↓reduceIte]
  have hitems : itemsOf [("items", items), ("title", .string title), ("type", .string "array")] =
      .ok (some schema) := by
    rw [itemsOf, if_pos rfl, h]
    rfl
  have hproperties : propertiesOf [("items", items), ("title", .string title),
      ("type", .string "array")] = .ok [] := by
    rw [propertiesOf_cons_of_ne (by decide)]
    rfl
  rw [hdocument, ofJson, hitems, hproperties]
  rfl

theorem objectDocument_eq (title : String) (properties : List (String × Json)) :
    objectDocument title properties =
      .object [("properties", Json.ofMembers properties), ("title", .string title),
        ("type", .string "object")] := by
  simp only [objectDocument, Json.ofMembers, Json.orderMembers, Json.insertMember,
    List.foldl_cons, List.foldl_nil, String.reduceLT, ↓reduceIte]

theorem ofJson_objectDocument (title : String) {properties : List (String × Json)}
    {schemas : List (String × JsonSchema)}
    (h : JsonSchema.ofMembers (Json.orderMembers properties) = .ok schemas) :
    ofJson (objectDocument title properties) = .ok (records schemas) := by
  have hproperties : propertiesOf [("properties", Json.ofMembers properties),
      ("title", .string title), ("type", .string "object")] = .ok schemas := by
    rw [Json.ofMembers, propertiesOf, if_pos rfl, h]
  rw [objectDocument_eq, ofJson, hproperties]
  rfl

theorem title_objectDocument (title : String) (properties : List (String × Json)) :
    FormDocument.title ⟨objectDocument title properties⟩ = title := by
  rw [FormDocument.title, objectDocument_eq]
  rfl

/-- A property has the last of the documents given for it. -/
theorem property?_objectDocument (title name : String) (properties : List (String × Json)) :
    FormDocument.property? ⟨objectDocument title properties⟩ name =
      properties.reverse.lookup name := by
  rw [FormDocument.property?, FormDocument.properties?, objectDocument_eq,
    ← Json.get?_ofMembers]
  rfl

theorem ofMembers_cons {name : String} {value : Json} {members : List (String × Json)}
    {schema : JsonSchema} {schemas : List (String × JsonSchema)} (h : ofJson value = .ok schema)
    (hmembers : JsonSchema.ofMembers members = .ok schemas) :
    JsonSchema.ofMembers ((name, value) :: members) = .ok ((name, schema) :: schemas) := by
  rw [JsonSchema.ofMembers, h, hmembers]
  rfl

theorem ofMembers_nil : JsonSchema.ofMembers [] = .ok [] := by
  rw [JsonSchema.ofMembers]


end OffchainTransfers

end ContractSchema
