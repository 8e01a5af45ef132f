import ContractSchema.Json.Basic

/-!
# JSON-Schema

A JSON-Schema is itself a JSON value that says which values it allows. It is read
once and then applied to values.

* `ContractSchema.JsonSchema` is a schema that has been read, `ContractSchema.JsonSchema.ofJson`
  reads it.
* `ContractSchema.JsonSchema.violations` are all the ways in which a value breaks a schema.

Of the keywords, `type`, `minimum`, `maximum`, `properties` and `items` restrict
values, each of them only values of the kind it speaks of. The keywords `title` and
`format` have to be strings, and all others are ignored. A schema that breaks the rules
for schemas is refused with a violation of the same form.
-/

namespace ContractSchema

namespace JsonSchema

/-! ### Kinds of values -/

/-- **The kinds of values** that `type` can ask for. -/
inductive ValueKind
  /-- Arrays. -/
  | array
  /-- Truth values. -/
  | boolean
  /-- Numbers without a fraction. -/
  | integer
  /-- The value `null`. -/
  | null
  /-- Numbers. -/
  | number
  /-- Objects. -/
  | object
  /-- Strings. -/
  | string
deriving DecidableEq, Repr

namespace ValueKind

/-- All kinds, in the order of their names. -/
def all : List ValueKind := [.array, .boolean, .integer, .null, .number, .object, .string]

/-- The name of a kind. -/
def name : ValueKind → String
  | .array => "array"
  | .boolean => "boolean"
  | .integer => "integer"
  | .null => "null"
  | .number => "number"
  | .object => "object"
  | .string => "string"

/-- The kind with a name. -/
def ofName? (name : String) : Option ValueKind :=
  all.find? fun kind => kind.name = name

/-- Whether a value is of a kind. -/
def admits : ValueKind → Json → Bool
  | .array, .array _ => true
  | .boolean, .bool _ => true
  | .integer, .number n => n.isIntegral
  | .null, .null => true
  | .number, .number _ => true
  | .object, .object _ => true
  | .string, .string _ => true
  | _, _ => false

end ValueKind

/-! ### Violations -/

/-- **A way in which a value breaks a schema.** -/
inductive Violation
  /-- The value is of none of the kinds. -/
  | wrongKind (value : Json) (kinds : List ValueKind)
  /-- The number is too small. -/
  | belowMinimum (value : Json) (minimum : Json.Number)
  /-- The number is too large. -/
  | aboveMaximum (value : Json) (maximum : Json.Number)
  /-- No value is allowed here. -/
  | notAllowed (value : Json)
  /-- The value has none of the forms of a `type` keyword. -/
  | noAlternative (value : Json)

/-- The text of a violation. -/
def Violation.message : Violation → String
  | .wrongKind value [kind] => value.compact ++ " is not of type " ++ quoted kind
  | .wrongKind value kinds =>
    value.compact ++ " is not of types " ++ String.intercalate ", " (kinds.map quoted)
  | .belowMinimum value minimum =>
    value.compact ++ " is less than the minimum of " ++ minimum.text
  | .aboveMaximum value maximum =>
    value.compact ++ " is greater than the maximum of " ++ maximum.text
  | .notAllowed value => "False schema does not allow " ++ value.compact
  | .noAlternative value =>
    value.compact ++ " is not valid under any of the schemas listed in the 'anyOf' keyword"
where
  /-- The name of a kind between quotes. -/
  quoted (kind : ValueKind) : String := "\"" ++ kind.name ++ "\""

end JsonSchema

/-! ### Schemas -/

/-- **A schema.** -/
inductive JsonSchema
  /-- Allows all values, or none. -/
  | constant (allowed : Bool)
  /-- Restricts values by keywords. -/
  | keywords (kinds : Option (List JsonSchema.ValueKind)) (minimum maximum : Option Json.Number)
      (properties : List (String × JsonSchema)) (items : Option JsonSchema)

namespace JsonSchema

/-! ### Reading schemas -/

/-- The kinds a `type` keyword asks for: one name, or a list of different names. -/
def readKinds (value : Json) : Except Violation (List ValueKind) :=
  let kinds? :=
    match value with
    | .string name => (ValueKind.ofName? name).map fun kind => [kind]
    | .array names => do
      let kinds ← names.mapM fun name : Json => name.string?.bind ValueKind.ofName?
      if kinds ≠ [] ∧ kinds.Nodup then some kinds else none
    | _ => none
  match kinds? with
  | some kinds => .ok (ValueKind.all.filter (· ∈ kinds))
  | none => .error (.noAlternative value)

/-- The kinds an object asks for, if it has the keyword. -/
def kindsOf (members : List (String × Json)) : Except Violation (Option (List ValueKind)) :=
  match members.lookup "type" with
  | none => .ok none
  | some value => (readKinds value).map some

/-- The bound a keyword sets, if it is there. -/
def boundOf (keyword : String) (members : List (String × Json)) :
    Except Violation (Option Json.Number) :=
  match members.lookup keyword with
  | none => .ok none
  | some (.number n) => .ok (some n)
  | some value => .error (.wrongKind value [.number])

/-- Checks that a keyword is a string, if it is there. -/
def checkString (keyword : String) (members : List (String × Json)) : Except Violation Unit :=
  match members.lookup keyword with
  | none => .ok ()
  | some (.string _) => .ok ()
  | some value => .error (.wrongKind value [.string])

mutual

/-- **Reads a schema.** -/
def ofJson : Json → Except Violation JsonSchema
  | .bool allowed => .ok (.constant allowed)
  | .object members => do
    let kinds ← kindsOf members
    let minimum ← boundOf "minimum" members
    let maximum ← boundOf "maximum" members
    checkString "title" members
    checkString "format" members
    let properties ← propertiesOf members
    let items ← itemsOf members
    return .keywords kinds minimum maximum properties items
  | .null => .error (.wrongKind .null [.boolean, .object])
  | .number n => .error (.wrongKind (.number n) [.boolean, .object])
  | .string s => .error (.wrongKind (.string s) [.boolean, .object])
  | .array items => .error (.wrongKind (.array items) [.boolean, .object])

/-- The schemas of the properties, if the keyword is there. -/
def propertiesOf : List (String × Json) → Except Violation (List (String × JsonSchema))
  | [] => .ok []
  | (keyword, .object properties) :: rest =>
    if keyword = "properties" then ofMembers properties else propertiesOf rest
  | (keyword, value) :: rest =>
    if keyword = "properties" then .error (.wrongKind value [.object]) else propertiesOf rest

/-- The schema of items, if the keyword is there. -/
def itemsOf : List (String × Json) → Except Violation (Option JsonSchema)
  | [] => .ok none
  | (keyword, value) :: rest =>
    if keyword = "items" then (ofJson value).map some else itemsOf rest

/-- Reads the schemas of properties. -/
def ofMembers : List (String × Json) → Except Violation (List (String × JsonSchema))
  | [] => .ok []
  | (name, value) :: rest => do
    let schema ← ofJson value
    let others ← ofMembers rest
    return (name, schema) :: others

end

/-! ### Applying schemas -/

/-- Violations of the keyword `type`. -/
def kindViolations : Option (List ValueKind) → Json → List Violation
  | none, _ => []
  | some kinds, value =>
    if kinds.any (·.admits value) then [] else [.wrongKind value kinds]

/-- Violations of the keyword `minimum`. -/
def minimumViolations : Option Json.Number → Json → List Violation
  | some minimum, .number n =>
    if n.less minimum then [.belowMinimum (.number n) minimum] else []
  | _, _ => []

/-- Violations of the keyword `maximum`. -/
def maximumViolations : Option Json.Number → Json → List Violation
  | some maximum, .number n =>
    if maximum.less n then [.aboveMaximum (.number n) maximum] else []
  | _, _ => []

mutual

/-- **The ways in which a value breaks a schema**: those of the value itself first, then
those of its members in the order of the properties, or those of its items. -/
def violations : JsonSchema → Json → List Violation
  | .constant true, _ => []
  | .constant false, value => [.notAllowed value]
  | .keywords kinds minimum maximum properties items, value =>
    kindViolations kinds value ++ minimumViolations minimum value ++
      maximumViolations maximum value ++ propertyViolations properties value ++
      itemViolations items value

/-- Violations in members. -/
def propertyViolations : List (String × JsonSchema) → Json → List Violation
  | [], _ => []
  | (name, schema) :: rest, value =>
    (match value.get? name with
      | some member => schema.violations member
      | none => []) ++ propertyViolations rest value

/-- Violations in items. -/
def itemViolations : Option JsonSchema → Json → List Violation
  | some schema, .array items => items.flatMap fun item => schema.violations item
  | some _, _ => []
  | none, _ => []

end

end JsonSchema

end ContractSchema
