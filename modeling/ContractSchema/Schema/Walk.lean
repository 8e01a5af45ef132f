import ContractSchema.Schema.Type

/-!
# Walking through a type

A walk starts at a type and goes from it to its parts, one step at a time. It stands
either at a type or at fields. A step that finds something moves there; a step that
finds nothing, or that makes no sense where the walk stands, stays.

* `ContractSchema.Place` is where a walk stands, `ContractSchema.Step` what it may do.
* `ContractSchema.Place.take` takes one step, `ContractSchema.walk` all of them.
-/

namespace ContractSchema

/-- Where a walk stands. -/
inductive Place
  /-- At a type. -/
  | type (target : SchemaType)
  /-- At fields. -/
  | fields (target : Fields)

/-- A step of a walk. -/
inductive Step
  /-- Names the variants of the enum. -/
  | variants
  /-- To the items of a list, a set or an array. -/
  | item
  /-- To a field of a struct. -/
  | field (name : String)
  /-- To the fields of a struct. -/
  | fields
  /-- To the fields of a variant of an enum. -/
  | variant (name : String)
  /-- To the fields of the variant with a tag. -/
  | tagged (tag : UInt8)
  /-- To the left half of a pair, or the keys of a map. -/
  | first
  /-- To the right half of a pair, or the values of a map. -/
  | second
  /-- From fields to the field with a name. -/
  | get (name : String)
  /-- From fields without names to the field at a position. -/
  | at (position : Nat)
  /-- Back to where the walk started. -/
  | root

/-- What a step finds. -/
inductive Finding
  /-- The step makes no sense here. -/
  | wrongStep
  /-- There is nothing. -/
  | nothing
  /-- Names, which are no place to go to. -/
  | names (names : List String)
  /-- A type. -/
  | type (target : SchemaType)
  /-- Fields. -/
  | fields (target : Fields)
  /-- The name and the fields of a variant. -/
  | variant (name : String) (target : Fields)

/-- A type that may have been found. -/
def Finding.ofType? : Option SchemaType → Finding
  | some target => .type target
  | none => .nothing

/-- Fields that may have been found. -/
def Finding.ofFields? : Option Fields → Finding
  | some target => .fields target
  | none => .nothing

/-- A type that should have been there. -/
def Finding.ofPart? : Option SchemaType → Finding
  | some target => .type target
  | none => .wrongStep

/-- The place a finding is at, if it is one. -/
def Finding.place? : Finding → Option Place
  | .wrongStep => none
  | .nothing => none
  | .names _ => none
  | .type target => some (.type target)
  | .fields target => some (.fields target)
  | .variant _ target => some (.fields target)

namespace Place

/-- What a step finds at a type. -/
def findAtType (root target : SchemaType) : Step → Finding
  | .variants => .names target.variantNames
  | .item => .ofType? target.item?
  | .field name => .ofType? (target.field? name)
  | .fields => .ofFields? target.fields?
  | .variant name => .ofFields? (target.variant? name)
  | .tagged tag =>
    match target.taggedVariant? tag with
    | some (name, found) => .variant name found
    | none => .nothing
  | .first => .ofPart? target.first?
  | .second => .ofPart? target.second?
  | .root => .type root
  | .get _ => .wrongStep
  | .at _ => .wrongStep

/-- What a step finds at fields. -/
def findAtFields (root : SchemaType) (target : Fields) : Step → Finding
  | .get name => .ofType? (target.get? name)
  | .at position =>
    match target with
    | .unnamed types => .ofType? types[position]?
    | .named _ => .wrongStep
    | .none => .wrongStep
  | .root => .type root
  | _ => .wrongStep

/-- **Takes a step**: what it finds, and where the walk stands then. -/
def take (root : SchemaType) (place : Place) (step : Step) : Finding × Place :=
  let finding :=
    match place with
    | .type target => findAtType root target step
    | .fields target => findAtFields root target step
  (finding, finding.place?.getD place)

end Place

/-- What the steps of a walk find, from a place on. -/
def walkFrom (root : SchemaType) : Place → List Step → List Finding
  | _, [] => []
  | place, step :: rest =>
    let (finding, next) := place.take root step
    finding :: walkFrom root next rest

/-- **A walk** that starts at a type. -/
def walk (root : SchemaType) (steps : List Step) : List Finding :=
  walkFrom root (.type root) steps

end ContractSchema
