import ContractSchema.Proofs.Schema.Parts
import ContractSchema.Schema.Text
import Mathlib.Data.Finset.Piecewise

/-!
# Types with the same text

A type may be **respelled** (`ContractSchema.SchemaType.Respelled`): the type with one value is a
struct of no positions, a pair is a struct of two, a struct of no names is one without fields, and
an enum of no variants is one of no tags. This may be done anywhere inside a type, that is, in a
place left open in another one (`ContractSchema.SchemaType.Hole`).

Types which are respelled into each other, in any number of steps back and forth, are taken for
the same (`ContractSchema.SchemaType.Same`). They have the same text
(`ContractSchema.SchemaType.Same.text_eq`), and what is made of the same parts is the same
(`ContractSchema.SchemaType.Same.inside`), also if many parts are exchanged at once
(`ContractSchema.SchemaType.Same.of_alike`).
-/

namespace ContractSchema

/-! ### Places in types -/

/-- **Fields with a place left open** for the type of one of them. -/
inductive Fields.Hole : (SchemaType → Fields) → Prop
  /-- The place of a field with a name. -/
  | named (before : List (String × SchemaType)) (name : String)
      (after : List (String × SchemaType)) :
      Hole fun type => .named (before ++ (name, type) :: after)
  /-- The place of a field without a name. -/
  | unnamed (before after : List SchemaType) : Hole fun type => .unnamed (before ++ type :: after)

namespace SchemaType

/-- **A type with a place left open** for fields. -/
inductive FieldsHole : (Fields → SchemaType) → Prop
  /-- The fields of a struct. -/
  | struct : FieldsHole .struct
  /-- The fields of a variant. -/
  | enum (before : List (String × Fields)) (name : String) (after : List (String × Fields)) :
      FieldsHole fun fields => .enum (before ++ (name, fields) :: after)
  /-- The fields of a variant with a tag. -/
  | taggedEnum (variants : UInt8 → Option (String × Fields)) (tag : UInt8) (name : String) :
      FieldsHole fun fields => .taggedEnum (setEntry tag (name, fields) variants)

/-- **A type with a place left open** for one of its parts. -/
inductive Hole : (SchemaType → SchemaType) → Prop
  /-- The left half of a pair. -/
  | left (right : SchemaType) : Hole fun left => .pair left right
  /-- The right half of a pair. -/
  | right (left : SchemaType) : Hole fun right => .pair left right
  /-- The items of a list. -/
  | listItem (size : SizeLength) : Hole fun item => .list size item
  /-- The items of a set. -/
  | setItem (size : SizeLength) : Hole fun item => .set size item
  /-- The keys of a map. -/
  | key (size : SizeLength) (value : SchemaType) : Hole fun key => .map size key value
  /-- The values of a map. -/
  | value (size : SizeLength) (key : SchemaType) : Hole fun value => .map size key value
  /-- The items of an array. -/
  | arrayItem (length : UInt32) : Hole fun item => .array length item
  /-- The type of a field. -/
  | field {outer : Fields → SchemaType} {inner : SchemaType → Fields} (houter : FieldsHole outer)
      (hinner : Fields.Hole inner) : Hole fun type => outer (inner type)

/-- **A type is respelled** as another, in one place. -/
inductive Respelled : SchemaType → SchemaType → Prop
  /-- The type with one value is a struct of no positions. -/
  | unit : Respelled .unit (.struct (.unnamed []))
  /-- A pair is a struct of two positions. -/
  | pair (left right : SchemaType) : Respelled (.pair left right) (.struct (.unnamed [left, right]))
  /-- A struct of no names is one without fields. -/
  | noNames : Respelled (.struct (.named [])) (.struct .none)
  /-- An enum of no variants is one of no tags. -/
  | noVariants : Respelled (.enum []) (.taggedEnum noEntries)
  /-- A part of a type may be respelled. -/
  | inside {around : SchemaType → SchemaType} {type type' : SchemaType} (hhole : Hole around)
      (h : Respelled type type') : Respelled (around type) (around type')

/-- **Types which are the same up to respelling.** -/
def Same : SchemaType → SchemaType → Prop :=
  Relation.EqvGen Respelled

/-! ### Parts may be exchanged -/

namespace Same

variable {type type' type'' : SchemaType}

theorem refl (type : SchemaType) : type.Same type :=
  Relation.EqvGen.refl type

theorem symm (h : type.Same type') : type'.Same type :=
  Relation.EqvGen.symm _ _ h

theorem trans (h : type.Same type') (h' : type'.Same type'') : type.Same type'' :=
  Relation.EqvGen.trans _ _ _ h h'

theorem of_respelled (h : Respelled type type') : type.Same type' :=
  Relation.EqvGen.rel _ _ h

/-- A part may be exchanged for the same. -/
theorem inside {around : SchemaType → SchemaType} (hhole : Hole around) (h : type.Same type') :
    (around type).Same (around type') := by
  induction h with
  | rel _ _ h => exact of_respelled (.inside hhole h)
  | refl type => exact refl _
  | symm _ _ _ ih => exact ih.symm
  | trans _ _ _ _ _ ih ih' => exact ih.trans ih'

/-- If items may be exchanged one by one, they may all be exchanged. -/
theorem of_forall₂ {α : Type} {R : α → α → Prop} (make : List α → SchemaType)
    (hone : ∀ before a b after, R a b →
      (make (before ++ a :: after)).Same (make (before ++ b :: after)))
    {items items' : List α} (h : List.Forall₂ R items items') :
    (make items).Same (make items') := by
  -- what is in front has been exchanged already
  suffices hgeneral : ∀ before, (make (before ++ items)).Same (make (before ++ items')) from
    hgeneral []
  induction h with
  | nil => exact fun before => refl _
  | @cons a b items items' hab _ ih =>
    intro before
    have hrest := ih (before ++ [b])
    rw [List.append_assoc, List.append_assoc] at hrest
    exact (hone before a b items hab).trans hrest

end Same

end SchemaType

/-- Fields with names which are the same up to respelling. -/
def SchemaType.NamedAlike (field field' : String × SchemaType) : Prop :=
  field.1 = field'.1 ∧ field.2.Same field'.2

/-- Fields which are the same up to respelling. -/
inductive Fields.Alike : Fields → Fields → Prop
  /-- Fields with names. -/
  | named {fields fields' : List (String × SchemaType)}
      (h : List.Forall₂ SchemaType.NamedAlike fields fields') :
      Alike (.named fields) (.named fields')
  /-- Fields without names. -/
  | unnamed {fields fields' : List SchemaType} (h : List.Forall₂ SchemaType.Same fields fields') :
      Alike (.unnamed fields) (.unnamed fields')
  /-- No fields. -/
  | none : Alike .none .none

namespace SchemaType

theorem Same.of_alike {outer : Fields → SchemaType} (houter : FieldsHole outer)
    {fields fields' : Fields} (h : fields.Alike fields') : (outer fields).Same (outer fields') := by
  cases h with
  | named h =>
    refine of_forall₂ (fun fields => outer (.named fields)) ?_ h
    rintro before ⟨name, type⟩ ⟨name', type'⟩ after ⟨hname, hsame⟩
    obtain rfl : name = name' := hname
    exact hsame.inside (.field houter (.named before name after))
  | unnamed h =>
    refine of_forall₂ (fun fields => outer (.unnamed fields)) ?_ h
    exact fun before type type' after hsame => hsame.inside (.field houter (.unnamed before after))
  | none => exact Same.refl _

/-- Variants which are the same up to respelling. -/
def VariantsAlike (variant variant' : String × Fields) : Prop :=
  variant.1 = variant'.1 ∧ variant.2.Alike variant'.2

theorem Same.enum {variants variants' : List (String × Fields)}
    (h : List.Forall₂ VariantsAlike variants variants') :
    (SchemaType.enum variants).Same (.enum variants') := by
  refine of_forall₂ SchemaType.enum ?_ h
  rintro before ⟨name, fields⟩ ⟨name', fields'⟩ after ⟨hname, halike⟩
  obtain rfl : name = name' := hname
  exact of_alike (.enum before name after) halike

/-- The variant of a tag may be exchanged. -/
theorem Same.update {variants : UInt8 → Option (String × Fields)} {tag : UInt8}
    {variant : Option (String × Fields)} (h : Option.Rel VariantsAlike (variants tag) variant) :
    (SchemaType.taggedEnum variants).Same (.taggedEnum (Function.update variants tag variant)) := by
  generalize hentry : variants tag = entry at h
  cases h with
  | none =>
    rw [← hentry, Function.update_eq_self]
    exact refl _
  | @some entry variant halike =>
    obtain ⟨name, fields⟩ := entry
    obtain ⟨name', fields'⟩ := variant
    obtain ⟨hname, hfields⟩ := halike
    obtain rfl : name = name' := hname
    have hset : ∀ entry, setEntry tag entry variants = Function.update variants tag (some entry) :=
      fun entry => funext fun t => by by_cases ht : t = tag <;> simp [setEntry, ht]
    have hsame := of_alike (.taggedEnum variants tag name) hfields
    rwa [hset, hset, ← hentry, Function.update_eq_self] at hsame

/-- Variants with tags may be exchanged, as long as the tags stay. -/
theorem Same.taggedEnum {variants variants' : UInt8 → Option (String × Fields)}
    (h : ∀ tag, Option.Rel VariantsAlike (variants tag) (variants' tag)) :
    (SchemaType.taggedEnum variants).Same (.taggedEnum variants') := by
  -- one tag after the other
  have hsome : ∀ tags : Finset UInt8, (SchemaType.taggedEnum variants).Same
      (.taggedEnum (tags.piecewise variants' variants)) := by
    intro tags
    induction tags using Finset.induction_on with
    | empty =>
      rw [Finset.piecewise_empty]
      exact refl _
    | insert tag tags hnew ih =>
      rw [Finset.piecewise_insert]
      refine ih.trans (update ?_)
      rw [Finset.piecewise_eq_of_notMem _ _ _ hnew]
      exact h tag
  have hall : ((Finset.range 256).image UInt8.ofNat).piecewise variants' variants = variants' := by
    funext tag
    have hmem : tag ∈ (Finset.range 256).image UInt8.ofNat :=
      Finset.mem_image.mpr ⟨tag.toNat, Finset.mem_range.mpr tag.toNat_lt, UInt8.ofNat_toNat⟩
    exact Finset.piecewise_eq_of_mem _ _ _ hmem
  rw [← hall]
  exact hsome _

end SchemaType

/-! ### Respelling keeps the text -/

theorem textsOfNamed_eq_map (fields : List (String × SchemaType)) :
    textsOfNamed fields = fields.map fun field => field.1 ++ ": " ++ field.2.text := by
  induction fields with
  | nil => rw [textsOfNamed, List.map_nil]
  | cons field fields ih => rw [textsOfNamed, ih, List.map_cons]

theorem textsOfUnnamed_eq_map (fields : List SchemaType) :
    textsOfUnnamed fields = fields.map SchemaType.text := by
  induction fields with
  | nil => rw [textsOfUnnamed, List.map_nil]
  | cons field fields ih => rw [textsOfUnnamed, ih, List.map_cons]

theorem textsOfVariants_eq_map (variants : List (String × Fields)) :
    textsOfVariants variants =
      variants.map fun variant => variantText variant.1 variant.2 variant.2.text := by
  induction variants with
  | nil => rw [textsOfVariants, List.map_nil]
  | cons variant variants ih => rw [textsOfVariants, ih, List.map_cons]

theorem textOfVariant_eq_map (variant : Option (String × Fields)) :
    textOfVariant variant =
      variant.map fun variant => variantText variant.1 variant.2 variant.2.text := by
  cases variant with
  | none => rw [textOfVariant, Option.map_none]
  | some variant => rw [textOfVariant, Option.map_some]

/-- Fields with the same text, in a struct as well as in a variant. -/
structure Fields.SameText (fields fields' : Fields) : Prop where
  /-- The structs have the same text. -/
  struct : (SchemaType.struct fields).text = (SchemaType.struct fields').text
  /-- So have the variants. -/
  variant : ∀ name, variantText name fields fields.text = variantText name fields' fields'.text

theorem Fields.Hole.sameText {inner : SchemaType → Fields} (hhole : Fields.Hole inner)
    {type type' : SchemaType} (h : type.text = type'.text) :
    (inner type).SameText (inner type') := by
  have htext : (inner type).text = (inner type').text := by
    cases hhole <;>
      simp only [Fields.text, textsOfNamed_eq_map, textsOfUnnamed_eq_map, List.map_append,
        List.map_cons, h]
  cases hhole with
  | named => exact ⟨htext, fun name => congrArg _ htext⟩
  | unnamed => exact ⟨htext, fun name => congrArg _ htext⟩

namespace SchemaType

theorem FieldsHole.text_eq {outer : Fields → SchemaType} (hhole : FieldsHole outer)
    {fields fields' : Fields} (h : fields.SameText fields') :
    (outer fields).text = (outer fields').text := by
  cases hhole with
  | struct => exact h.struct
  | enum before name after =>
    simp only [text, textsOfVariants_eq_map, List.map_append, List.map_cons, h.variant]
  | taggedEnum variants tag name =>
    have hvariants : (fun t => textOfVariant (setEntry tag (name, fields) variants t)) =
        fun t => textOfVariant (setEntry tag (name, fields') variants t) := by
      funext t
      by_cases ht : t = tag
      · simp only [setEntry, if_pos ht, textOfVariant, h.variant]
      · simp only [setEntry, if_neg ht]
    rw [text, text, hvariants]

theorem Hole.text_eq {around : SchemaType → SchemaType} (hhole : Hole around)
    {type type' : SchemaType} (h : type.text = type'.text) :
    (around type).text = (around type').text := by
  cases hhole with
  | field houter hinner => exact houter.text_eq (hinner.sameText h)
  | _ => simp only [text, h]

/-- **Types which are the same up to respelling have the same text.** -/
theorem Same.text_eq {type type' : SchemaType} (h : type.Same type') : type.text = type'.text := by
  have hstep : ∀ type type' : SchemaType, Respelled type type' → type.text = type'.text := by
    intro type type' h
    induction h with
    | unit => rfl
    | pair left right =>
      have hcomma : commaSeparated [left.text, right.text] = left.text ++ ", " ++ right.text := rfl
      simp only [text, Fields.text, textsOfUnnamed, hcomma, String.append_assoc]
    | noNames => rfl
    | noVariants =>
      simp [text, textsOfVariants, tagEntries, noEntries, textOfVariant]
    | inside hhole _ ih => exact hhole.text_eq ih
  induction h with
  | rel type type' h => exact hstep type type' h
  | refl type => rfl
  | symm _ _ _ ih => exact ih.symm
  | trans _ _ _ _ _ ih ih' => exact ih.trans ih'

end SchemaType

end ContractSchema
