import ContractSchema.Proofs.Json.Texts
import ContractSchema.Proofs.Schema.Parts
import ContractSchema.Proofs.Text.Script
import ContractSchema.Schema.Document
import ContractSchema.Schema.Source

/-!
# Trees of types in any arrangement

A type is shown as a table with its name and its value, and its JSON form is an object
with these two as members. Who writes such an object by hand may put the value first, may
say that there is no value by `null`, and may add members of his own. A tree which differs
from the document of a type only so is an **arrangement** of it
(`ContractSchema.Arranged`).

What holds of a document as soon as it holds of its parts holds of the documents of all types
(`ContractSchema.Document.Builds.document`).

Added members are passed over wherever they stand (`ContractSchema.relevant?_insert`), so that
the name and the value are found among them (`ContractSchema.Labels.namedValue`). The order of
these two matters in one place: what stands in a value which comes first is read only after it
has been put aside, and the tags of an enum are then no longer read as numbers. An arrangement
records whether that happens to an enum with tags and variants anywhere in the tree.
-/

namespace ContractSchema

open Json (Source)
open Json.Source (unitsOf digitsOf string?_unitsOf)

/-! ### Documents of types -/

attribute [simp] SchemaType.document Fields.document

/-- A table with a name under a key, and with a value if there is one. -/
def labelledTable (key name : String) : Option Document → Document
  | none => .record [(key, .text name)]
  | some value => .record [(key, .text name), ("value", value)]

theorem typeTable_eq (name : String) (value : Option Document) :
    typeTable name value = labelledTable "type" name value := by
  cases value with
  | none => rfl
  | some value => rfl

/-- The document of a name with something else. -/
def pairDocument (name : String) (document : Document) : Document :=
  .list [.text name, document]

theorem documentsOfNamed_eq_map (fields : List (String × SchemaType)) :
    documentsOfNamed fields = fields.map fun field => pairDocument field.1 field.2.document := by
  induction fields with
  | nil => rw [documentsOfNamed, List.map_nil]
  | cons field fields ih => rw [documentsOfNamed, ih, List.map_cons, pairDocument]

theorem documentsOfUnnamed_eq_map (fields : List SchemaType) :
    documentsOfUnnamed fields = fields.map SchemaType.document := by
  induction fields with
  | nil => rw [documentsOfUnnamed, List.map_nil]
  | cons field fields ih => rw [documentsOfUnnamed, ih, List.map_cons]

theorem documentsOfVariants_eq_map (variants : List (String × Fields)) :
    documentsOfVariants variants =
      variants.map fun variant => pairDocument variant.1 variant.2.document := by
  induction variants with
  | nil => rw [documentsOfVariants, List.map_nil]
  | cons variant variants ih => rw [documentsOfVariants, ih, List.map_cons, pairDocument]

theorem document_enum (variants : List (String × Fields)) :
    (SchemaType.enum variants).document = typeTable "enum" (some (.list
      (variants.map fun variant => pairDocument variant.1 variant.2.document))) := by
  rw [SchemaType.document, documentsOfVariants_eq_map]

theorem document_named (fields : List (String × SchemaType)) :
    (Fields.named fields).document = labelledTable "fields" "named" (some (.list
      (fields.map fun field => pairDocument field.1 field.2.document))) := by
  rw [Fields.document, documentsOfNamed_eq_map, labelledTable]

theorem document_unnamed (fields : List SchemaType) :
    (Fields.unnamed fields).document =
      labelledTable "fields" "unnamed" (some (.list (fields.map SchemaType.document))) := by
  rw [Fields.document, documentsOfUnnamed_eq_map, labelledTable]

theorem document_none : Fields.none.document = labelledTable "fields" "none" none := by
  rw [Fields.document, labelledTable]

theorem documentOfVariant_eq_map (variant : Option (String × Fields)) :
    documentOfVariant variant =
      variant.map fun variant => pairDocument variant.1 variant.2.document := by
  cases variant with
  | none => rw [documentOfVariant, Option.map_none]
  | some variant => rw [documentOfVariant, Option.map_some, pairDocument]

/-- The row of a table for a tag and its variant. -/
def taggedRow (entry : UInt8 × (String × Fields)) : Document.Key × Document :=
  (.tag entry.1, pairDocument entry.2.1 entry.2.2.document)

theorem document_taggedEnum (variants : UInt8 → Option (String × Fields)) :
    (SchemaType.taggedEnum variants).document =
      typeTable "taggedEnum" (some (.table ((tagEntries variants).map taggedRow))) := by
  have hvariants : (fun tag => documentOfVariant (variants tag)) = fun tag =>
      (variants tag).map fun variant => pairDocument variant.1 variant.2.document :=
    funext fun tag => documentOfVariant_eq_map (variants tag)
  rw [SchemaType.document, hvariants, tagEntries_map, List.map_map]
  rfl

/-- **A property which documents of types have** as soon as those they are made of have it. The
names in types are of the given sort; the labels of the tables are words. -/
structure Document.Builds (name : String → Prop) (p : Document → Prop) : Prop where
  /-- Names have it. -/
  text : ∀ s, name s → p (.text s)
  /-- Widths have it. -/
  size : ∀ size : SizeLength, p size.document
  /-- Numbers have it. -/
  number : ∀ n < UInt64.size, p (.ofNat n)
  /-- Lists have it if their items do. -/
  list : ∀ items, (∀ item ∈ items, p item) → p (.list items)
  /-- Tables with a label only have it. -/
  bare : ∀ key label, IsWord key → IsWord label → p (labelledTable key label none)
  /-- Tables with a label and a value have it if the value does. -/
  labelled : ∀ key label value, IsWord key → IsWord label → p value →
    p (labelledTable key label (some value))
  /-- Tables of tags have it if their values do. -/
  tags : ∀ entries : List (UInt8 × (String × Fields)),
    (∀ entry ∈ entries, p (taggedRow entry).2) → p (.table (entries.map taggedRow))

section Builds

variable {name : String → Prop} {p : Document → Prop}

theorem Document.Builds.pair (h : Document.Builds name p) {s : String} (hname : name s)
    {document : Document} (hp : p document) : p (pairDocument s document) :=
  h.list _ (List.forall_mem_cons.mpr ⟨h.text s hname, List.forall_mem_singleton.mpr hp⟩)

theorem Document.Builds.typeName (h : Document.Builds name p) (label : String)
    (hlabel : IsWord label) : p (typeTable label none) := by
  rw [typeTable_eq]
  exact h.bare "type" label (by decide) hlabel

theorem Document.Builds.typeValue (h : Document.Builds name p) (label : String)
    (hlabel : IsWord label) {value : Document} (hvalue : p value) :
    p (typeTable label (some value)) := by
  rw [typeTable_eq]
  exact h.labelled "type" label value (by decide) hlabel hvalue

theorem Document.Builds.fields (h : Document.Builds name p) {fields : Fields}
    (hnames : ∀ s ∈ fields.names, name s) (htypes : ∀ type ∈ fields.types, p type.document) :
    p fields.document := by
  cases fields with
  | named fields =>
    rw [document_named]
    refine h.labelled _ _ _ (by decide) (by decide) (h.list _ (List.forall_mem_map.mpr ?_))
    exact fun field hfield => h.pair (hnames _ (List.mem_map_of_mem hfield))
      (htypes _ (List.mem_map_of_mem hfield))
  | unnamed fields =>
    rw [document_unnamed]
    exact h.labelled _ _ _ (by decide) (by decide) (h.list _ (List.forall_mem_map.mpr htypes))
  | none =>
    rw [document_none]
    exact h.bare _ _ (by decide) (by decide)

/-- **What documents are made of decides**: a property of that kind holds of the documents of all
types with names of the given sort. -/
theorem Document.Builds.document (h : Document.Builds name p) {type : SchemaType}
    (hnames : type.Everywhere (SchemaType.NamedBy name)) : p type.document := by
  have hnumber : ∀ n : UInt32, p (.ofNat n.toNat) := fun n =>
    h.number _ (Nat.lt_trans n.toNat_lt (by decide))
  induction type using SchemaType.partInduction with
  | step type ih =>
    have hpart : ∀ part : SchemaType, part.PartOf type → p part.document := fun part hpart =>
      ih part hpart (hnames.part hpart)
    obtain ⟨hvariants, hfieldNames⟩ := hnames.here
    have hfields : ∀ fields : Fields, type.HasFields fields → p fields.document := fun fields hf =>
      h.fields (hfieldNames fields hf) fun part hin => hpart part (.field hf hin)
    cases type with
    | pair left right =>
      have hleft := hpart left (.left ..)
      have hright := hpart right (.right ..)
      rw [SchemaType.document]
      exact h.typeValue "pair" (by decide) (h.list _ (by simp [hleft, hright]))
    | list size item =>
      have hitem := hpart item (.listItem ..)
      rw [SchemaType.document]
      exact h.typeValue "list" (by decide) (h.list _ (by simp [h.size, hitem]))
    | set size item =>
      have hitem := hpart item (.setItem ..)
      rw [SchemaType.document]
      exact h.typeValue "set" (by decide) (h.list _ (by simp [h.size, hitem]))
    | map size key value =>
      have hkey := hpart key (.key ..)
      have hvalue := hpart value (.value ..)
      rw [SchemaType.document]
      exact h.typeValue "map" (by decide) (h.list _ (by simp [h.size, hkey, hvalue]))
    | array length item =>
      have hitem := hpart item (.arrayItem ..)
      rw [SchemaType.document]
      exact h.typeValue "array" (by decide) (h.list _ (by simp [hnumber, hitem]))
    | struct fields =>
      rw [SchemaType.document]
      exact h.typeValue "struct" (by decide) (hfields fields (.struct fields))
    | enum variants =>
      rw [document_enum]
      refine h.typeValue "enum" (by decide) (h.list _ (List.forall_mem_map.mpr ?_))
      exact fun variant hv => h.pair (hvariants _ (List.mem_map_of_mem hv)) (hfields variant.2 (.enum hv))
    | taggedEnum variants =>
      rw [document_taggedEnum]
      refine h.typeValue "taggedEnum" (by decide) (h.tags _ fun entry hentry => ?_)
      exact h.pair (hvariants _ (List.mem_map_of_mem (List.mem_map_of_mem hentry)))
        (hfields entry.2.2 (.taggedEnum (mem_tagEntries.mp hentry)))
    | string size =>
      rw [SchemaType.document]
      exact h.typeValue "string" (by decide) (h.size size)
    | contractName size =>
      rw [SchemaType.document]
      exact h.typeValue "contractName" (by decide) (h.size size)
    | receiveName size =>
      rw [SchemaType.document]
      exact h.typeValue "receiveName" (by decide) (h.size size)
    | byteList size =>
      rw [SchemaType.document]
      exact h.typeValue "byteList" (by decide) (h.size size)
    | uLeb128 maxBytes =>
      rw [SchemaType.document]
      exact h.typeValue "uLeb128" (by decide) (hnumber maxBytes)
    | iLeb128 maxBytes =>
      rw [SchemaType.document]
      exact h.typeValue "iLeb128" (by decide) (hnumber maxBytes)
    | byteArray length =>
      rw [SchemaType.document]
      exact h.typeValue "byteArray" (by decide) (hnumber length)
    | _ =>
      rw [SchemaType.document]
      exact h.typeName _ (by decide)

end Builds

/-! ### Arrangements -/

/-- **The members of an object with a name under a key**, and with a value if there is one.
The last argument says whether the value comes first. -/
inductive Labels (key name : String) :
    List (List Json.StringUnit × Source) → Option Source → Bool → Prop
  /-- There may be a name only. -/
  | bare : Labels key name [(unitsOf key, .string (unitsOf name))] none false
  /-- The value may come behind the name. -/
  | nameFirst (value : Source) :
      Labels key name [(unitsOf key, .string (unitsOf name)), (unitsOf "value", value)]
        (some value) false
  /-- The value may come before the name. -/
  | valueFirst (value : Source) :
      Labels key name [(unitsOf "value", value), (unitsOf key, .string (unitsOf name))]
        (some value) true
  /-- There may be any members with other keys anywhere. -/
  | insert (front : List (List Json.StringUnit × Source))
      {back : List (List Json.StringUnit × Source)} {value : Option Source} {first : Bool}
      (h : Labels key name (front ++ back) value first)
      {units : List Json.StringUnit} {other : String} (hunits : Source.string? units = some other)
      (hkey : other ≠ key) (hvalue : other ≠ "value") (member : Source) :
      Labels key name (front ++ (units, member) :: back) value first

mutual

/-- **A tree is an arrangement of a document.** The first argument says whether the tree stands
in a value that comes before its name; the last one, whether a table of tags with rows does so,
which is the only thing that gets lost. -/
inductive Arranged : Bool → Document → Source → Bool → Prop
  /-- Texts stay as they are. -/
  | text {aside : Bool} (s : String) : Arranged aside (.text s) (.string (unitsOf s)) false
  /-- So do numbers. -/
  | number {aside : Bool} (n : UInt64) :
      Arranged aside (.number (.natural n)) (.number ⟨false, digitsOf n.toNat, none, none⟩) false
  /-- The items of a list keep their order. -/
  | list {aside lost : Bool} {items : List Document} {sources : List Source}
      (h : ArrangedItems aside items sources lost) :
      Arranged aside (.list items) (.array sources) lost
  /-- The rows of a table of tags do, and they are lost if it is put aside. -/
  | tags {aside lost : Bool} {rows : List (Document.Key × Document)}
      {members : List (List Json.StringUnit × Source)}
      (h : ArrangedRows aside rows members lost) :
      Arranged aside (.table rows) (.object members) (aside && !rows.isEmpty || lost)
  /-- A name without a value may have one that is nothing. -/
  | bare {aside first : Bool} {key name : String} {value : Option Source}
      {members : List (List Json.StringUnit × Source)} (h : Labels key name members value first)
      (hvalue : isNothing value = true) :
      Arranged aside (.table [(.name key, .text name)]) (.object members) false
  /-- A name and a value may stand in either order. -/
  | labelled {aside first lost : Bool} {key name : String} {value : Document} {source : Source}
      {members : List (List Json.StringUnit × Source)}
      (h : Labels key name members (some source) first)
      (hvalue : Arranged (aside || first) value source lost) :
      Arranged aside (.table [(.name key, .text name), (.name "value", value)]) (.object members)
        lost

/-- Trees are arrangements of items, one by one. -/
inductive ArrangedItems : Bool → List Document → List Source → Bool → Prop
  /-- There are no items. -/
  | nil {aside : Bool} : ArrangedItems aside [] [] false
  /-- There is an item in front of others. -/
  | cons {aside lost lost' : Bool} {item : Document} {source : Source} {items : List Document}
      {sources : List Source} (h : Arranged aside item source lost)
      (hrest : ArrangedItems aside items sources lost') :
      ArrangedItems aside (item :: items) (source :: sources) (lost || lost')

/-- Members are arrangements of rows with tags, one by one. -/
inductive ArrangedRows :
    Bool → List (Document.Key × Document) → List (List Json.StringUnit × Source) → Bool → Prop
  /-- There are no rows. -/
  | nil {aside : Bool} : ArrangedRows aside [] [] false
  /-- There is a row in front of others. -/
  | cons {aside lost lost' : Bool} {row : Document} {source : Source}
      {rows : List (Document.Key × Document)} {members : List (List Json.StringUnit × Source)}
      (tag : UInt8) (h : Arranged aside row source lost)
      (hrest : ArrangedRows aside rows members lost') :
      ArrangedRows aside ((.tag tag, row) :: rows)
        ((unitsOf (toString tag.toNat), source) :: members) (lost || lost')

end

/-! ### Names and values -/

section Labels

variable {key name : String} {members : List (List Json.StringUnit × Source)}
  {value : Option Source} {first : Bool}

theorem relevant?_insert {units : List Json.StringUnit} {other : String}
    (hunits : Source.string? units = some other) (hkey : other ≠ key) (hvalue : other ≠ "value")
    (member : Source) (front back : List (List Json.StringUnit × Source)) :
    Labelled.relevant? key (front ++ (units, member) :: back) =
      Labelled.relevant? key (front ++ back) := by
  induction front with
  | nil => simp [Labelled.relevant?, hunits, if_neg hkey, if_neg hvalue]
  | cons entry front ih =>
    rw [List.cons_append, List.cons_append, Labelled.relevant?, Labelled.relevant?, ih]

/-- **The name and the value are found** among other members. -/
theorem Labels.ofSource? (h : Labels key name members value first) (hkey : key ≠ "value") :
    Labelled.ofSource? key (.object members) = some ⟨.string (unitsOf name), value, first⟩ := by
  induction h with
  | bare => simp [Labelled.ofSource?, Labelled.relevant?, string?_unitsOf]
  | nameFirst value =>
    simp [Labelled.ofSource?, Labelled.relevant?, string?_unitsOf, Ne.symm hkey]
  | valueFirst value =>
    simp [Labelled.ofSource?, Labelled.relevant?, string?_unitsOf, Ne.symm hkey]
  | insert front h hunits hother hvalue member ih =>
    -- what has been inserted is not even looked at
    rw [Labelled.ofSource?] at ih ⊢
    rw [relevant?_insert hunits hother hvalue, ih]

theorem Labels.exists_mem (h : Labels key name members value first) {source : Source}
    (hsource : source ∈ value) : ∃ units, (units, source) ∈ members := by
  induction h with
  | bare => cases hsource
  | nameFirst value =>
    cases hsource
    exact ⟨_, List.mem_cons_of_mem _ (List.mem_cons_self ..)⟩
  | valueFirst value =>
    cases hsource
    exact ⟨_, List.mem_cons_self ..⟩
  | @insert front back value first h units other hunits hkey hvalue member ih =>
    obtain ⟨found, hfound⟩ := ih hsource
    refine ⟨found, ?_⟩
    rw [List.mem_append] at hfound ⊢
    exact hfound.imp_right (List.mem_cons_of_mem _)

/-- A value that comes first can wait for its name. -/
theorem Labels.namedValue (h : Labels key name members value first) (hkey : key ≠ "value")
    {depth : Nat} (hvalues : ∀ member ∈ members, (member.2.value? depth).isSome) (aside : Bool) :
    NamedValue.ofSource? key aside depth (.object members) =
      some ⟨name, value, aside || first⟩ := by
  -- the value is one of the members, and these have values
  have hwait : Labelled.canWait depth ⟨.string (unitsOf name), value, first⟩ = true := by
    rcases value with _ | value
    · rfl
    · obtain ⟨units, hmem⟩ := h.exists_mem rfl
      exact hvalues _ hmem
  rw [NamedValue.ofSource?, h.ofSource? hkey]
  simp [wordOfSource?, string?_unitsOf, hwait]

end Labels

/-! ### The arrangements of tables -/

section Tables

variable {aside lost : Bool} {key name : String} {source : Source}

theorem Arranged.bare_inv (h : Arranged aside (labelledTable key name none) source lost) :
    ∃ members value first, source = .object members ∧ Labels key name members value first ∧
      isNothing value = true ∧ lost = false := by
  change Arranged aside (.table [(.name key, .text name)]) source lost at h
  cases h with
  | tags h => cases h
  | bare h hvalue => exact ⟨_, _, _, rfl, h, hvalue, rfl⟩

theorem Arranged.labelled_inv {value : Document}
    (h : Arranged aside (labelledTable key name (some value)) source lost) :
    ∃ members inner first, source = .object members ∧
      Labels key name members (some inner) first ∧ Arranged (aside || first) value inner lost := by
  change Arranged aside (.table [(.name key, .text name), (.name "value", value)]) source lost at h
  cases h with
  | tags h => cases h
  | labelled h hvalue => exact ⟨_, _, _, rfl, h, hvalue⟩

theorem Arranged.tags_inv {entries : List (UInt8 × (String × Fields))}
    (h : Arranged aside (.table (entries.map taggedRow)) source lost) :
    ∃ members lost', source = .object members ∧
      ArrangedRows aside (entries.map taggedRow) members lost' ∧
        lost = (aside && !(entries.map taggedRow).isEmpty || lost') := by
  -- the rows are no constructor; that none of their keys is a name is seen afterwards
  generalize hrows : entries.map taggedRow = rows at h ⊢
  cases h with
  | tags h => exact ⟨_, _, rfl, h, rfl⟩
  | _ => rcases entries with _ | ⟨entry, entries⟩ <;> simp [taggedRow] at hrows

theorem ArrangedRows.isEmpty_eq {rows : List (Document.Key × Document)}
    {members : List (List Json.StringUnit × Source)}
    (h : ArrangedRows aside rows members lost) : rows.isEmpty = members.isEmpty := by
  cases h <;> rfl

end Tables

end ContractSchema
