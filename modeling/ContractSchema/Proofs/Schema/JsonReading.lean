import ContractSchema.Proofs.Schema.Arrangement

/-!
# Types are read from trees in any arrangement

What is read from an arrangement of the document of a type does not depend on what has been
added, and on the order of names and values only so far as something may be lost. A document
**yields** something to a reader (`ContractSchema.Document.Yields`) if this is read from every
arrangement in which nothing is lost, and nothing from the others.

The document of a type yields the type when those of its parts do, with one lemma for each
sort of types. The variants of an enum with tags are the members of an object, whose keys are
the tags in decimal (`ContractSchema.tagOfKey?_unitsOf`), and put in one after the other they
are the function on tags again (`ContractSchema.foldl_tagEntries`). So all types are read by
induction along their parts (`ContractSchema.SchemaType.yields`), and they are read from texts
(`ContractSchema.SchemaType.ofJson?_of_arranged`).
-/

namespace ContractSchema

open Json (Source)
open Json.Source (unitsOf string?_unitsOf)

/-! ### What is read -/

/-- What is read of something that may be lost. -/
def unlessLost {α : Type} (lost : Bool) (a : α) : Option α :=
  if lost then none else some a

section UnlessLost

variable {α β : Type}

theorem map_unlessLost (lost : Bool) (a : α) (f : α → β) :
    (unlessLost lost a).map f = unlessLost lost (f a) := by
  cases lost <;> rfl

theorem bind_some_unlessLost (lost : Bool) (a : α) (f : α → β) :
    ((unlessLost lost a).bind fun a => some (f a)) = unlessLost lost (f a) := by
  cases lost <;> rfl

/-- Something made of several parts is lost if one of them is. -/
theorem bind_unlessLost (lost lost' : Bool) (a : α) (f : α → β) :
    ((unlessLost lost a).bind fun a => unlessLost lost' (f a)) =
      unlessLost (lost || lost') (f a) := by
  cases lost <;> rfl

/-- What is read in a row is lost if one of it is. -/
theorem mapM_cons_unlessLost {read : β → Option α} {b : β} {bs : List β} {a : α} {as : List α}
    {lost lost' : Bool} (h : read b = unlessLost lost a) (hrest : bs.mapM read = unlessLost lost' as) :
    (b :: bs).mapM read = unlessLost (lost || lost') (a :: as) := by
  rw [List.mapM_cons, h, hrest]
  cases lost <;> cases lost' <;> rfl

end UnlessLost

/-- **A document yields something to a reader**: from each of its arrangements that has a value
this is read, unless it is lost. -/
def Document.Yields {α : Type} (document : Document) (read : Bool → Nat → Source → Option α)
    (a : α) : Prop :=
  ∀ ⦃aside depth source lost⦄, (source.value? depth).isSome → Arranged aside document source lost →
    read aside depth source = unlessLost lost a

/-! ### What tables give -/

/-- What reads the items of an array with the given number of levels left for them. -/
def readerAt (aside : Bool) (depth : Nat) : ItemReader where
  size := SizeLength.ofSource? aside depth
  type := SchemaType.ofSource? aside depth
  named := namedOfSource? aside depth
  variant := variantOfSource? aside depth

theorem itemReader?_succ (aside : Bool) (depth : Nat) :
    itemReader? aside (depth + 1) = some (readerAt aside depth) := by
  rw [itemReader?]
  rfl

theorem SizeLength.yields (size : SizeLength) :
    size.document.Yields SizeLength.ofSource? size := by
  intro aside depth source lost _ h
  rw [SizeLength.document] at h
  cases h
  rw [SizeLength.ofSource?, wordOfSource?, string?_unitsOf]
  cases size <;> rfl

theorem yields_u32 (n : UInt32) :
    (Document.ofNat n.toNat).Yields (fun _ _ => u32OfSource?) n := by
  intro aside depth source lost _ h
  have hsmall : n.toNat < UInt32.size := n.toNat_lt
  have hlarge : n.toNat < UInt64.size := Nat.lt_trans hsmall (by decide)
  rw [Document.ofNat] at h
  cases h
  change u32OfSource? _ = _
  rw [UInt64.toNat_ofNat_of_lt' hlarge, u32OfSource?, Json.Source.value?_digitsOf hlarge]
  dsimp only
  rw [UInt64.toNat_ofNat_of_lt' hlarge, if_pos hsmall, UInt32.ofNat_toNat]
  rfl

namespace SchemaType

/-- **A type is yielded** by its document. -/
def Yields (type : SchemaType) : Prop :=
  type.document.Yields SchemaType.ofSource? type

end SchemaType

/-- **Fields are yielded** by their document. -/
def Fields.Yields (fields : Fields) : Prop :=
  fields.document.Yields Fields.ofSource? fields

namespace SchemaType

/-- A type without a value is read by its name. -/
theorem yields_simple {type : SchemaType} {name : String}
    (hdocument : type.document = typeTable name none) (hname : simple? name = some type) :
    type.Yields := by
  intro aside depth source lost hvalue h
  rw [hdocument, typeTable_eq] at h
  obtain ⟨members, value, first, rfl, hlabels, hnothing, rfl⟩ := h.bare_inv
  obtain ⟨depth, rfl, hvalues⟩ := Json.Source.isSome_value?_object_iff.mp hvalue
  rw [ofSource?, hlabels.namedValue (by decide) fun member hm => (hvalues member hm).2]
  simp only [Option.bind_eq_bind, Option.bind_some, ofNamedValue?, hname, hnothing, if_true]
  rfl

/-- A type with a value is read by its name and from its value. -/
theorem yields_of_value {type : SchemaType} {name : String} {value : Document}
    (hdocument : type.document = typeTable name (some value))
    (h : value.Yields (fun aside depth source =>
      ofNamedValue? depth (Fields.ofSource? aside depth) (itemReader? aside depth)
        ⟨name, some source, aside⟩) type) :
    type.Yields := by
  intro aside depth source lost hvalue harranged
  rw [hdocument, typeTable_eq] at harranged
  obtain ⟨members, inner, first, rfl, hlabels, hinner⟩ := harranged.labelled_inv
  obtain ⟨depth, rfl, hvalues⟩ := Json.Source.isSome_value?_object_iff.mp hvalue
  obtain ⟨units, hmem⟩ := hlabels.exists_mem rfl
  rw [ofSource?, hlabels.namedValue (by decide) fun member hm => (hvalues member hm).2]
  -- the value is put aside if the object was, or if it comes first
  exact h (hvalues _ hmem).2 hinner

theorem yields_sized {make : SizeLength → SchemaType} {name : String} {size : SizeLength}
    (hdocument : (make size).document = typeTable name (some size.document))
    (hsimple : simple? name = none) (hname : sized? name = some make) :
    (make size).Yields := by
  refine yields_of_value hdocument fun aside depth source lost hvalue h => ?_
  simp only [ofNamedValue?, hsimple, hname, Option.bind_eq_bind, Option.bind_some,
    size.yields hvalue h, map_unlessLost]

theorem yields_counted {make : UInt32 → SchemaType} {name : String} {n : UInt32}
    (hdocument : (make n).document = typeTable name (some (.ofNat n.toNat)))
    (hsimple : simple? name = none) (hsized : sized? name = none)
    (hname : counted? name = some make) : (make n).Yields := by
  refine yields_of_value hdocument fun aside depth source lost hvalue h => ?_
  simp only [ofNamedValue?, hsimple, hsized, hname, Option.bind_eq_bind, Option.bind_some,
    yields_u32 n hvalue h, map_unlessLost]

/-- Types of the name consist of parts: the name is none of the others. -/
structure IsCompound (name : String) : Prop where
  /-- It is not the name of a type without parts. -/
  simple : simple? name = none
  /-- It is not the name of a type with the width of a length only. -/
  sized : sized? name = none
  /-- It is not the name of a type with a number only. -/
  counted : counted? name = none

theorem yields_struct {fields : Fields} (h : fields.Yields) : (struct fields).Yields := by
  have hname : IsCompound "struct" := ⟨rfl, rfl, rfl⟩
  have hdocument : (struct fields).document = typeTable "struct" (some fields.document) := by
    rw [document]
  refine yields_of_value hdocument fun aside depth source lost hvalue harranged => ?_
  simp only [ofNamedValue?, hname.simple, hname.sized, hname.counted, Option.bind_eq_bind,
    Option.bind_some, if_pos, h hvalue harranged, map_unlessLost]

/-- A type made of items is read from an array. -/
theorem yields_of_items {type : SchemaType} {name : String} {items : List Document}
    (hdocument : type.document = typeTable name (some (.list items)))
    (hname : IsCompound name) (hstruct : name ≠ "struct")
    (h : ∀ {aside depth sources lost}, (∀ source ∈ sources, (source.value? depth).isSome) →
      ArrangedItems aside items sources lost →
        ofItems? (readerAt aside depth) name sources = unlessLost lost type) :
    type.Yields := by
  refine yields_of_value hdocument fun aside depth source lost hvalue harranged => ?_
  cases harranged with
  | list hitems =>
    obtain ⟨depth, rfl, hvalues⟩ := Json.Source.isSome_value?_array_iff.mp hvalue
    simp only [ofNamedValue?, hname.simple, hname.sized, hname.counted, if_neg hstruct,
      itemReader?_succ, Option.bind_eq_bind, Option.bind_some]
    exact h hvalues hitems

/-- A type made of another one, with something in front of it, is read from both. -/
theorem yields_of_two {α : Type} {part : SchemaType} {name : String} {first : Document}
    {read : Bool → Nat → Source → Option α} {a : α} {make : α → SchemaType → SchemaType}
    (hdocument : (make a part).document = typeTable name (some (.list [first, part.document])))
    (hname : IsCompound name) (hstruct : name ≠ "struct") (hfirst : first.Yields read a)
    (hpart : part.Yields)
    (h : ∀ aside depth source source',
      ofItems? (readerAt aside depth) name [source, source'] =
        (read aside depth source).bind fun a =>
          (ofSource? aside depth source').bind fun part => some (make a part)) :
    (make a part).Yields := by
  refine yields_of_items hdocument hname hstruct fun {aside depth sources lost} hvalues hitems => ?_
  rcases hitems with _ | ⟨hone, _ | ⟨htwo, _ | _⟩⟩
  obtain ⟨hvone, hvalues⟩ := List.forall_mem_cons.mp hvalues
  have hvtwo := hvalues _ (List.mem_cons_self ..)
  rw [h, hfirst hvone hone, hpart hvtwo htwo]
  simp only [bind_some_unlessLost, bind_unlessLost, Bool.or_false]

theorem yields_pair {left right : SchemaType} (hleft : left.Yields) (hright : right.Yields) :
    (pair left right).Yields := by
  have hdocument : (pair left right).document =
      typeTable "pair" (some (.list [left.document, right.document])) := by rw [document]
  exact yields_of_two hdocument ⟨rfl, rfl, rfl⟩ (by decide) hleft hright fun _ _ _ _ => rfl

theorem yields_list {size : SizeLength} {item : SchemaType} (h : item.Yields) :
    (list size item).Yields := by
  have hdocument : (list size item).document =
      typeTable "list" (some (.list [size.document, item.document])) := by rw [document]
  exact yields_of_two hdocument ⟨rfl, rfl, rfl⟩ (by decide) size.yields h fun _ _ _ _ => rfl

theorem yields_set {size : SizeLength} {item : SchemaType} (h : item.Yields) :
    (set size item).Yields := by
  have hdocument : (set size item).document =
      typeTable "set" (some (.list [size.document, item.document])) := by rw [document]
  exact yields_of_two hdocument ⟨rfl, rfl, rfl⟩ (by decide) size.yields h fun _ _ _ _ => rfl

theorem yields_array {length : UInt32} {item : SchemaType} (h : item.Yields) :
    (array length item).Yields := by
  have hdocument : (array length item).document =
      typeTable "array" (some (.list [.ofNat length.toNat, item.document])) := by rw [document]
  exact yields_of_two hdocument ⟨rfl, rfl, rfl⟩ (by decide) (yields_u32 length) h
    fun _ _ _ _ => rfl

theorem yields_map {size : SizeLength} {key value : SchemaType} (hkey : key.Yields)
    (hvalue : value.Yields) : (map size key value).Yields := by
  have hdocument : (map size key value).document =
      typeTable "map" (some (.list [size.document, key.document, value.document])) := by
    rw [document]
  refine yields_of_items hdocument ⟨rfl, rfl, rfl⟩ (by decide) ?_
  intro aside depth sources lost hvalues hitems
  rcases hitems with _ | ⟨hone, _ | ⟨htwo, _ | ⟨hthree, _ | _⟩⟩⟩
  obtain ⟨hvone, hvalues⟩ := List.forall_mem_cons.mp hvalues
  obtain ⟨hvtwo, hvalues⟩ := List.forall_mem_cons.mp hvalues
  have hvthree := hvalues _ (List.mem_cons_self ..)
  have hread : ∀ source source' source'',
      ofItems? (readerAt aside depth) "map" [source, source', source''] =
        (SizeLength.ofSource? aside depth source).bind fun size =>
          (ofSource? aside depth source').bind fun key =>
            (ofSource? aside depth source'').bind fun value => some (map size key value) :=
    fun _ _ _ => rfl
  rw [hread, size.yields hvone hone, hkey hvtwo htwo, hvalue hvthree hthree]
  simp only [bind_some_unlessLost, bind_unlessLost, Bool.or_false]

end SchemaType

/-! ### Fields and variants -/

/-- A name with something else is read from an array of both. -/
theorem yields_pairDocument {α : Type} {name : String} {document : Document}
    {read : Bool → Nat → Source → Option α} {a : α} (h : document.Yields read a)
    {readPair : Bool → Nat → Source → Option (String × α)}
    (hread : ∀ aside depth source source',
      readPair aside (depth + 1) (.array [source, source']) =
        (textOfSource? source).bind fun name =>
          (read aside depth source').bind fun a => some (name, a)) :
    (pairDocument name document).Yields readPair (name, a) := by
  intro aside depth source lost hvalue harranged
  rw [pairDocument] at harranged
  cases harranged with
  | list hitems =>
    rcases hitems with _ | ⟨hname, _ | ⟨hdocument, _ | _⟩⟩
    cases hname
    obtain ⟨depth, rfl, hvalues⟩ := Json.Source.isSome_value?_array_iff.mp hvalue
    have hlast := hvalues _ (List.mem_cons_of_mem _ (List.mem_cons_self ..))
    rw [hread, textOfSource?, string?_unitsOf, Option.bind_some, h hlast hdocument,
      bind_some_unlessLost, Bool.false_or, Bool.or_false]

theorem yields_named {field : String × SchemaType} (h : field.2.Yields) :
    (pairDocument field.1 field.2.document).Yields namedOfSource? field := by
  refine yields_pairDocument h fun aside depth source source' => ?_
  rw [namedOfSource?]
  rfl

theorem yields_variant {variant : String × Fields} (h : variant.2.Yields) :
    (pairDocument variant.1 variant.2.document).Yields variantOfSource? variant := by
  refine yields_pairDocument h fun aside depth source source' => ?_
  rw [variantOfSource?]
  rfl

/-- **Items are read one by one**, and they are lost if one of them is. -/
theorem mapM_eq_unlessLost {α : Type} {read : Bool → Nat → Source → Option α}
    {document : α → Document} {parts : List α}
    (h : ∀ part ∈ parts, (document part).Yields read part) {aside : Bool} {depth : Nat}
    {sources : List Source} {lost : Bool}
    (hvalues : ∀ source ∈ sources, (source.value? depth).isSome)
    (harranged : ArrangedItems aside (parts.map document) sources lost) :
    sources.mapM (read aside depth) = unlessLost lost parts := by
  -- on the parts, since the trees are known only as arrangements of theirs
  induction parts generalizing sources lost with
  | nil =>
    cases harranged
    rfl
  | cons part parts ih =>
    rw [List.map_cons] at harranged
    cases harranged with
    | cons hfirst hrest =>
      obtain ⟨hpart, hparts⟩ := List.forall_mem_cons.mp h
      obtain ⟨hvalue, hvalues⟩ := List.forall_mem_cons.mp hvalues
      exact mapM_cons_unlessLost (hpart hvalue hfirst) (ih hparts hvalues hrest)

theorem yields_enum {variants : List (String × Fields)}
    (h : ∀ variant ∈ variants, variant.2.Yields) : (SchemaType.enum variants).Yields := by
  refine SchemaType.yields_of_items (document_enum variants) ⟨rfl, rfl, rfl⟩ (by decide) ?_
  intro aside depth sources lost hvalues hitems
  have hread : sources.mapM (readerAt aside depth).variant = unlessLost lost variants :=
    mapM_eq_unlessLost (fun variant hvariant => yields_variant (h variant hvariant)) hvalues hitems
  rw [SchemaType.ofItems?.eq_def, if_pos rfl, hread, map_unlessLost]

/-- Fields in a list are read from it. -/
theorem Fields.yields_of_items {fields : Fields} {name : String} {items : List Document}
    (hdocument : fields.document = labelledTable "fields" name (some (.list items)))
    (h : ∀ {aside depth sources lost}, (∀ source ∈ sources, (source.value? depth).isSome) →
      ArrangedItems aside items sources lost →
        Fields.ofNamedValue? (some (readerAt aside depth)) ⟨name, some (.array sources), aside⟩ =
          unlessLost lost fields) :
    fields.Yields := by
  intro aside depth source lost hvalue harranged
  rw [hdocument] at harranged
  obtain ⟨members, inner, first, rfl, hlabels, hinner⟩ := harranged.labelled_inv
  obtain ⟨depth, rfl, hvalues⟩ := Json.Source.isSome_value?_object_iff.mp hvalue
  obtain ⟨units, hmem⟩ := hlabels.exists_mem rfl
  cases hinner with
  | list hitems =>
    obtain ⟨depth, rfl, hitemValues⟩ := Json.Source.isSome_value?_array_iff.mp (hvalues _ hmem).2
    rw [Fields.ofSource?, hlabels.namedValue (by decide) fun member hm => (hvalues member hm).2,
      Option.bind_eq_bind, Option.bind_some, itemReader?_succ]
    exact h hitemValues hitems

/-- **Fields are yielded** when their types are. -/
theorem Fields.yields_of_types {fields : Fields} (h : ∀ type ∈ fields.types, type.Yields) :
    fields.Yields := by
  cases fields with
  | named fields =>
    refine yields_of_items (document_named fields) fun {aside depth sources lost} hvalues hitems => ?_
    have hread : sources.mapM (readerAt aside depth).named = unlessLost lost fields :=
      mapM_eq_unlessLost (fun field hfield => yields_named (h _ (List.mem_map_of_mem hfield)))
        hvalues hitems
    simp [Fields.ofNamedValue?, hread, map_unlessLost]
  | unnamed fields =>
    refine yields_of_items (document_unnamed fields)
      fun {aside depth sources lost} hvalues hitems => ?_
    have hread : sources.mapM (readerAt aside depth).type = unlessLost lost fields :=
      mapM_eq_unlessLost h hvalues hitems
    simp [Fields.ofNamedValue?, hread, map_unlessLost]
  | none =>
    intro aside depth source lost hvalue harranged
    rw [document_none] at harranged
    obtain ⟨members, value, first, rfl, hlabels, hnothing, rfl⟩ := harranged.bare_inv
    obtain ⟨depth, rfl, hvalues⟩ := Json.Source.isSome_value?_object_iff.mp hvalue
    rw [Fields.ofSource?, hlabels.namedValue (by decide) fun member hm => (hvalues member hm).2]
    simp only [Option.bind_eq_bind, Option.bind_some, Fields.ofNamedValue?, hnothing, if_true]
    rfl

/-! ### Enums with tags -/

section Tags

open Json.Source

theorem mapM_digitOfUnit? {characters : List Char} (h : ∀ c ∈ characters, isDigit c = true) :
    (characters.map unitOf).mapM digitOfUnit? = some (characters.map fun c => c.toNat - 48) := by
  induction characters with
  | nil => rfl
  | cons c characters ih =>
    obtain ⟨hc, hrest⟩ := List.forall_mem_cons.mp h
    rw [List.map_cons, List.mapM_cons, unitOf_of_isDigit hc, digitOfUnit?, if_pos hc, ih hrest]
    rfl

/-- **The key of a tag** is read as the tag. -/
theorem tagOfKey?_unitsOf (tag : UInt8) : tagOfKey? (unitsOf (toString tag.toNat)) = some tag := by
  have hread : (unitsOf (toString tag.toNat)).mapM digitOfUnit? = some (digitsOf tag.toNat) := by
    rw [unitsOf, Nat.toString_eq_repr, Nat.toList_repr]
    exact mapM_digitOfUnit? fun c => isDigit_of_mem_toDigits
  have hvalue : Json.Numeral.ofDigits (digitsOf tag.toNat) = tag.toNat := ofDigits_digitsOf _
  rw [tagOfKey?, hread, Option.bind_eq_bind, Option.bind_some]
  rcases hcases : digitsOf tag.toNat with _ | ⟨first, rest⟩
  · obtain ⟨c, front, -, hfront⟩ := exists_toDigits tag.toNat
    rw [digitsOf, hfront] at hcases
    cases hcases
  · -- a number that begins with a zero is zero
    have hzero : ¬(first = 0 ∧ rest ≠ []) := by
      rintro ⟨rfl, hrest⟩
      exact hrest (rest_of_digitsOf_eq hcases)
    rw [hcases] at hvalue
    simp only [if_neg hzero, hvalue, if_pos tag.toNat_lt, UInt8.ofNat_toNat]

end Tags

/-- **Members are read one by one**, and they are lost if one of them is. -/
theorem mapM_member?_eq_unlessLost {entries : List (UInt8 × (String × Fields))}
    {aside lost : Bool} {members : List (List Json.StringUnit × Source)}
    (h : ∀ entry ∈ entries, entry.2.2.Yields) {depth : Nat}
    (hvalues : ∀ member ∈ members, (member.2.value? depth).isSome)
    (harranged : ArrangedRows aside (entries.map taggedRow) members lost) :
    members.mapM (readerAt aside depth).member? = unlessLost lost entries := by
  induction entries generalizing members lost with
  | nil =>
    cases harranged
    rfl
  | cons entry entries ih =>
    rw [List.map_cons] at harranged
    cases harranged with
    | @cons _ lost lost' _ source _ members _ hfirst hrest =>
      obtain ⟨hentry, hentries⟩ := List.forall_mem_cons.mp h
      obtain ⟨hvalue, hvalues⟩ := List.forall_mem_cons.mp hvalues
      have hmember : (readerAt aside depth).member? (unitsOf (toString entry.1.toNat), source) =
          unlessLost lost entry := by
        have hvariant : (readerAt aside depth).variant source = unlessLost lost entry.2 :=
          yields_variant hentry hvalue hfirst
        rw [ItemReader.member?, tagOfKey?_unitsOf, hvariant]
        exact bind_some_unlessLost lost entry.2 (Prod.mk entry.1)
      exact mapM_cons_unlessLost hmember (ih hentries hvalues hrest)

/-- An enum with tags is read from an object, unless that is put aside and not empty. -/
theorem yields_taggedEnum {variants : UInt8 → Option (String × Fields)}
    (h : ∀ tag variant, variants tag = some variant → variant.2.Yields) :
    (SchemaType.taggedEnum variants).Yields := by
  refine SchemaType.yields_of_value (document_taggedEnum variants) ?_
  intro aside depth source lost hvalue harranged
  obtain ⟨members, lost', rfl, hrows, rfl⟩ := harranged.tags_inv
  obtain ⟨depth, rfl, hvalues⟩ := Json.Source.isSome_value?_object_iff.mp hvalue
  have hread : SchemaType.ofMembers? (readerAt aside depth) members =
      unlessLost lost' (.taggedEnum variants) := by
    rw [SchemaType.ofMembers?, mapM_member?_eq_unlessLost
      (fun entry hentry => h entry.1 entry.2 (mem_tagEntries.mp hentry))
      (fun member hm => (hvalues member hm).2) hrows]
    refine (bind_some_unlessLost lost' (tagEntries variants) _).trans ?_
    rw [foldl_tagEntries]
  have hcases : SchemaType.ofNamedValue? (depth + 1) (Fields.ofSource? aside (depth + 1))
      (itemReader? aside (depth + 1)) ⟨"taggedEnum", some (.object members), aside⟩ =
        if !aside || members.isEmpty then SchemaType.ofMembers? (readerAt aside depth) members
        else none := by
    rw [itemReader?_succ]
    rfl
  refine hcases.trans ?_
  -- what is put aside is lost unless it is empty
  rw [hread, hrows.isEmpty_eq]
  cases aside <;> cases members.isEmpty <;> rfl

/-! ### All types -/

/-- **Every type is yielded** by its document. -/
theorem SchemaType.yields (type : SchemaType) : type.Yields := by
  induction type using SchemaType.partInduction with
  | step type ih =>
    have hfields : ∀ fields : Fields, type.HasFields fields → fields.Yields := fun fields hf =>
      Fields.yields_of_types fun part hpart => ih part (.field hf hpart)
    cases type with
    | pair left right => exact yields_pair (ih left (.left ..)) (ih right (.right ..))
    | list size item => exact yields_list (ih item (.listItem ..))
    | set size item => exact yields_set (ih item (.setItem ..))
    | map size key value => exact yields_map (ih key (.key ..)) (ih value (.value ..))
    | array length item => exact yields_array (ih item (.arrayItem ..))
    | struct fields => exact yields_struct (hfields fields (.struct fields))
    | enum variants => exact yields_enum fun variant hv => hfields variant.2 (.enum hv)
    | taggedEnum variants =>
      exact yields_taggedEnum fun tag variant hv => hfields variant.2 (.taggedEnum hv)
    | string size => exact yields_sized (by rw [document]) rfl rfl
    | contractName size => exact yields_sized (by rw [document]) rfl rfl
    | receiveName size => exact yields_sized (by rw [document]) rfl rfl
    | byteList size => exact yields_sized (by rw [document]) rfl rfl
    | uLeb128 maxBytes => exact yields_counted (by rw [document]) rfl rfl rfl
    | iLeb128 maxBytes => exact yields_counted (by rw [document]) rfl rfl rfl
    | byteArray length => exact yields_counted (by rw [document]) rfl rfl rfl
    | _ => exact yields_simple (by rw [document]) rfl

/-! ### Texts -/

namespace SchemaType

/-- **A type is read from every text in which its document is arranged**, whatever has been
added and in whatever order names and values stand, unless a tagged enum with variants stands in
a value which comes before its name: then nothing is read. The text has to be that of a value
in which arrays and objects are not nested too deeply. -/
theorem ofJson?_of_arranged {type : SchemaType} {text : String} {source : Source} {lost : Bool}
    (htext : Source.ofText? text = some source) (hvalue : (source.value? Source.maxDepth).isSome)
    (h : Arranged false type.document source lost) :
    ofJson? text = if lost then none else some type := by
  rw [ofJson?, htext]
  exact type.yields hvalue h

/-- A pair with its value first and with a member added; and a tagged enum with its value
first. -/
theorem ofJson?_of_arranged_pair :
    ofJson? (Json.object [("x", .array [.ofNat 1]),
        ("value", .array [.object [("type", .string "u8")], .object [("type", .string "unit")]]),
        ("type", .string "pair")]).compact = some (.pair .u8 .unit) ∧
      ofJson? (Json.object [("value", .object [("0", .array [.string "A",
          .object [("fields", .string "none")]])]),
        ("type", .string "taggedEnum")]).compact = none := by
  have hname : ∀ key name : String, (Json.object [(key, .string name)]).ReadsAs
      (.object [(unitsOf key, .string (unitsOf name))]) := fun key name =>
    Json.readsAs_object (.cons ((Json.readsAs_string name).member key) .nil)
  constructor
  · have hnumbers := Json.readsAs_array (.cons (Json.readsAs_ofNat (n := 1) (by decide)) .nil)
    have hparts := Json.readsAs_array (.cons (hname "type" "u8") (.cons (hname "type" "unit") .nil))
    have hreads := Json.readsAs_object (.cons (hnumbers.member "x") (.cons (hparts.member "value")
      (.cons ((Json.readsAs_string "pair").member "type") .nil)))
    have hlabels : ∀ note value : Source, Labels "type" "pair" [(unitsOf "x", note),
        (unitsOf "value", value), (unitsOf "type", .string (unitsOf "pair"))] (some value) true :=
      fun note value =>
        .insert [] (.valueFirst value) (string?_unitsOf "x") (by decide) (by decide) note
    refine @ofJson?_of_arranged (pair .u8 .unit) _ _ false hreads.ofText?_compact rfl ?_
    rw [document]
    exact .labelled (hlabels ..) (.list (.cons (.bare .bare rfl) (.cons (.bare .bare rfl) .nil)))
  · have hvariant := Json.readsAs_array
      (.cons (Json.readsAs_string "A") (.cons (hname "fields" "none") .nil))
    have hvariants := Json.readsAs_object (.cons (hvariant.member "0") .nil)
    have hreads := Json.readsAs_object (.cons (hvariants.member "value")
      (.cons ((Json.readsAs_string "taggedEnum").member "type") .nil))
    refine @ofJson?_of_arranged (taggedEnum (setEntry 0 ("A", .none) noEntries)) _ _ true
      hreads.ofText?_compact rfl ?_
    rw [document_taggedEnum]
    exact .labelled (.valueFirst _)
      (.tags (.cons 0 (.list (.cons (.text "A") (.cons (.bare .bare rfl) .nil))) .nil))

end SchemaType

end ContractSchema
