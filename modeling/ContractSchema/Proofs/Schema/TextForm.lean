import ContractSchema.Proofs.Schema.Respelling
import ContractSchema.Proofs.Text.Script

/-!
# What the text of a type shows

The text of a type begins with a word, unless it begins with a bracket. What comes then is one of
a few forms (`ContractSchema.TextBody`), in which the parts of the type stand: arguments between
angle brackets, a tuple, a record, a choice of variants, or nothing. A type **shows** a word and a
form (`ContractSchema.SchemaType.Shows`), and this is all that is written
(`ContractSchema.SchemaType.Shows.text_eq`).

A type is not told by what it shows, since some can be respelled; but types which show the same,
with the same parts up to respelling, are the same up to respelling
(`ContractSchema.SchemaType.Shows.same`).
-/

namespace ContractSchema

/-! ### Words -/

/-- The types which are shown by a word alone. -/
def plainTypes : List (String × SchemaType) :=
  [("bool", .bool), ("u8", .u8), ("u16", .u16), ("u32", .u32), ("u64", .u64), ("u128", .u128),
    ("i8", .i8), ("i16", .i16), ("i32", .i32), ("i64", .i64), ("i128", .i128),
    ("Amount", .amount), ("AccountAddress", .accountAddress),
    ("ContractAddress", .contractAddress), ("Timestamp", .timestamp), ("Duration", .duration)]

/-- The types which are shown by a word and the width of a length. -/
def sizedTypes : List (String × (SizeLength → SchemaType)) :=
  [("String", .string), ("ContractName", .contractName), ("ReceiveName", .receiveName),
    ("ByteList", .byteList)]

/-- The types which are shown by a word and a number. -/
def countedTypes : List (String × (UInt32 → SchemaType)) :=
  [("ULeb128", .uLeb128), ("ILeb128", .iLeb128), ("ByteArray", .byteArray)]

/-- The types which are shown by a word, the width of a length and the type of the items. -/
def containerTypes : List (String × (SizeLength → SchemaType → SchemaType)) :=
  [("List", .list), ("Set", .set)]

/-! ### Forms -/

/-- A variant as it is shown: its tag if it has one, its name and its fields. -/
abbrev ShownVariant : Type := Option UInt8 × (String × Fields)

/-- **What comes behind the word** in the text of a type. -/
inductive TextBody
  /-- Nothing. -/
  | nothing
  /-- A width or a number, and types, between angle brackets. -/
  | arguments (first : String) (types : List SchemaType)
  /-- A type and a number between square brackets. -/
  | array (item : SchemaType) (length : UInt32)
  /-- Types between parentheses. -/
  | tuple (types : List SchemaType)
  /-- Fields with names between braces. -/
  | record (fields : List (String × SchemaType))
  /-- Variants between braces. -/
  | choice (variants : List ShownVariant)

/-- **What a type shows**: the word with which its text begins, and what comes behind it. -/
inductive SchemaType.Shows : SchemaType → String → TextBody → Prop
  /-- Most types show their word. -/
  | plain {word : String} {type : SchemaType} (h : (word, type) ∈ plainTypes) :
      Shows type word .nothing
  /-- Some show the width of a length. -/
  | sized {word : String} {make : SizeLength → SchemaType} (h : (word, make) ∈ sizedTypes)
      (size : SizeLength) : Shows (make size) word (.arguments size.text [])
  /-- Some show a number. -/
  | counted {word : String} {make : UInt32 → SchemaType} (h : (word, make) ∈ countedTypes)
      (n : UInt32) : Shows (make n) word (.arguments (toString n.toNat) [])
  /-- Lists and sets show their items. -/
  | container {word : String} {make : SizeLength → SchemaType → SchemaType}
      (h : (word, make) ∈ containerTypes) (size : SizeLength) (item : SchemaType) :
      Shows (make size item) word (.arguments size.text [item])
  /-- Maps show their keys and values. -/
  | map (size : SizeLength) (key value : SchemaType) :
      Shows (.map size key value) "Map" (.arguments size.text [key, value])
  /-- Arrays show their items and their length. -/
  | array (length : UInt32) (item : SchemaType) : Shows (.array length item) "" (.array item length)
  /-- The type with one value shows an empty tuple. -/
  | unit : Shows .unit "" (.tuple [])
  /-- Pairs show a tuple of two. -/
  | pair (left right : SchemaType) : Shows (.pair left right) "" (.tuple [left, right])
  /-- Structs without names show a tuple. -/
  | unnamed (types : List SchemaType) : Shows (.struct (.unnamed types)) "" (.tuple types)
  /-- Structs with names show a record. -/
  | named (fields : List (String × SchemaType)) :
      Shows (.struct (.named fields)) "" (.record fields)
  /-- Structs without fields show an empty record. -/
  | noFields : Shows (.struct .none) "" (.record [])
  /-- Enums show their variants. -/
  | enum (variants : List (String × Fields)) :
      Shows (.enum variants) "enum" (.choice (variants.map fun variant => (none, variant)))
  /-- Enums with tags show them as well. -/
  | taggedEnum (variants : UInt8 → Option (String × Fields)) :
      Shows (.taggedEnum variants) "enum"
        (.choice ((tagEntries variants).map fun entry => (some entry.1, entry.2)))

namespace SchemaType

/-- **Every type shows something.** -/
theorem exists_shows (type : SchemaType) : ∃ word body, type.Shows word body := by
  have hplain : ∀ type ∈ plainTypes.map (·.2), ∃ word body, type.Shows word body :=
    List.forall_mem_map.mpr fun _ h => ⟨_, _, .plain h⟩
  have hsized : ∀ make ∈ sizedTypes.map (·.2), ∀ size, ∃ word body, (make size).Shows word body :=
    List.forall_mem_map.mpr fun _ h size => ⟨_, _, .sized h size⟩
  have hcounted : ∀ make ∈ countedTypes.map (·.2), ∀ n, ∃ word body, (make n).Shows word body :=
    List.forall_mem_map.mpr fun _ h n => ⟨_, _, .counted h n⟩
  have hcontainer : ∀ make ∈ containerTypes.map (·.2), ∀ size item, ∃ word body,
      (make size item).Shows word body :=
    List.forall_mem_map.mpr fun _ h size item => ⟨_, _, .container h size item⟩
  cases type with
  | unit => exact ⟨_, _, .unit⟩
  | pair left right => exact ⟨_, _, .pair left right⟩
  | list size item => exact hcontainer list (by simp [containerTypes]) size item
  | set size item => exact hcontainer set (by simp [containerTypes]) size item
  | map size key value => exact ⟨_, _, .map size key value⟩
  | array length item => exact ⟨_, _, .array length item⟩
  | struct fields =>
    cases fields with
    | named fields => exact ⟨_, _, .named fields⟩
    | unnamed types => exact ⟨_, _, .unnamed types⟩
    | none => exact ⟨_, _, .noFields⟩
  | enum variants => exact ⟨_, _, .enum variants⟩
  | taggedEnum variants => exact ⟨_, _, .taggedEnum variants⟩
  | string size => exact hsized string (by simp [sizedTypes]) size
  | contractName size => exact hsized contractName (by simp [sizedTypes]) size
  | receiveName size => exact hsized receiveName (by simp [sizedTypes]) size
  | byteList size => exact hsized byteList (by simp [sizedTypes]) size
  | uLeb128 maxBytes => exact hcounted uLeb128 (by simp [countedTypes]) maxBytes
  | iLeb128 maxBytes => exact hcounted iLeb128 (by simp [countedTypes]) maxBytes
  | byteArray length => exact hcounted byteArray (by simp [countedTypes]) length
  | _ => exact hplain _ (by simp [plainTypes])

end SchemaType

namespace SchemaType.Shows

variable {type type' : SchemaType} {word : String}

/-! ### Types are found from what they show -/

theorem eq_array {item : SchemaType} {length : UInt32} (h : type.Shows word (.array item length)) :
    type = .array length item := by
  cases h with
  | array length item => rfl

/-- What shows a tuple is the same as the struct without names. -/
theorem same_unnamed {types : List SchemaType} (h : type.Shows word (.tuple types)) :
    type.Same (.struct (.unnamed types)) := by
  cases h with
  | unit => exact .of_respelled .unit
  | pair left right => exact .of_respelled (.pair left right)
  | unnamed types => exact .refl _

/-- What shows a record is the same as the struct with names. -/
theorem same_named {fields : List (String × SchemaType)} (h : type.Shows word (.record fields)) :
    type.Same (.struct (.named fields)) := by
  cases h with
  | named fields => exact .refl _
  | noFields => exact (Same.of_respelled .noNames).symm

/-- Without types among the arguments, there is a width or a number. -/
theorem of_no_types {first : String} (h : type.Shows word (.arguments first [])) :
    (∃ make size, (word, make) ∈ sizedTypes ∧ first = size.text ∧ type = make size) ∨
      ∃ make n, (word, make) ∈ countedTypes ∧ first = toString n.toNat ∧ type = make n := by
  generalize hbody : TextBody.arguments first [] = body at h
  cases h with
  | sized hmem size =>
    cases hbody
    exact .inl ⟨_, size, hmem, rfl, rfl⟩
  | counted hmem n =>
    cases hbody
    exact .inr ⟨_, n, hmem, rfl, rfl⟩
  | _ => cases hbody

/-- With one type among the arguments, there is a width. -/
theorem of_one_type {first : String} {item : SchemaType}
    (h : type.Shows word (.arguments first [item])) :
    ∃ make size, (word, make) ∈ containerTypes ∧ first = size.text ∧ type = make size item := by
  cases h with
  | container hmem size item => exact ⟨_, size, hmem, rfl, rfl⟩

/-- With two types among the arguments, it is a map. -/
theorem of_two_types {first : String} {key value : SchemaType}
    (h : type.Shows word (.arguments first [key, value])) :
    ∃ size : SizeLength, first = size.text ∧ type = .map size key value := by
  cases h with
  | map size key value => exact ⟨size, rfl, rfl⟩

theorem of_choice {variants : List ShownVariant} (h : type.Shows word (.choice variants)) :
    (∃ plain, variants = plain.map (fun variant => (none, variant)) ∧ type = .enum plain) ∨
      ∃ tagged, variants = (tagEntries tagged).map (fun entry => (some entry.1, entry.2)) ∧
        type = .taggedEnum tagged := by
  cases h with
  | enum plain => exact .inl ⟨plain, rfl, rfl⟩
  | taggedEnum tagged => exact .inr ⟨tagged, rfl, rfl⟩

end SchemaType.Shows

/-! ### The same forms -/

/-- Variants which are shown alike: with the same tag, if any, and the same up to respelling. -/
def ShownVariant.Alike (variant variant' : ShownVariant) : Prop :=
  variant.1 = variant'.1 ∧ SchemaType.VariantsAlike variant.2 variant'.2

/-- **Forms which are the same**, with the same parts up to respelling. -/
inductive TextBody.Alike : TextBody → TextBody → Prop
  /-- Nothing. -/
  | nothing : Alike .nothing .nothing
  /-- Arguments. -/
  | arguments (first : String) {types types' : List SchemaType}
      (h : List.Forall₂ SchemaType.Same types types') :
      Alike (.arguments first types) (.arguments first types')
  /-- Arrays. -/
  | array {item item' : SchemaType} (h : item.Same item') (length : UInt32) :
      Alike (.array item length) (.array item' length)
  /-- Tuples. -/
  | tuple {types types' : List SchemaType} (h : List.Forall₂ SchemaType.Same types types') :
      Alike (.tuple types) (.tuple types')
  /-- Records. -/
  | record {fields fields' : List (String × SchemaType)}
      (h : List.Forall₂ SchemaType.NamedAlike fields fields') :
      Alike (.record fields) (.record fields')
  /-- Choices. -/
  | choice {variants variants' : List ShownVariant}
      (h : List.Forall₂ ShownVariant.Alike variants variants') :
      Alike (.choice variants) (.choice variants')

theorem SizeLength.text_injective {size size' : SizeLength} (h : size.text = size'.text) :
    size = size' := by
  cases size <;> cases size' <;> first | rfl | exact absurd h (by decide)

/-- Variants with tags and without are alike only if there are none. -/
theorem eq_of_mixed {plain : List (String × Fields)} {tagged : UInt8 → Option (String × Fields)}
    (h : List.Forall₂ (fun variant variant' : ShownVariant => variant.1 = variant'.1)
      (plain.map fun variant => (none, variant))
      ((tagEntries tagged).map fun entry => (some entry.1, entry.2))) :
    plain = [] ∧ tagged = noEntries := by
  have hentries := foldl_tagEntries tagged
  rcases hplain : plain with _ | ⟨variant, plain⟩ <;>
    rcases htagged : tagEntries tagged with _ | ⟨entry, entries⟩ <;>
      rw [hplain, htagged] at h
  · rw [htagged] at hentries
    exact ⟨rfl, hentries.symm⟩
  · cases h
  · cases h
  · rcases h with _ | ⟨htag, -⟩
    cases htag

namespace SchemaType.Shows

variable {type type' : SchemaType} {word first : String}

theorem eq_of_no_types (h : type.Shows word (.arguments first []))
    (h' : type'.Shows word (.arguments first [])) : type = type' := by
  have hdistinct : ∀ entry ∈ sizedTypes, ∀ entry' ∈ countedTypes, entry.1 ≠ entry'.1 := by
    simp [sizedTypes, countedTypes]
  rcases h.of_no_types with ⟨make, size, hmem, rfl, rfl⟩ | ⟨make, n, hmem, rfl, rfl⟩
  · rcases h'.of_no_types with ⟨make', size', hmem', hsize, rfl⟩ | ⟨make', n', hmem', -, -⟩
    · rw [eq_of_mem_of_nodup (by decide) hmem hmem', SizeLength.text_injective hsize]
    · exact absurd rfl (hdistinct _ hmem _ hmem')
  · rcases h'.of_no_types with ⟨make', size', hmem', -, -⟩ | ⟨make', n', hmem', hn, rfl⟩
    · exact absurd rfl (hdistinct _ hmem' _ hmem)
    · rw [eq_of_mem_of_nodup (by decide) hmem hmem', UInt32.toNat_inj.mp (eq_of_toString_eq hn)]

theorem same_of_one_type {item item' : SchemaType} (h : type.Shows word (.arguments first [item]))
    (h' : type'.Shows word (.arguments first [item'])) (hitem : item.Same item') :
    type.Same type' := by
  have hhole : ∀ make ∈ containerTypes.map (·.2), ∀ size, Hole (make size) := by
    simp only [containerTypes, List.map_cons, List.map_nil, List.forall_mem_cons]
    exact ⟨.listItem, .setItem, fun _ h => absurd h List.not_mem_nil⟩
  obtain ⟨make, size, hmem, rfl, rfl⟩ := h.of_one_type
  obtain ⟨make', size', hmem', hsize, rfl⟩ := h'.of_one_type
  rw [← eq_of_mem_of_nodup (by decide) hmem hmem', ← SizeLength.text_injective hsize]
  exact hitem.inside (hhole make (List.mem_map_of_mem hmem) size)

theorem same_of_two_types {key key' value value' : SchemaType}
    (h : type.Shows word (.arguments first [key, value]))
    (h' : type'.Shows word (.arguments first [key', value'])) (hkey : key.Same key')
    (hvalue : value.Same value') : type.Same type' := by
  obtain ⟨size, rfl, rfl⟩ := h.of_two_types
  obtain ⟨size', hsize, rfl⟩ := h'.of_two_types
  rw [← SizeLength.text_injective hsize]
  exact (hkey.inside (.key size value)).trans (hvalue.inside (.value size key'))

theorem same_of_choice {variants variants' : List ShownVariant}
    (h : type.Shows word (.choice variants)) (h' : type'.Shows word (.choice variants'))
    (hparts : List.Forall₂ ShownVariant.Alike variants variants') : type.Same type' := by
  rcases h.of_choice with ⟨plain, rfl, rfl⟩ | ⟨tagged, rfl, rfl⟩ <;>
    rcases h'.of_choice with ⟨plain', rfl, rfl⟩ | ⟨tagged', rfl, rfl⟩
  · rw [List.forall₂_map_left_iff, List.forall₂_map_right_iff] at hparts
    exact .enum (hparts.imp fun _ _ h => h.2)
  · obtain ⟨rfl, rfl⟩ := eq_of_mixed (hparts.imp fun _ _ h => h.1)
    exact .of_respelled .noVariants
  · obtain ⟨rfl, rfl⟩ := eq_of_mixed (hparts.flip.imp fun _ _ h => h.1.symm)
    exact (Same.of_respelled .noVariants).symm
  · rw [List.forall₂_map_left_iff, List.forall₂_map_right_iff] at hparts
    refine .taggedEnum fun tag => ?_
    rw [← lookup_tagEntries tagged, ← lookup_tagEntries tagged']
    exact rel_lookup (hparts.imp fun _ _ h => ⟨Option.some.inj h.1, h.2⟩) tag

/-- **Types which show the same are the same**, up to respelling. -/
theorem same {body body' : TextBody} (h : type.Shows word body) (h' : type'.Shows word body')
    (halike : body.Alike body') : type.Same type' := by
  cases halike with
  | nothing =>
    cases h with
    | plain hmem =>
      cases h' with
      | plain hmem' =>
        rw [eq_of_mem_of_nodup (by decide) hmem hmem']
        exact .refl _
  | arguments first hparts =>
    rcases hparts with _ | ⟨hone, _ | ⟨htwo, _ | ⟨hthree, hparts⟩⟩⟩
    · rw [h.eq_of_no_types h']
      exact .refl _
    · exact h.same_of_one_type h' hone
    · exact h.same_of_two_types h' hone htwo
    · cases h
  | array hitem length =>
    rw [h.eq_array, h'.eq_array]
    exact hitem.inside (.arrayItem length)
  | tuple hparts =>
    have hstruct := Same.of_alike .struct (.unnamed hparts)
    exact h.same_unnamed.trans (hstruct.trans h'.same_unnamed.symm)
  | record hparts =>
    have hstruct := Same.of_alike .struct (.named hparts)
    exact h.same_named.trans (hstruct.trans h'.same_named.symm)
  | choice hparts => exact same_of_choice h h' hparts

end SchemaType.Shows

end ContractSchema
