import ContractSchema.Proofs.Schema.TextForm

/-!
# How the text of a type is written

The text of a type is written in **scripts**: one for types, one for fields with names, one for
the fields of a variant and one for variants (`ContractSchema.typeScript` and its relatives). Parts
stand between brackets, with commas between them (`ContractSchema.enclosed`). Behind the word which
a type shows, the form which it shows is written (`ContractSchema.TextBody.write`), and this is its
text (`ContractSchema.SchemaType.Shows.text_eq`).
-/

namespace ContractSchema

/-! ### Scripts -/

/-- What stands between the things in a list. -/
def comma : List Char :=
  [',', ' ']

/-- The signs which may follow the text of a type. -/
def closers : List Char :=
  [',', ')', '>', ';', '}']

/-- What may follow the text of a type: nothing, or a sign that does not go on with it. -/
def Closes (rest : List Char) : Prop :=
  ∀ c ∈ rest.head?, c ∈ closers

/-- What may follow a variant: a comma, or the end of the enum. -/
def EndsVariant (rest : List Char) : Prop :=
  [','] <+: rest ∨ [' ', '}'] <+: rest

/-- Things between brackets, with commas between them. -/
def enclosed {α : Type} (script : Script α) (front back : List Char) (things : List α) :
    List Char :=
  front ++ ((script.separated comma (back <+: ·)).write things ++ back)

/-- The script of types. -/
def typeScript : Script SchemaType where
  write type := type.text.toList
  valid := SchemaType.Everywhere (SchemaType.NamedBy IsWord)
  follow := Closes
  same := SchemaType.Same

/-- The script of fields with names. -/
def namedScript : Script (String × SchemaType) where
  write field := field.1.toList ++ ([':', ' '] ++ typeScript.write field.2)
  valid field := IsWord field.1 ∧ typeScript.valid field.2
  follow := Closes
  same := SchemaType.NamedAlike

/-- The script of the fields of a variant, behind its name. -/
def fieldsScript : Script Fields where
  write
    | .named fields => enclosed namedScript [' ', '{'] ['}'] fields
    | .unnamed types => enclosed typeScript ['('] [')'] types
    | .none => []
  valid fields :=
    (∀ name ∈ fields.names, IsWord name) ∧ ∀ type ∈ fields.types, typeScript.valid type
  follow := EndsVariant
  same := Fields.Alike

/-- The script of variants, with or without tags. -/
def variantScript : Script ShownVariant where
  write
    | (none, name, fields) => name.toList ++ fieldsScript.write fields
    | (some tag, name, fields) =>
      (toString tag.toNat).toList ++
        ([' ', '=', '>', ' '] ++ (name.toList ++ fieldsScript.write fields))
  valid variant := IsWord variant.2.1 ∧ fieldsScript.valid variant.2.2
  follow := EndsVariant
  same := ShownVariant.Alike

namespace TextBody

/-- What is written behind the word of a type. -/
def write : TextBody → List Char
  | nothing => []
  | arguments first types =>
    '<' :: (first.toList ++ ((typeScript.rows comma (['>'] <+: ·)).write types ++ ['>']))
  | array item length =>
    '[' :: (typeScript.write item ++ ([';', ' '] ++ ((toString length.toNat).toList ++ [']'])))
  | tuple types => enclosed typeScript ['('] [')'] types
  | record fields => enclosed namedScript ['{'] ['}'] fields
  | choice variants => enclosed variantScript [' ', '{', ' '] [' ', '}'] variants

end TextBody

/-! ### What is written -/

/-- What is between commas is written as a list. -/
theorem toList_commaSeparated {α : Type} (script : Script α) (follow : List Char → Prop)
    {text : α → String} (h : ∀ a, (text a).toList = script.write a) (things : List α) :
    (commaSeparated (things.map text)).toList = (script.separated comma follow).write things := by
  have hmap : (things.map text).map String.toList = things.map script.write := by
    rw [List.map_map]
    exact List.map_congr_left fun a _ => h a
  rw [commaSeparated, String.toList_intercalate, hmap]
  cases things with
  | nil => rfl
  | cons a others =>
    rw [List.map_cons, intercalate_cons_eq, List.flatMap_map]
    rfl

theorem Fields.toList_text_unnamed (types : List SchemaType) :
    (Fields.unnamed types).text.toList = enclosed typeScript ['('] [')'] types := by
  have htypes := toList_commaSeparated typeScript ([')'] <+: ·) (fun _ => rfl) types
  rw [Fields.text, textsOfUnnamed_eq_map, String.toList_append, String.toList_append, htypes,
    List.append_assoc]
  rfl

theorem Fields.toList_text_named (fields : List (String × SchemaType)) :
    (Fields.named fields).text.toList = enclosed namedScript ['{'] ['}'] fields := by
  have hfield : ∀ field : String × SchemaType,
      (field.1 ++ ": " ++ field.2.text).toList = namedScript.write field := fun field => by
    simp [namedScript, typeScript]
  have hfields := toList_commaSeparated namedScript (['}'] <+: ·) hfield fields
  rw [Fields.text, textsOfNamed_eq_map, String.toList_append, String.toList_append, hfields,
    List.append_assoc]
  rfl

theorem toList_variantText (name : String) (fields : Fields) :
    (variantText name fields fields.text).toList = name.toList ++ fieldsScript.write fields := by
  cases fields with
  | named fields =>
    rw [variantText, String.toList_append, String.toList_append, Fields.toList_text_named,
      List.append_assoc]
    rfl
  | unnamed types =>
    rw [variantText, String.toList_append, Fields.toList_text_unnamed]
    rfl
  | none =>
    rw [variantText, String.toList_append]
    rfl

/-- The text of a variant, with its tag if it has one. -/
def ShownVariant.text : ShownVariant → String
  | (none, name, fields) => variantText name fields fields.text
  | (some tag, name, fields) => toString tag.toNat ++ " => " ++ variantText name fields fields.text

theorem ShownVariant.toList_text (variant : ShownVariant) :
    variant.text.toList = variantScript.write variant := by
  rcases variant with ⟨_ | tag, name, fields⟩
  · exact toList_variantText name fields
  · rw [ShownVariant.text, String.toList_append, String.toList_append, toList_variantText,
      List.append_assoc]
    rfl

theorem toList_enumText (variants : List ShownVariant) :
    (enumText (variants.map ShownVariant.text)).toList =
      "enum".toList ++ enclosed variantScript [' ', '{', ' '] [' ', '}'] variants := by
  have hvariants :=
    toList_commaSeparated variantScript ([' ', '}'] <+: ·) ShownVariant.toList_text variants
  rw [enumText, String.toList_append, String.toList_append, hvariants, List.append_assoc]
  rfl

namespace SchemaType

theorem text_plain : ∀ entry ∈ plainTypes, entry.2.text = entry.1 := by
  decide

theorem text_sized : ∀ entry ∈ sizedTypes, ∀ size : SizeLength,
    (entry.2 size).text.toList = entry.1.toList ++ '<' :: (size.text.toList ++ ['>']) := by
  simp [sizedTypes, text]

theorem text_counted : ∀ entry ∈ countedTypes, ∀ n : UInt32,
    (entry.2 n).text.toList = entry.1.toList ++ '<' :: ((toString n.toNat).toList ++ ['>']) := by
  simp [countedTypes, text]

theorem text_container : ∀ entry ∈ containerTypes, ∀ (size : SizeLength) (item : SchemaType),
    (entry.2 size item).text.toList = entry.1.toList ++
      '<' :: (size.text.toList ++ (comma ++ (item.text.toList ++ ['>']))) := by
  simp [containerTypes, text, comma]

/-- **The text of a type** is what it shows. -/
theorem Shows.text_eq {type : SchemaType} {word : String} {body : TextBody}
    (h : type.Shows word body) : type.text.toList = word.toList ++ body.write := by
  cases h with
  | plain hmem => rw [text_plain _ hmem, TextBody.write, List.append_nil]
  | sized hmem size =>
    rw [text_sized _ hmem]
    rfl
  | counted hmem n =>
    rw [text_counted _ hmem]
    rfl
  | container hmem size item =>
    rw [text_container _ hmem]
    simp [TextBody.write, Script.rows, typeScript]
  | map size key value => simp [text, TextBody.write, Script.rows, typeScript, comma]
  | array length item => simp [text, TextBody.write, typeScript]
  | unit => rfl
  | pair left right =>
    simp [text, TextBody.write, enclosed, Script.separated, typeScript, comma]
  | unnamed types => exact Fields.toList_text_unnamed types
  | named fields => exact Fields.toList_text_named fields
  | noFields => rfl
  | enum variants =>
    have hvariants : textsOfVariants variants =
        (variants.map fun variant => (none, variant)).map ShownVariant.text := by
      rw [textsOfVariants_eq_map, List.map_map]
      rfl
    rw [text, hvariants, toList_enumText]
    rfl
  | taggedEnum variants =>
    have hvariants : ∀ f : UInt8 × String → String,
        (∀ entry, f entry = toString entry.1.toNat ++ " => " ++ entry.2) →
          (tagEntries fun tag => textOfVariant (variants tag)).map f =
            ((tagEntries variants).map fun entry => (some entry.1, entry.2)).map
              ShownVariant.text := by
      intro f hf
      simp only [textOfVariant_eq_map, tagEntries_map, List.map_map]
      exact List.map_congr_left fun entry _ => hf _
    rw [text, hvariants _ fun _ => rfl, toList_enumText]
    rfl

end SchemaType

end ContractSchema
