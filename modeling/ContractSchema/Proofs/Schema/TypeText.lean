import ContractSchema.Proofs.Schema.TextScript

/-!
# Types are told by their text, up to respelling

Each kind of bracket in the text of a type is closed by a sign of its own, which no part begins
with. A list between brackets is therefore told from what follows it as soon as its things are
(`ContractSchema.ClosedBy.enclosed_inj`), and so are fields, variants and what stands behind the
word of a type (`ContractSchema.TextBody.clear`). By induction along their parts, types are clear
up to respelling, if all names in them are words (`ContractSchema.SchemaType.clear`).

Types whose names are identifiers therefore have the same text exactly if they are the same up to
respelling (`ContractSchema.SchemaType.text_eq_iff_same`).
-/

namespace ContractSchema

/-! ### Lists between brackets -/

section Enclosed

variable {α : Type} {script : Script α} {front back : List Char}

/-- **A list is closed** by something that may follow a thing and is no comma. -/
structure ClosedBy (script : Script α) (back : List Char) : Prop where
  /-- A comma may follow a thing. -/
  comma_follows : ∀ rest, script.follow (',' :: rest)
  /-- So may what closes the list. -/
  back_follows : ∀ rest, script.follow (back ++ rest)
  /-- It is no comma. -/
  back_ne : ∀ rest rest', back ++ rest ≠ ',' :: rest'

theorem ClosedBy.goesOn (h : ClosedBy script back) : script.GoesOn comma (back <+: ·) where
  mark_follows a _ rest := by
    rw [List.append_assoc]
    exact h.comma_follows _
  mark_not_behind a _ rest := by
    rintro ⟨tail, heq⟩
    rw [List.append_assoc] at heq
    exact h.back_ne tail _ heq
  follow_imp rest := by
    rintro ⟨tail, rfl⟩
    exact h.back_follows tail

/-- **A list between brackets is told from what follows**, if its things are clear and do not look
like the closing bracket. -/
theorem ClosedBy.enclosed_inj (h : ClosedBy script back)
    (hstart : ∀ a, script.valid a → ∀ rest, ¬back <+: script.write a ++ rest)
    {things others : List α} (hvalid : ∀ a ∈ things, script.valid a)
    (hclear : ∀ a ∈ things, script.Clear a) (hvalid' : ∀ a ∈ others, script.valid a)
    {rest rest' : List Char}
    (heq : enclosed script front back things ++ rest =
      enclosed script front back others ++ rest') :
    List.Forall₂ script.same things others ∧ rest = rest' := by
  simp only [enclosed, List.append_assoc] at heq
  have hthings := List.append_cancel_left heq
  obtain ⟨hsame, hback⟩ := Script.clear_separated h.goesOn hstart hvalid hclear others hvalid'
    (back ++ rest) (back ++ rest') ⟨rest, rfl⟩ ⟨rest', rfl⟩ hthings
  exact ⟨hsame, List.append_cancel_left hback⟩

end Enclosed

/-! ### What texts begin with -/

theorem closes_cons {c : Char} (hc : c ∈ closers) (rest : List Char) : Closes (c :: rest) := by
  rintro d ⟨⟩
  exact hc

theorem noWordChar_of_closes {rest : List Char} (h : Closes rest) : NoWordChar rest := by
  have hnone : closers.all (fun c => !isWordChar c) = true := by decide
  exact fun c hc => by simpa using List.all_eq_true.mp hnone c (h c hc)

/-- A word begins with none of the brackets and marks. -/
theorem not_isPrefix_of_isWord {s : String} (hs : IsWord s) {c : Char} (hc : isWordChar c = false)
    (marks rest : List Char) : ¬c :: marks <+: s.toList ++ rest := by
  rintro ⟨tail, heq⟩
  obtain ⟨d, chars, hd⟩ := List.exists_cons_of_ne_nil (String.toList_eq_nil_iff.not.mpr hs.1)
  have hword : isWordChar d = true := hs.2 d (hd ▸ List.mem_cons_self ..)
  rw [hd, List.cons_append, List.cons_append] at heq
  exact ne_of_isWordChar hword hc (List.cons.inj heq).1.symm

namespace TextBody

/-- The sign with which the form begins. -/
def bracket? : TextBody → Option Char
  | nothing => none
  | arguments _ _ => some '<'
  | array _ _ => some '['
  | tuple _ => some '('
  | record _ => some '{'
  | choice _ => some ' '

theorem bracket?_eq (body : TextBody) {rest : List Char} (h : Closes rest) :
    body.bracket? = (body.write ++ rest).head?.filter (· ∉ closers) := by
  cases body with
  | nothing =>
    rcases rest with _ | ⟨c, rest⟩
    · rfl
    · have hc : c ∈ closers := h c rfl
      change none = (some c).filter _
      rw [Option.filter_some, if_neg (by simp [hc])]
  | _ => rfl

theorem exists_write_eq {body : TextBody} {c : Char} (h : body.bracket? = some c) :
    ∃ tail, body.write = c :: tail := by
  cases body with
  | nothing => cases h
  | _ =>
    cases h
    exact ⟨_, rfl⟩

theorem noWordChar (body : TextBody) {rest : List Char} (h : Closes rest) :
    NoWordChar (body.write ++ rest) := by
  cases body with
  | nothing => exact noWordChar_of_closes h
  | _ => exact noWordChar_cons (by decide) _

end TextBody

namespace SchemaType.Shows

variable {type : SchemaType} {word : String} {body : TextBody}

/-- What begins with no word begins with a bracket. -/
theorem word_cases (h : type.Shows word body) :
    IsWord word ∨ word = "" ∧ ∃ c ∈ ['[', '(', '{'], body.bracket? = some c := by
  have hplain : ∀ entry ∈ plainTypes, IsWord entry.1 := by decide
  have hsized : ∀ entry ∈ sizedTypes.map (·.1), IsWord entry := by decide
  have hcounted : ∀ entry ∈ countedTypes.map (·.1), IsWord entry := by decide
  have hcontainer : ∀ entry ∈ containerTypes.map (·.1), IsWord entry := by decide
  cases h with
  | plain hmem => exact .inl (hplain _ hmem)
  | sized hmem => exact .inl (hsized _ (List.mem_map_of_mem hmem))
  | counted hmem => exact .inl (hcounted _ (List.mem_map_of_mem hmem))
  | container hmem => exact .inl (hcontainer _ (List.mem_map_of_mem hmem))
  | map => exact .inl (by decide)
  | enum => exact .inl (by decide)
  | taggedEnum => exact .inl (by decide)
  | array => exact .inr ⟨rfl, '[', by decide, rfl⟩
  | unit => exact .inr ⟨rfl, '(', by decide, rfl⟩
  | pair => exact .inr ⟨rfl, '(', by decide, rfl⟩
  | unnamed => exact .inr ⟨rfl, '(', by decide, rfl⟩
  | named => exact .inr ⟨rfl, '{', by decide, rfl⟩
  | noFields => exact .inr ⟨rfl, '{', by decide, rfl⟩

theorem isWordChar (h : type.Shows word body) : ∀ c ∈ word.toList, isWordChar c = true := by
  rcases h.word_cases with hword | ⟨rfl, -⟩
  · exact hword.2
  · exact fun c hc => absurd hc List.not_mem_nil

end SchemaType.Shows

/-- The text of a type does not begin with what closes a tuple. -/
theorem typeScript_start (type : SchemaType) (rest : List Char) :
    ¬[')'] <+: typeScript.write type ++ rest := by
  obtain ⟨word, body, hshows⟩ := type.exists_shows
  change ¬[')'] <+: type.text.toList ++ rest
  rw [hshows.text_eq, List.append_assoc]
  rcases hshows.word_cases with hword | ⟨rfl, c, hc, hbracket⟩
  · exact not_isPrefix_of_isWord hword (by decide) [] _
  · obtain ⟨tail, hwrite⟩ := TextBody.exists_write_eq hbracket
    rintro ⟨tail', heq⟩
    rw [hwrite] at heq
    obtain rfl : ')' = c := (List.cons.inj heq).1
    exact absurd hc (by decide)

theorem closedBy_of_closes {α : Type} {script : Script α} (h : script.follow = Closes) {c : Char}
    (hc : c ∈ closers) (hne : c ≠ ',') : ClosedBy script [c] where
  comma_follows rest := by
    rw [h]
    exact closes_cons (by decide) rest
  back_follows rest := by
    rw [h]
    exact closes_cons hc rest
  back_ne rest rest' heq := hne (List.cons.inj heq).1

theorem closedBy_variantScript : ClosedBy variantScript [' ', '}'] where
  comma_follows rest := .inl ⟨rest, rfl⟩
  back_follows rest := .inr ⟨rest, rfl⟩
  back_ne rest rest' heq := absurd (List.cons.inj heq).1 (by decide)

/-- The text of a variant does not begin with what closes an enum. -/
theorem variantScript_start (variant : ShownVariant) (h : variantScript.valid variant)
    (rest : List Char) : ¬[' ', '}'] <+: variantScript.write variant ++ rest := by
  obtain ⟨_ | tag, name, fields⟩ := variant <;> simp only [variantScript, List.append_assoc]
  · exact not_isPrefix_of_isWord h.1 (by decide) ['}'] _
  · exact not_isPrefix_of_isWord (isWord_toString _) (by decide) ['}'] _

/-! ### Everything is clear -/

theorem clear_named {field : String × SchemaType} (hname : IsWord field.1)
    (hclear : typeScript.Clear field.2) : namedScript.Clear field := by
  rintro other ⟨hname', htype'⟩ rest rest' hrest hrest' heq
  simp only [namedScript, List.append_assoc] at heq
  obtain ⟨hsame, hcolon⟩ : _ ∧ [':', ' '] ++ _ = [':', ' '] ++ _ :=
    word_inj hname hname' (noWordChar_cons (by decide) _) (noWordChar_cons (by decide) _) heq
  obtain ⟨htypes, hends⟩ :=
    hclear other.2 htype' rest rest' hrest hrest' (List.append_cancel_left hcolon)
  exact ⟨⟨hsame, htypes⟩, hends⟩

/-- A list of types is clear between brackets. -/
theorem enclosed_types_inj {types types' : List SchemaType}
    (hvalid : ∀ type ∈ types, typeScript.valid type)
    (hclear : ∀ type ∈ types, typeScript.Clear type)
    (hvalid' : ∀ type ∈ types', typeScript.valid type) {rest rest' : List Char}
    (heq : enclosed typeScript ['('] [')'] types ++ rest =
      enclosed typeScript ['('] [')'] types' ++ rest') :
    List.Forall₂ SchemaType.Same types types' ∧ rest = rest' :=
  (closedBy_of_closes rfl (by decide) (by decide)).enclosed_inj
    (fun type _ => typeScript_start type) hvalid hclear hvalid' heq

/-- So is a list of fields. -/
theorem enclosed_named_inj {fields fields' : List (String × SchemaType)}
    (hvalid : ∀ field ∈ fields, namedScript.valid field)
    (hclear : ∀ field ∈ fields, typeScript.Clear field.2)
    (hvalid' : ∀ field ∈ fields', namedScript.valid field) {front rest rest' : List Char}
    (heq : enclosed namedScript front ['}'] fields ++ rest =
      enclosed namedScript front ['}'] fields' ++ rest') :
    List.Forall₂ SchemaType.NamedAlike fields fields' ∧ rest = rest' := by
  refine (closedBy_of_closes rfl (by decide) (by decide)).enclosed_inj ?_ hvalid
    (fun field hfield => clear_named (hvalid field hfield).1 (hclear field hfield)) hvalid' heq
  intro field hfield rest
  simp only [namedScript, List.append_assoc]
  exact not_isPrefix_of_isWord hfield.1 (by decide) [] _

/-- The sign that tells fields of different kinds: the first one which is no blank. -/
def sign? : List Char → Option Char
  | ' ' :: c :: _ => some c
  | c :: _ => some c
  | [] => none

/-- The bracket with which fields begin, if there are any. -/
def Fields.bracket? : Fields → Option Char
  | .named _ => some '{'
  | .unnamed _ => some '('
  | .none => Option.none

theorem Fields.bracket?_eq (fields : Fields) {rest : List Char} (h : EndsVariant rest) :
    fields.bracket? = (sign? (fieldsScript.write fields ++ rest)).filter (· ∉ closers) := by
  cases fields with
  | none => rcases h with ⟨tail, rfl⟩ | ⟨tail, rfl⟩ <;> rfl
  | _ => rfl

theorem noWordChar_of_endsVariant {rest : List Char} (h : EndsVariant rest) : NoWordChar rest := by
  rcases h with ⟨tail, rfl⟩ | ⟨tail, rfl⟩ <;> exact noWordChar_cons (by decide) _

theorem noWordChar_fields (fields : Fields) {rest : List Char} (h : EndsVariant rest) :
    NoWordChar (fieldsScript.write fields ++ rest) := by
  cases fields with
  | none => exact noWordChar_of_endsVariant h
  | _ => exact noWordChar_cons (by decide) _

/-- **The fields of a variant are clear** if their types are. -/
theorem clear_fields {fields : Fields} (hvalid : fieldsScript.valid fields)
    (hclear : ∀ type ∈ fields.types, typeScript.Clear type) : fieldsScript.Clear fields := by
  intro fields' hvalid' rest rest' hrest hrest' heq
  -- fields of two kinds begin with different brackets, and what follows begins with neither
  have hbracket : fields.bracket? = fields'.bracket? := by
    rw [Fields.bracket?_eq fields hrest, Fields.bracket?_eq fields' hrest', heq]
  have hnamed : ∀ {fields : List (String × SchemaType)}, fieldsScript.valid (.named fields) →
      ∀ field ∈ fields, namedScript.valid field := fun h field hfield =>
    ⟨h.1 _ (List.mem_map_of_mem hfield), h.2 _ (List.mem_map_of_mem hfield)⟩
  cases fields with
  | named fields =>
    cases fields' with
    | named fields' =>
      obtain ⟨hsame, hends⟩ := enclosed_named_inj (hnamed hvalid)
        (fun field hfield => hclear _ (List.mem_map_of_mem hfield)) (hnamed hvalid') heq
      exact ⟨.named hsame, hends⟩
    | _ => cases hbracket
  | unnamed types =>
    cases fields' with
    | unnamed types' =>
      obtain ⟨hsame, hends⟩ := enclosed_types_inj hvalid.2 hclear hvalid'.2 heq
      exact ⟨.unnamed hsame, hends⟩
    | _ => cases hbracket
  | none =>
    cases fields' with
    | none => exact ⟨.none, heq⟩
    | _ => cases hbracket

/-- A name with fields is clear. -/
theorem clear_nameAndFields {name name' : String} {fields fields' : Fields} (hname : IsWord name)
    (hname' : IsWord name') (hfields : fieldsScript.Clear fields)
    (hvalid' : fieldsScript.valid fields') {rest rest' : List Char} (hrest : EndsVariant rest)
    (hrest' : EndsVariant rest')
    (heq : name.toList ++ (fieldsScript.write fields ++ rest) =
      name'.toList ++ (fieldsScript.write fields' ++ rest')) :
    SchemaType.VariantsAlike (name, fields) (name', fields') ∧ rest = rest' := by
  obtain ⟨hsame, htext⟩ := word_inj hname hname' (noWordChar_fields fields hrest)
    (noWordChar_fields fields' hrest') heq
  obtain ⟨halike, hends⟩ := hfields fields' hvalid' rest rest' hrest hrest' htext
  exact ⟨⟨hsame, halike⟩, hends⟩

/-- The arrow behind a tag is no beginning of fields. -/
theorem fields_ne_arrow (fields : Fields) {rest : List Char} (h : EndsVariant rest)
    (rest' : List Char) : fieldsScript.write fields ++ rest ≠ ' ' :: '=' :: rest' := by
  intro heq
  have hbracket : fields.bracket? = some '=' := by
    rw [Fields.bracket?_eq fields h, heq]
    rfl
  cases fields <;> cases hbracket

/-- **A variant is clear** if the types of its fields are. -/
theorem clear_variant {variant : ShownVariant} (hvalid : variantScript.valid variant)
    (hclear : ∀ type ∈ variant.2.2.types, typeScript.Clear type) : variantScript.Clear variant := by
  obtain ⟨tag, name, fields⟩ := variant
  rintro ⟨tag', name', fields'⟩ ⟨hname', hvalid'⟩ rest rest' hrest hrest' heq
  obtain ⟨hname, hvalid⟩ := hvalid
  have hfields := clear_fields hvalid hclear
  rcases tag with _ | tag <;> rcases tag' with _ | tag' <;>
    simp only [variantScript, List.append_assoc] at heq
  · obtain ⟨hsame, hends⟩ := clear_nameAndFields hname hname' hfields hvalid' hrest hrest' heq
    exact ⟨⟨rfl, hsame⟩, hends⟩
  -- digits may be the name of a variant; but behind a tag there is an arrow
  · have harrow := (word_inj hname (isWord_toString _) (noWordChar_fields fields hrest)
      (noWordChar_cons (by decide) _) heq).2
    exact absurd harrow (fields_ne_arrow fields hrest _)
  · have harrow := (word_inj (isWord_toString _) hname' (noWordChar_cons (by decide) _)
      (noWordChar_fields fields' hrest') heq).2
    exact absurd harrow.symm (fields_ne_arrow fields' hrest' _)
  · obtain ⟨htag, harrow⟩ : _ ∧ [' ', '=', '>', ' '] ++ _ = [' ', '=', '>', ' '] ++ _ :=
      word_inj (isWord_toString _) (isWord_toString _) (noWordChar_cons (by decide) _)
        (noWordChar_cons (by decide) _) heq
    obtain ⟨hsame, hends⟩ := clear_nameAndFields hname hname' hfields hvalid' hrest hrest'
      (List.append_cancel_left harrow)
    exact ⟨⟨congrArg some (UInt8.toNat_inj.mp (eq_of_toString_eq htag)), hsame⟩, hends⟩

namespace TextBody

/-- The types in a form. -/
def parts : TextBody → List SchemaType
  | nothing => []
  | arguments _ types => types
  | array item _ => [item]
  | tuple types => types
  | record fields => fields.map (·.2)
  | choice variants => variants.flatMap fun variant => variant.2.2.types

/-- The names in a form are words. -/
def Worded : TextBody → Prop
  | arguments first _ => IsWord first
  | record fields => ∀ field ∈ fields, IsWord field.1
  | choice variants =>
    ∀ variant ∈ variants, IsWord variant.2.1 ∧ ∀ name ∈ variant.2.2.names, IsWord name
  | _ => True

/-- The forms which are written. -/
structure Valid (body : TextBody) : Prop where
  /-- The names are words. -/
  worded : body.Worded
  /-- So are those in the types. -/
  parts : ∀ type ∈ body.parts, typeScript.valid type

/-- The script of forms. -/
def script : Script TextBody where
  write := TextBody.write
  valid := TextBody.Valid
  follow := Closes
  same := TextBody.Alike

theorem Valid.variants {variants : List ShownVariant} (h : (choice variants).Valid) :
    ∀ variant ∈ variants, variantScript.valid variant := fun variant hv =>
  ⟨(h.worded variant hv).1, (h.worded variant hv).2, fun type htype =>
    h.parts type (List.mem_flatMap.mpr ⟨variant, hv, htype⟩)⟩

theorem Valid.fields {fields : List (String × SchemaType)} (h : (record fields).Valid) :
    ∀ field ∈ fields, namedScript.valid field := fun field hfield =>
  ⟨h.worded field hfield, h.parts _ (List.mem_map_of_mem hfield)⟩

theorem clear_arguments {first first' : String} {types types' : List SchemaType}
    (hvalid : (arguments first types).Valid) (hclear : ∀ type ∈ types, typeScript.Clear type)
    (hvalid' : (arguments first' types').Valid) {rest rest' : List Char}
    (heq : (arguments first types).write ++ rest = (arguments first' types').write ++ rest') :
    (arguments first types).Alike (arguments first' types') ∧ rest = rest' := by
  have hclosed : ClosedBy typeScript ['>'] := closedBy_of_closes rfl (by decide) (by decide)
  have hnoword : ∀ (types : List SchemaType) (rest : List Char),
      NoWordChar ((typeScript.rows comma (['>'] <+: ·)).write types ++ (['>'] ++ rest)) := by
    rintro (_ | ⟨type, types⟩) rest
    · exact noWordChar_cons (by decide) _
    · exact noWordChar_cons (by decide) _
  simp only [write, List.cons_append, List.append_assoc] at heq
  obtain ⟨rfl, hrows⟩ := word_inj hvalid.worded hvalid'.worded (hnoword types rest)
    (hnoword types' rest') (List.cons.inj heq).2
  obtain ⟨hsame, hback⟩ := Script.clear_rows hclosed.goesOn hvalid.parts hclear types' hvalid'.parts
    (['>'] ++ rest) (['>'] ++ rest') ⟨rest, rfl⟩ ⟨rest', rfl⟩ hrows
  exact ⟨.arguments first hsame, List.append_cancel_left hback⟩

theorem clear_array {item item' : SchemaType} {length length' : UInt32}
    (hclear : typeScript.Clear item) (hvalid' : typeScript.valid item') {rest rest' : List Char}
    (heq : (array item length).write ++ rest = (array item' length').write ++ rest') :
    (array item length).Alike (array item' length') ∧ rest = rest' := by
  simp only [write, List.cons_append, List.append_assoc] at heq
  obtain ⟨hsame, hsemicolon⟩ := hclear item' hvalid' _ _ (closes_cons (by decide) _)
    (closes_cons (by decide) _) (List.cons.inj heq).2
  obtain ⟨hlength, hback⟩ := word_inj (isWord_toString _) (isWord_toString _)
    (noWordChar_cons (by decide) _) (noWordChar_cons (by decide) _)
    (List.cons.inj (List.cons.inj hsemicolon).2).2
  obtain rfl : length = length' := UInt32.toNat_inj.mp (eq_of_toString_eq hlength)
  exact ⟨.array hsame length, (List.cons.inj hback).2⟩

/-- **A form is clear** if its types are. -/
theorem clear {body : TextBody} (hvalid : body.Valid)
    (hclear : ∀ type ∈ body.parts, typeScript.Clear type) : script.Clear body := by
  intro body' hvalid' rest rest' hrest hrest' heq
  -- each form begins with a sign of its own, and what follows with none of these
  have hbracket : body.bracket? = body'.bracket? := by
    rw [bracket?_eq body hrest, bracket?_eq body' hrest']
    exact congrArg _ (congrArg _ heq)
  cases body with
  | nothing =>
    cases body' with
    | nothing => exact ⟨.nothing, heq⟩
    | _ => cases hbracket
  | arguments first types =>
    cases body' with
    | arguments first' types' => exact clear_arguments hvalid hclear hvalid' heq
    | _ => cases hbracket
  | array item length =>
    cases body' with
    | array item' length' =>
      have hitem := hclear item (List.mem_singleton_self item)
      exact clear_array hitem (hvalid'.parts item' (List.mem_singleton_self item')) heq
    | _ => cases hbracket
  | tuple types =>
    cases body' with
    | tuple types' =>
      obtain ⟨hsame, hends⟩ := enclosed_types_inj hvalid.parts hclear hvalid'.parts heq
      exact ⟨.tuple hsame, hends⟩
    | _ => cases hbracket
  | record fields =>
    cases body' with
    | record fields' =>
      obtain ⟨hsame, hends⟩ := enclosed_named_inj hvalid.fields
        (fun field hfield => hclear _ (List.mem_map_of_mem hfield)) hvalid'.fields heq
      exact ⟨.record hsame, hends⟩
    | _ => cases hbracket
  | choice variants =>
    cases body' with
    | choice variants' =>
      have hvariants : ∀ variant ∈ variants, variantScript.Clear variant := fun variant hv =>
        clear_variant (hvalid.variants variant hv) fun type htype =>
          hclear type (List.mem_flatMap.mpr ⟨variant, hv, htype⟩)
      obtain ⟨hsame, hends⟩ := closedBy_variantScript.enclosed_inj variantScript_start
        hvalid.variants hvariants hvalid'.variants heq
      exact ⟨.choice hsame, hends⟩
    | _ => cases hbracket

end TextBody

namespace SchemaType

/-- What a type shows are its parts. -/
theorem Shows.partOf {type : SchemaType} {word : String} {body : TextBody}
    (h : type.Shows word body) : ∀ part ∈ body.parts, part.PartOf type := by
  have hcontainer : ∀ make ∈ containerTypes.map (·.2), ∀ (size : SizeLength) (item : SchemaType),
      item.PartOf (make size item) := by
    simp only [containerTypes, List.map_cons, List.map_nil, List.forall_mem_cons]
    exact ⟨.listItem, .setItem, fun _ h => absurd h List.not_mem_nil⟩
  intro part hpart
  cases h with
  | container hmem size item =>
    obtain rfl := List.mem_singleton.mp hpart
    exact hcontainer _ (List.mem_map_of_mem hmem) size part
  | map size key value =>
    simp only [TextBody.parts, List.mem_cons, List.not_mem_nil, or_false] at hpart
    rcases hpart with rfl | rfl
    · exact .key size part value
    · exact .value size key part
  | array length item =>
    obtain rfl := List.mem_singleton.mp hpart
    exact .arrayItem length part
  | pair left right =>
    simp only [TextBody.parts, List.mem_cons, List.not_mem_nil, or_false] at hpart
    rcases hpart with rfl | rfl
    · exact .left part right
    · exact .right left part
  | unnamed types => exact .field (.struct (.unnamed types)) hpart
  | named fields => exact .field (.struct (.named fields)) hpart
  | enum variants =>
    obtain ⟨_, hvariant, htype⟩ := List.mem_flatMap.mp hpart
    obtain ⟨variant, hmem, rfl⟩ := List.mem_map.mp hvariant
    exact .field (.enum hmem) htype
  | taggedEnum variants =>
    obtain ⟨_, hvariant, htype⟩ := List.mem_flatMap.mp hpart
    obtain ⟨entry, hentry, rfl⟩ := List.mem_map.mp hvariant
    exact .field (.taggedEnum (mem_tagEntries.mp hentry)) htype
  | _ => exact absurd hpart List.not_mem_nil

/-- The names which a type shows are its names. -/
theorem Shows.worded {type : SchemaType} {word : String} {body : TextBody}
    (h : type.Shows word body) (hnames : type.NamedBy IsWord) : body.Worded := by
  have hsize : ∀ size : SizeLength, IsWord size.text := fun size => by cases size <;> decide
  cases h with
  | sized hmem size => exact hsize size
  | counted hmem n => exact isWord_toString n.toNat
  | container hmem size item => exact hsize size
  | map size key value => exact hsize size
  | named fields =>
    exact List.forall_mem_map.mp (hnames.2 _ (.struct _))
  | noFields => exact fun _ h => absurd h List.not_mem_nil
  | enum variants =>
    refine List.forall_mem_map.mpr fun variant hv => ⟨?_, hnames.2 variant.2 (.enum hv)⟩
    exact hnames.1 variant.1 (List.mem_map_of_mem hv)
  | taggedEnum variants =>
    refine List.forall_mem_map.mpr fun entry hentry => ⟨?_, ?_⟩
    · exact hnames.1 _ (List.mem_map_of_mem (List.mem_map_of_mem hentry))
    · exact hnames.2 _ (.taggedEnum (mem_tagEntries.mp hentry))
  | _ => trivial

theorem Shows.valid {type : SchemaType} {word : String} {body : TextBody}
    (h : type.Shows word body) (hnames : type.Everywhere (NamedBy IsWord)) : body.Valid where
  worded := h.worded hnames.here
  parts part hpart := hnames.part (h.partOf part hpart)

/-- **Types are clear**, if their names are words. -/
theorem clear {type : SchemaType} (hnames : type.Everywhere (NamedBy IsWord)) :
    typeScript.Clear type := by
  induction type using partInduction with
  | step type ih =>
    intro type' hnames' rest rest' hrest hrest' heq
    obtain ⟨word, body, hshows⟩ := type.exists_shows
    obtain ⟨word', body', hshows'⟩ := type'.exists_shows
    -- the words end where they are seen to end, and what comes behind them has clear parts
    have hparts : ∀ part ∈ body.parts, typeScript.Clear part := fun part hpart =>
      ih part (hshows.partOf part hpart) (hnames.part (hshows.partOf part hpart))
    change type.text.toList ++ rest = type'.text.toList ++ rest' at heq
    rw [hshows.text_eq, hshows'.text_eq, List.append_assoc, List.append_assoc] at heq
    obtain ⟨hword, hbody⟩ := append_inj_of_forall hshows.isWordChar hshows'.isWordChar
      (body.noWordChar hrest) (body'.noWordChar hrest') heq
    obtain rfl : word = word' := String.toList_inj.mp hword
    obtain ⟨halike, hends⟩ := TextBody.clear (hshows.valid hnames) hparts body'
      (hshows'.valid hnames') rest rest' hrest hrest' hbody
    exact ⟨hshows.same hshows' halike, hends⟩

/-- **Types with the same text are the same up to respelling**, if their names are words. -/
theorem same_of_text_eq {type type' : SchemaType} (hnames : type.Everywhere (NamedBy IsWord))
    (hnames' : type'.Everywhere (NamedBy IsWord)) (h : type.text = type'.text) :
    type.Same type' := by
  have hend : Closes [] := fun c hc => by cases hc
  have htext : type.text.toList ++ [] = type'.text.toList ++ [] := by rw [h]
  exact (clear hnames type' hnames' [] [] hend hend htext).1

/-- **The text of a type hides no more than respelling**: types whose names are identifiers have
the same text exactly if they are the same up to respelling. -/
theorem text_eq_iff_same {type type' : SchemaType} (h : type.Everywhere (NamedBy IsIdentifier))
    (h' : type'.Everywhere (NamedBy IsIdentifier)) : type.text = type'.text ↔ type.Same type' :=
  ⟨same_of_text_eq (h.namedBy_imp fun _ hs => hs.1) (h'.namedBy_imp fun _ hs => hs.1),
    Same.text_eq⟩

/-- A struct of a byte with something behind it. -/
def annotated (note : SchemaType) : SchemaType :=
  .struct (.named [("a", .u8), ("note", note)])

/-- An empty struct as a note may be spelled in two ways, and the type with one value in two
others. These are not the same. -/
theorem text_eq_iff_same_annotated :
    (∀ note ∈ [unit, struct (.unnamed []), struct (.named []), struct .none],
      (annotated note).Everywhere (NamedBy IsIdentifier)) ∧
        (annotated unit).Same (annotated (struct (.unnamed []))) ∧
          (annotated (struct (.named []))).Same (annotated (struct .none)) ∧
            ¬(annotated unit).Same (annotated (struct .none)) := by
  have hu8 : SchemaType.u8.Everywhere (NamedBy IsIdentifier) :=
    everywhere_of_depth_le_one (by decide) ⟨by decide, by rintro _ ⟨⟩⟩
  have hnotes : ∀ note ∈ [unit, struct (.unnamed []), struct (.named []), struct .none],
      note.Everywhere (NamedBy IsIdentifier) := by
    have hstruct : ∀ fields : Fields, fields.names = [] → (struct fields).depth ≤ 1 →
        (struct fields).Everywhere (NamedBy IsIdentifier) := fun fields hnames hdepth =>
      everywhere_of_depth_le_one hdepth (namedBy_struct_iff.mpr (by simp [hnames]))
    simp only [List.forall_mem_cons]
    exact ⟨everywhere_of_depth_le_one (by decide) ⟨by decide, by rintro _ ⟨⟩⟩,
      hstruct _ rfl (by decide), hstruct _ rfl (by decide), hstruct _ rfl (by decide),
      fun _ h => absurd h List.not_mem_nil⟩
  have hnames : ∀ note ∈ [unit, struct (.unnamed []), struct (.named []), struct .none],
      (annotated note).Everywhere (NamedBy IsIdentifier) := by
    intro note hnote
    have hkeys : ∀ s ∈ ["a", "note"], IsIdentifier s := by decide
    exact everywhere_struct_iff.mpr ⟨namedBy_struct_iff.mpr hkeys,
      by simp [Fields.types, hu8, hnotes note hnote]⟩
  have hunit := hnames unit (by simp)
  have hunnamed := hnames (struct (.unnamed [])) (by simp)
  have hnamed := hnames (struct (.named [])) (by simp)
  have hnone := hnames (struct .none) (by simp)
  refine ⟨hnames, (text_eq_iff_same hunit hunnamed).mp rfl, (text_eq_iff_same hnamed hnone).mp rfl,
    fun h => ?_⟩
  exact absurd ((text_eq_iff_same hunit hnone).mpr h) (by decide)

end SchemaType

end ContractSchema
