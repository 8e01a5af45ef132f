import ContractSchema.Proofs.Json.Atoms
import Mathlib.Data.List.Forall2

/-!
# Written texts are read

A JSON value has two texts, one without blanks and one on several lines. They differ in
nothing but blanks, and blanks are passed over. What is proved about both of them is
therefore proved once, for texts with any blanks between their parts: such a text
**spells** a tree if the tree is read from it whatever may follow
(`ContractSchema.Json.Source.Spells`). Strings, numbers, arrays and objects are spelled when
their parts are.

* `ContractSchema.Json.Source.read_separated` – values in a row are read one after the other;
  it holds for items of arrays and for members of objects.
* `ContractSchema.Json.ReadsAs` – both texts of a value spell a tree. The trees of arrays and
  objects are made of those of their parts (`ContractSchema.Json.readsAs_array`,
  `ContractSchema.Json.readsAs_object`).
-/

namespace ContractSchema.Json

namespace Source

variable {fuel : Nat} {input rest rest' : List Char}

/-! ### Blanks -/

/-- **Blanks** only. -/
def Blank (text : List Char) : Prop :=
  ∀ c ∈ text, isBlank c = true

theorem blank_nil : Blank [] := by
  simp [Blank]

theorem skipBlanks_append {blanks : List Char} (h : Blank blanks) (input : List Char) :
    skipBlanks (blanks ++ input) = skipBlanks input :=
  List.dropWhile_append_of_pos h

theorem skipBlanks_cons {c : Char} (h : isBlank c = false) (input : List Char) :
    skipBlanks (c :: input) = c :: input := by
  rw [skipBlanks, List.dropWhile_cons, h]
  rfl

theorem skipBlanks_of_head {c : Char} (hc : c ∈ input.head?) (h : isBlank c = false) :
    skipBlanks input = input := by
  obtain ⟨tail, rfl⟩ := List.head?_eq_some_iff.mp hc
  exact skipBlanks_cons h tail

theorem ends_cons {c : Char} (hc : c ∈ [',', ']', '}']) (rest : List Char) :
    Ends (c :: rest) := by
  rintro _ ⟨⟩
  exact Or.inr hc

theorem ends_append {blanks : List Char} (h : Blank blanks) {c : Char} (hc : c ∈ [',', ']', '}'])
    (rest : List Char) : Ends (blanks ++ c :: rest) := by
  rcases blanks with _ | ⟨b, blanks⟩
  · exact ends_cons hc rest
  · rintro _ ⟨⟩
    exact Or.inl (h b (List.mem_cons_self ..))

attribute [simp] readValue? readItems? readMembers?

/-- Blanks in front of a value are passed over. -/
theorem readValue?_blanks {blanks : List Char} (h : Blank blanks) (fuel : Nat) (input : List Char) :
    readValue? fuel (blanks ++ input) = readValue? fuel input := by
  cases fuel with
  | zero => rw [readValue?, readValue?]
  | succ fuel => rw [readValue?, readValue?, skipBlanks_append h]

/-! ### Steps of reading -/

theorem readValue?_quote (fuel : Nat) (input : List Char) :
    readValue? (fuel + 1) ('"' :: input) =
      (readUnits? input).map fun read => (.string read.1, read.2) := by
  rw [readValue?, skipBlanks_cons (by decide)]
  simp only
  rcases readUnits? input with _ | ⟨units, rest⟩ <;> rfl

theorem isBlank_of_isDigit {c : Char} (h : isDigit c = true) : isBlank c = false := by
  refine Bool.eq_false_iff.mpr fun hblank => ?_
  simp only [isBlank, Bool.or_eq_true, beq_iff_eq] at hblank
  rcases hblank with ((rfl | rfl) | rfl) | rfl <;> exact absurd h (by decide)

theorem readValue?_digit {c : Char} (hc : isDigit c = true) (fuel : Nat) (input : List Char) :
    readValue? (fuel + 1) (c :: input) =
      (readNumeral? (c :: input)).map fun read => (.number read.1, read.2) := by
  have hne : ∀ other : Char, isDigit other = false → c ≠ other := by
    rintro other hother rfl
    exact Bool.false_ne_true (hother.symm.trans hc)
  rw [readValue?, skipBlanks_cons (isBlank_of_isDigit hc)]
  split
  case h_7 => rcases readNumeral? (c :: input) with _ | ⟨numeral, rest⟩ <;> rfl
  all_goals
    next heq => exact absurd (List.cons.inj heq).1 (hne _ (by decide))

theorem readValue?_array_nil (h : skipBlanks input = ']' :: rest) (fuel : Nat) :
    readValue? (fuel + 1) ('[' :: input) = some (.array [], rest) := by
  rw [readValue?, skipBlanks_cons (by decide)]
  simp only [h]

theorem readValue?_array {items : List Source} (h : skipBlanks input = rest)
    (hhead : ']' ∉ rest.head?) (hitems : readItems? fuel rest = some (items, rest')) :
    readValue? (fuel + 1) ('[' :: input) = some (.array items, rest') := by
  rw [readValue?, skipBlanks_cons (by decide)]
  simp only [h]
  split
  · exact absurd rfl hhead
  · rw [hitems]
    rfl

theorem readValue?_object_nil (h : skipBlanks input = '}' :: rest) (fuel : Nat) :
    readValue? (fuel + 1) ('{' :: input) = some (.object [], rest) := by
  rw [readValue?, skipBlanks_cons (by decide)]
  simp only [h]

theorem readValue?_object {members : List (List StringUnit × Source)}
    (h : skipBlanks input = rest) (hhead : '}' ∉ rest.head?)
    (hmembers : readMembers? fuel rest = some (members, rest')) :
    readValue? (fuel + 1) ('{' :: input) = some (.object members, rest') := by
  rw [readValue?, skipBlanks_cons (by decide)]
  simp only [h]
  split
  · exact absurd rfl hhead
  · rw [hmembers]
    rfl

theorem readItems?_last {item : Source} (hitem : readValue? fuel input = some (item, rest))
    (h : skipBlanks rest = ']' :: rest') : readItems? (fuel + 1) input = some ([item], rest') := by
  rw [readItems?, hitem]
  simp only [Option.bind_eq_bind, Option.bind_some, h]

theorem readItems?_more {item : Source} {items : List Source} {next : List Char}
    (hitem : readValue? fuel input = some (item, rest)) (h : skipBlanks rest = ',' :: next)
    (hitems : readItems? fuel next = some (items, rest')) :
    readItems? (fuel + 1) input = some (item :: items, rest') := by
  rw [readItems?, hitem]
  simp only [Option.bind_eq_bind, Option.bind_some, h, hitems]
  rfl

/-- Blanks in front of items are passed over. -/
theorem readItems?_blanks {blanks : List Char} (h : Blank blanks) (fuel : Nat)
    (input : List Char) : readItems? fuel (blanks ++ input) = readItems? fuel input := by
  cases fuel with
  | zero => rw [readItems?, readItems?]
  | succ fuel => rw [readItems?, readItems?, readValue?_blanks h]

theorem readMembers?_last {key : String} {value : Source}
    (hvalue : readValue? fuel input = some (value, rest)) (h : skipBlanks rest = '}' :: rest') :
    readMembers? (fuel + 1) (quote key ++ ':' :: input) = some ([(unitsOf key, value)], rest') := by
  rw [quote, List.cons_append, List.cons_append, List.append_assoc, List.singleton_append,
    readMembers?, skipBlanks_cons (by decide)]
  simp only [readUnits?_quoted, Option.bind_eq_bind, Option.bind_some]
  rw [skipBlanks_cons (by decide)]
  simp only [hvalue, Option.bind_some, h]

theorem readMembers?_more {key : String} {value : Source}
    {members : List (List StringUnit × Source)} {next : List Char}
    (hvalue : readValue? fuel input = some (value, rest)) (h : skipBlanks rest = ',' :: next)
    (hmembers : readMembers? fuel next = some (members, rest')) :
    readMembers? (fuel + 1) (quote key ++ ':' :: input) =
      some ((unitsOf key, value) :: members, rest') := by
  rw [quote, List.cons_append, List.cons_append, List.append_assoc, List.singleton_append,
    readMembers?, skipBlanks_cons (by decide)]
  simp only [readUnits?_quoted, Option.bind_eq_bind, Option.bind_some]
  rw [skipBlanks_cons (by decide)]
  simp only [hvalue, Option.bind_some, h, hmembers]
  rfl

theorem readMembers?_blanks {blanks : List Char} (h : Blank blanks) (fuel : Nat)
    (input : List Char) : readMembers? fuel (blanks ++ input) = readMembers? fuel input := by
  cases fuel with
  | zero => rw [readMembers?, readMembers?]
  | succ fuel => rw [readMembers?, readMembers?, skipBlanks_append h]

/-! ### Spelled values -/

/-- **A text spells a tree**: the tree is read from it, whatever may follow the value. -/
structure Spells (text : List Char) (source : Source) : Prop where
  /-- The text does not begin with a blank, nor does it close an array. -/
  head : ∃ c ∈ text.head?, isBlank c = false ∧ c ≠ ']'
  /-- The tree is read from the text. -/
  read : ∀ fuel rest, Ends rest → 2 * text.length ≤ fuel →
    readValue? fuel (text ++ rest) = some (source, rest)

/-- A value is read behind blanks too. -/
theorem Spells.read_behind {text gap : List Char} {source : Source} (h : Spells text source)
    (hgap : Blank gap) (hrest : Ends rest) (hfuel : 2 * text.length ≤ fuel) :
    readValue? fuel (gap ++ (text ++ rest)) = some (source, rest) := by
  rw [readValue?_blanks hgap]
  exact h.read fuel rest hrest hfuel

/-- **A text between quotes spells a string.** -/
theorem spells_quote (text : String) : Spells (quote text) (.string (unitsOf text)) where
  head := ⟨'"', rfl, by decide, by decide⟩
  read := by
    intro fuel rest _ hfuel
    obtain ⟨fuel, rfl⟩ : ∃ n, fuel = n + 1 := by
      have hpos : 0 < (quote text).length := Nat.zero_lt_succ _
      exact ⟨fuel - 1, by omega⟩
    rw [quote, List.cons_append, List.cons_append, List.append_assoc, List.singleton_append,
      readValue?_quote, readUnits?_quoted]
    rfl

/-- **Digits spell a natural number.** -/
theorem spells_toDigits (n : Nat) :
    Spells (Nat.toDigits 10 n) (.number ⟨false, digitsOf n, none, none⟩) := by
  obtain ⟨c, front, hc, hfront⟩ := exists_toDigits n
  refine ⟨⟨c, by rw [hfront]; rfl, isBlank_of_isDigit hc, ?_⟩, ?_⟩
  · rintro rfl
    exact absurd hc (by decide)
  · intro fuel rest hrest hfuel
    obtain ⟨fuel, rfl⟩ : ∃ n, fuel = n + 1 := by
      have hpos : 0 < (Nat.toDigits 10 n).length := Nat.length_toDigits_pos
      exact ⟨fuel - 1, by omega⟩
    have hread := readNumeral?_toDigits (n := n) hrest
    rw [hfront, List.cons_append] at hread ⊢
    rw [readValue?_digit hc, hread]
    rfl

/-- **A text spells a member** of an object: a key, a colon and a value. -/
inductive SpellsMember : List Char → List StringUnit × Source → Prop
  /-- There may be blanks behind the colon. -/
  | intro (key : String) {gap text : List Char} {value : Source} (hgap : Blank gap)
      (hvalue : Spells text value) :
      SpellsMember (quote key ++ ':' :: (gap ++ text)) (unitsOf key, value)

/-! ### Values in a row -/

section Rows

variable {α : Type} {read : Nat → List Char → Option (List α × List Char)}
  {P : List Char → α → Prop} {texts : List (List Char)} {between last closing : List Char}

/-- Texts in a row are read one after the other, up to the end of the row. -/
theorem read_separated
    (hlast : ∀ {text a fuel}, P text a → 2 * text.length ≤ fuel →
      read (fuel + 1) (text ++ closing) = some ([a], rest))
    (hmore : ∀ {text a next others fuel}, P text a → 2 * text.length ≤ fuel →
      read fuel next = some (others, rest) →
        read (fuel + 1) (text ++ ',' :: (between ++ next)) = some (a :: others, rest))
    {row : List α} (h : List.Forall₂ P texts row) (hne : texts ≠ [])
    (hfuel : 2 * ((separated (',' :: between) texts).length + 1) ≤ fuel) :
    read fuel (separated (',' :: between) texts ++ closing) = some (row, rest) := by
  induction h generalizing fuel with
  | nil => exact absurd rfl hne
  | @cons text a texts row hfirst hothers ih =>
    obtain ⟨fuel, rfl⟩ : ∃ n, fuel = n + 1 := ⟨fuel - 1, by omega⟩
    cases hothers with
    | nil =>
      rw [separated] at hfuel ⊢
      exact hlast hfirst (by omega)
    | @cons text' a' texts row hsecond hothers =>
      rw [separated] at hfuel ⊢
      rw [List.append_assoc, List.append_assoc, List.cons_append]
      rw [List.length_append, List.length_append, List.length_cons] at hfuel
      exact hmore hfirst (by omega) (ih (List.cons_ne_nil _ _) (by omega))

end Rows

/-- **Items in a row** are read up to and with the bracket behind them. -/
theorem readItems?_separated {texts : List (List Char)} {items : List Source}
    (h : List.Forall₂ Spells texts items) (hne : texts ≠ []) {between last : List Char}
    (hbetween : Blank between) (hlast : Blank last)
    (hfuel : 2 * ((separated (',' :: between) texts).length + 1) ≤ fuel) :
    readItems? fuel (separated (',' :: between) texts ++ (last ++ ']' :: rest)) =
      some (items, rest) := by
  refine read_separated ?_ ?_ h hne hfuel
  · intro text item fuel hitem hfuel
    refine readItems?_last (hitem.read fuel _ (ends_append hlast (by simp) rest) hfuel) ?_
    rw [skipBlanks_append hlast, skipBlanks_cons (by decide)]
  · intro text item next items fuel hitem hfuel hitems
    refine readItems?_more (hitem.read fuel _ ?_ hfuel) (skipBlanks_cons (by decide) _) ?_
    · exact ends_cons (by simp) _
    · rw [readItems?_blanks hbetween, hitems]

/-- **Members in a row** are read up to and with the brace behind them. -/
theorem readMembers?_separated {texts : List (List Char)}
    {members : List (List StringUnit × Source)} (h : List.Forall₂ SpellsMember texts members)
    (hne : texts ≠ []) {between last : List Char} (hbetween : Blank between) (hlast : Blank last)
    (hfuel : 2 * ((separated (',' :: between) texts).length + 1) ≤ fuel) :
    readMembers? fuel (separated (',' :: between) texts ++ (last ++ '}' :: rest)) =
      some (members, rest) := by
  refine read_separated ?_ ?_ h hne hfuel
  · intro _ _ fuel hmember hfuel
    cases hmember with
    | @intro key gap text value hgap hvalue =>
      simp only [List.length_append, List.length_cons] at hfuel
      have hends : Ends (last ++ '}' :: rest) := ends_append hlast (by simp) rest
      rw [List.append_assoc, List.cons_append, List.append_assoc]
      refine readMembers?_last (hvalue.read_behind hgap hends (by omega)) ?_
      rw [skipBlanks_append hlast, skipBlanks_cons (by decide)]
  · intro _ _ next members fuel hmember hfuel hmembers
    cases hmember with
    | @intro key gap text value hgap hvalue =>
      simp only [List.length_append, List.length_cons] at hfuel
      have hends : Ends (',' :: (between ++ next)) := ends_cons (by simp) _
      rw [List.append_assoc, List.cons_append, List.append_assoc]
      refine readMembers?_more (hvalue.read_behind hgap hends (by omega))
        (skipBlanks_cons (by decide) _) ?_
      rw [readMembers?_blanks hbetween, hmembers]

/-! ### Arrays and objects -/

/-- Texts in a row begin like the first of them. -/
theorem mem_head?_separated {text : List Char} {c : Char} (hc : c ∈ text.head?)
    (separator : List Char) (texts : List (List Char)) (closing : List Char) :
    c ∈ (separated separator (text :: texts) ++ closing).head? := by
  obtain ⟨tail, rfl⟩ := List.head?_eq_some_iff.mp hc
  cases texts with
  | nil => rfl
  | cons next texts => rfl

/-- **Items between brackets spell an array**, whatever blanks there are around them. -/
theorem spells_array {texts : List (List Char)} {items : List Source}
    (h : List.Forall₂ Spells texts items) {first between last : List Char} (hfirst : Blank first)
    (hbetween : Blank between) (hlast : Blank last) :
    Spells ('[' :: (first ++ (separated (',' :: between) texts ++ (last ++ [']'])))) (.array items)
    where
  head := ⟨'[', rfl, by decide, by decide⟩
  read := by
    intro fuel rest _ hfuel
    simp only [List.length_cons, List.length_append] at hfuel
    obtain ⟨fuel, rfl⟩ : ∃ n, fuel = n + 1 := ⟨fuel - 1, by omega⟩
    simp only [List.cons_append, List.append_assoc, List.nil_append]
    cases h with
    | nil =>
      refine readValue?_array_nil ?_ fuel
      rw [skipBlanks_append hfirst, separated, List.nil_append, skipBlanks_append hlast,
        skipBlanks_cons (by decide)]
    | @cons text item texts items hitem hitems =>
      obtain ⟨c, hc, hblank, hbracket⟩ := hitem.head
      have hhead := mem_head?_separated hc (',' :: between) texts (last ++ ']' :: rest)
      refine readValue?_array ?_ ?_ (readItems?_separated (.cons hitem hitems)
        (List.cons_ne_nil _ _) hbetween hlast (by omega))
      · rw [skipBlanks_append hfirst, skipBlanks_of_head hhead hblank]
      · intro hclosed
        exact hbracket (Option.mem_unique hhead hclosed)

theorem SpellsMember.head {text : List Char} {member : List StringUnit × Source}
    (h : SpellsMember text member) : '"' ∈ text.head? := by
  cases h with
  | intro key hgap hvalue => rfl

/-- **Members between braces spell an object**, whatever blanks there are around them. -/
theorem spells_object {texts : List (List Char)} {members : List (List StringUnit × Source)}
    (h : List.Forall₂ SpellsMember texts members) {first between last : List Char}
    (hfirst : Blank first) (hbetween : Blank between) (hlast : Blank last) :
    Spells ('{' :: (first ++ (separated (',' :: between) texts ++ (last ++ ['}']))))
      (.object members)
    where
  head := ⟨'{', rfl, by decide, by decide⟩
  read := by
    intro fuel rest _ hfuel
    simp only [List.length_cons, List.length_append] at hfuel
    obtain ⟨fuel, rfl⟩ : ∃ n, fuel = n + 1 := ⟨fuel - 1, by omega⟩
    simp only [List.cons_append, List.append_assoc, List.nil_append]
    cases h with
    | nil =>
      refine readValue?_object_nil ?_ fuel
      rw [skipBlanks_append hfirst, separated, List.nil_append, skipBlanks_append hlast,
        skipBlanks_cons (by decide)]
    | @cons text member texts members hmember hmembers =>
      have hhead := mem_head?_separated hmember.head (',' :: between) texts (last ++ '}' :: rest)
      refine readValue?_object ?_ ?_ (readMembers?_separated (.cons hmember hmembers)
        (List.cons_ne_nil _ _) hbetween hlast (by omega))
      · rw [skipBlanks_append hfirst, skipBlanks_of_head hhead (by decide)]
      · intro hclosed
        exact absurd (Option.mem_unique hhead hclosed) (by decide)

/-- **A spelled tree is read** from its text, and there may be blanks behind. -/
theorem Spells.ofChars?_append {text blanks : List Char} {source : Source}
    (h : Spells text source) (hblanks : Blank blanks) :
    ofChars? (text ++ blanks) = some source := by
  have hends : Ends blanks := by
    intro c hc
    exact Or.inl (hblanks c (List.mem_of_mem_head? hc))
  have hread := h.read (2 * (text ++ blanks).length + 2) blanks hends
    (by rw [List.length_append]; omega)
  have hskip : skipBlanks blanks = [] := by
    have hnone := skipBlanks_append hblanks []
    rwa [List.append_nil] at hnone
  rw [ofChars?, hread]
  simp [hskip]

end Source

/-! ### Written values -/

open Source

/-- **A value reads as a tree**: both of its texts spell the tree, the one without blanks and
the one on several lines, on whatever level it stands. -/
structure ReadsAs (value : Json) (source : Source) : Prop where
  /-- The text without blanks spells the tree. -/
  compact : Spells value.compactChars source
  /-- The text on several lines does. -/
  pretty : ∀ level, Spells (value.prettyChars level) source

theorem ReadsAs.ofText?_compact {value : Json} {source : Source} (h : value.ReadsAs source) :
    ofText? value.compact = some source := by
  have hread := h.compact.ofChars?_append blank_nil
  rw [List.append_nil] at hread
  rw [ofText?, Json.compact, String.toList_ofList, hread]

theorem ReadsAs.ofText?_pretty {value : Json} {source : Source} (h : value.ReadsAs source)
    {ending : String} (hending : Blank ending.toList) :
    ofText? (value.pretty ++ ending) = some source := by
  rw [ofText?, Json.pretty, String.toList_append, String.toList_ofList]
  exact (h.pretty 0).ofChars?_append hending

theorem readsAs_string (text : String) : (string text).ReadsAs (.string (unitsOf text)) where
  compact := by
    rw [compactChars]
    exact spells_quote text
  pretty := by
    intro level
    rw [prettyChars]
    exact spells_quote text

theorem readsAs_ofNat {n : Nat} (h : n < UInt64.size) :
    (ofNat n).ReadsAs (.number ⟨false, digitsOf n, none, none⟩) := by
  have htext : (Number.natural (UInt64.ofNat n)).text.toList = Nat.toDigits 10 n := by
    rw [Number.text, UInt64.toNat_ofNat_of_lt' h, Nat.toString_eq_repr, Nat.toList_repr]
  constructor
  · rw [ofNat, compactChars, htext]
    exact spells_toDigits n
  · intro level
    rw [ofNat, prettyChars, htext]
    exact spells_toDigits n

theorem compactItems_eq_map (items : List Json) : compactItems items = items.map compactChars := by
  induction items with
  | nil => rw [compactItems, List.map_nil]
  | cons item items ih => rw [compactItems, List.map_cons, ih]

theorem prettyItems_eq_map (level : Nat) (items : List Json) :
    prettyItems level items = items.map (prettyChars level) := by
  induction items with
  | nil => rw [prettyItems, List.map_nil]
  | cons item items ih => rw [prettyItems, List.map_cons, ih]

theorem compactMembers_eq_map (members : List (String × Json)) :
    compactMembers members =
      members.map fun member => quote member.1 ++ ':' :: ([] ++ compactChars member.2) := by
  induction members with
  | nil => rw [compactMembers, List.map_nil]
  | cons member members ih => rw [compactMembers, List.map_cons, ih, List.nil_append]

theorem prettyMembers_eq_map (level : Nat) (members : List (String × Json)) :
    prettyMembers level members =
      members.map fun member => quote member.1 ++ ':' :: ([' '] ++ prettyChars level member.2) := by
  induction members with
  | nil => rw [prettyMembers, List.map_nil]
  | cons member members ih => rw [prettyMembers, List.map_cons, ih, List.singleton_append]

theorem blank_newline (level : Nat) : Blank (newline level) := by
  intro c hc
  rcases List.mem_cons.mp hc with rfl | hc
  · rfl
  · rw [List.eq_of_mem_replicate hc]
    rfl

/-- Brackets with something between them. -/
theorem enclosed_of_ne_nil {texts : List (List Char)} (h : texts ≠ []) (opening closing : Char)
    (level : Nat) :
    enclosed opening closing level texts =
      opening :: (newline (level + 1) ++ (separated (',' :: newline (level + 1)) texts ++
        (newline level ++ [closing]))) := by
  rw [enclosed, if_neg (by rwa [List.isEmpty_iff])]
  simp only [List.cons_append, List.append_assoc]

/-- **Arrays read as the trees of their items.** -/
theorem readsAs_array {items : List Json} {sources : List Source}
    (h : List.Forall₂ ReadsAs items sources) : (array items).ReadsAs (.array sources) where
  compact := by
    have hitems : List.Forall₂ Spells (items.map compactChars) sources :=
      List.forall₂_map_left_iff.mpr (h.imp fun _ _ hitem => hitem.compact)
    rw [compactChars, compactItems_eq_map]
    exact spells_array hitems blank_nil blank_nil blank_nil
  pretty := by
    intro level
    have hitems : List.Forall₂ Spells (items.map (prettyChars (level + 1))) sources :=
      List.forall₂_map_left_iff.mpr (h.imp fun _ _ hitem => hitem.pretty (level + 1))
    rw [prettyChars, prettyItems_eq_map]
    cases h with
    | nil => exact spells_array .nil blank_nil blank_nil blank_nil
    | cons hitem hrest =>
      rw [enclosed_of_ne_nil (by simp)]
      exact spells_array hitems (blank_newline _) (blank_newline _) (blank_newline _)

/-- A member of an object reads as a member of a tree. -/
structure MemberReadsAs (member : String × Json) (source : List StringUnit × Source) : Prop where
  /-- The key is written as the units. -/
  key : source.1 = unitsOf member.1
  /-- The value reads as the tree. -/
  value : member.2.ReadsAs source.2

theorem ReadsAs.member {value : Json} {source : Source} (h : value.ReadsAs source)
    (key : String) : MemberReadsAs (key, value) (unitsOf key, source) :=
  ⟨rfl, h⟩

theorem MemberReadsAs.spells {member : String × Json} {source : List StringUnit × Source}
    (h : MemberReadsAs member source) {gap text : List Char} (hgap : Blank gap)
    (hvalue : Spells text source.2) :
    SpellsMember (quote member.1 ++ ':' :: (gap ++ text)) source := by
  have hmember := SpellsMember.intro member.1 hgap hvalue
  rwa [← h.key] at hmember

/-- **Objects read as the trees of their members.** -/
theorem readsAs_object {members : List (String × Json)}
    {sources : List (List StringUnit × Source)}
    (h : List.Forall₂ MemberReadsAs members sources) :
    (object members).ReadsAs (.object sources) where
  compact := by
    have hmembers : List.Forall₂ SpellsMember (compactMembers members) sources := by
      rw [compactMembers_eq_map]
      exact List.forall₂_map_left_iff.mpr
        (h.imp fun _ _ hmember => hmember.spells blank_nil hmember.value.compact)
    rw [compactChars]
    exact spells_object hmembers blank_nil blank_nil blank_nil
  pretty := by
    intro level
    have hgap : Blank [' '] := by simp [Blank, isBlank]
    have hmembers : List.Forall₂ SpellsMember (prettyMembers (level + 1) members) sources := by
      rw [prettyMembers_eq_map]
      exact List.forall₂_map_left_iff.mpr
        (h.imp fun _ _ hmember => hmember.spells hgap (hmember.value.pretty (level + 1)))
    rw [prettyChars]
    cases h with
    | nil => exact spells_object .nil blank_nil blank_nil blank_nil
    | cons hmember hrest =>
      rw [enclosed_of_ne_nil (by simp [prettyMembers_eq_map])]
      exact spells_object hmembers (blank_newline _) (blank_newline _) (blank_newline _)

/-- **A value gives something** to a reader: both of its texts spell a tree from which this is
read. -/
def Gives {α : Type} (value : Json) (read : Source → Option α) (a : α) : Prop :=
  ∃ source, value.ReadsAs source ∧ read source = some a

/-! ### Nesting -/

mutual

/-- **How deeply arrays and objects are nested** inside each other in a value. -/
def nesting : Json → Nat
  | .array items => nestingOfItems items + 1
  | .object members => nestingOfMembers members + 1
  | _ => 0

/-- The deepest nesting of items. -/
def nestingOfItems : List Json → Nat
  | [] => 0
  | item :: rest => max item.nesting (nestingOfItems rest)

/-- The deepest nesting of the values of members. -/
def nestingOfMembers : List (String × Json) → Nat
  | [] => 0
  | (_, value) :: rest => max value.nesting (nestingOfMembers rest)

end

theorem nestingOfItems_le_iff {items : List Json} {d : Nat} :
    nestingOfItems items ≤ d ↔ ∀ item ∈ items, item.nesting ≤ d := by
  induction items with
  | nil => simp [nestingOfItems]
  | cons item items ih => rw [nestingOfItems, Nat.max_le, ih, List.forall_mem_cons]

theorem nestingOfMembers_le_iff {members : List (String × Json)} {d : Nat} :
    nestingOfMembers members ≤ d ↔ ∀ member ∈ members, member.2.nesting ≤ d := by
  induction members with
  | nil => simp [nestingOfMembers]
  | cons member members ih => rw [nestingOfMembers, Nat.max_le, ih, List.forall_mem_cons]

/-! ### Values of trees -/

namespace Source

variable {depth : Nat}

theorem isSome_values?_iff {items : List Source} :
    (values? depth items).isSome ↔ ∀ item ∈ items, (item.value? depth).isSome := by
  induction items with
  | nil => simp [values?]
  | cons item items ih =>
    rw [values?, List.forall_mem_cons, ← ih]
    rcases item.value? depth with _ | value <;> rcases values? depth items with _ | values <;> simp

theorem isSome_memberValues?_iff {members : List (List StringUnit × Source)} :
    (memberValues? depth members).isSome ↔
      ∀ member ∈ members, (string? member.1).isSome ∧ (member.2.value? depth).isSome := by
  induction members with
  | nil => simp [memberValues?]
  | cons member members ih =>
    obtain ⟨units, value⟩ := member
    rw [memberValues?, List.forall_mem_cons, ← ih]
    rcases string? units with _ | key <;> rcases value.value? depth with _ | value <;>
      rcases memberValues? depth members with _ | values <;> simp

/-- An array has a value if its items have one with a level less. -/
theorem isSome_value?_array_iff {items : List Source} :
    ((array items).value? depth).isSome ↔
      ∃ inner, depth = inner + 1 ∧ ∀ item ∈ items, (item.value? inner).isSome := by
  cases depth with
  | zero => simp [value?]
  | succ depth => simp [value?, isSome_values?_iff]

/-- An object has a value if its keys are texts and its members have one with a level less. -/
theorem isSome_value?_object_iff {members : List (List StringUnit × Source)} :
    ((object members).value? depth).isSome ↔
      ∃ inner, depth = inner + 1 ∧
        ∀ member ∈ members, (string? member.1).isSome ∧ (member.2.value? inner).isSome := by
  cases depth with
  | zero => simp [value?]
  | succ depth => simp [value?, isSome_memberValues?_iff]

end Source

end ContractSchema.Json
