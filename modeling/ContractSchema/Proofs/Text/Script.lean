import Mathlib.Data.List.Forall2
import Mathlib.Data.List.TakeWhile

/-!
# Texts that can be told from what follows them

A text in which things are written one behind the other, with marks between them, can be taken
apart if each thing is told from what follows it. How things of one sort are written is a
**script** (`ContractSchema.Script`), which also says what may follow them and which of them need
not be told apart. A thing is **clear** in a script (`ContractSchema.Script.Clear`) if any other
text of the script that begins in the same way, whatever follows, is one of the same thing with
the same behind it.

That things are clear is found out along their parts. Words are clear if no letter follows
(`ContractSchema.word_inj`). Of things that are clear so are rows of them, where each
one stands behind a mark (`ContractSchema.Script.clear_rows`), and lists of them with the mark in
between (`ContractSchema.Script.clear_separated`), provided that what follows is not taken for one
more of them.
-/

namespace ContractSchema

variable {α : Type}

/-- **A way of writing things.** -/
structure Script (α : Type) where
  /-- What is written for a thing. -/
  write : α → List Char
  /-- The things which are written. -/
  valid : α → Prop
  /-- What may follow a thing. -/
  follow : List Char → Prop
  /-- Things which are taken for the same. -/
  same : α → α → Prop

namespace Script

/-- **A thing is clear**: from a text which begins with it one can tell what it is, and what
follows it. -/
def Clear (script : Script α) (a : α) : Prop :=
  ∀ b, script.valid b → ∀ rest rest', script.follow rest → script.follow rest' →
    script.write a ++ rest = script.write b ++ rest' → script.same a b ∧ rest = rest'

/-- Things in a row, each of them behind a mark. -/
def rows (script : Script α) (mark : List Char) (follow : List Char → Prop) : Script (List α) where
  write things := things.flatMap fun a => mark ++ script.write a
  valid things := ∀ a ∈ things, script.valid a
  follow := follow
  same := List.Forall₂ script.same

/-- Things with a mark between them. -/
def separated (script : Script α) (mark : List Char) (follow : List Char → Prop) :
    Script (List α) where
  write
    | [] => []
    | a :: things => script.write a ++ things.flatMap fun b => mark ++ script.write b
  valid things := ∀ a ∈ things, script.valid a
  follow := follow
  same := List.Forall₂ script.same

theorem rows_write_cons (script : Script α) (mark : List Char) (follow : List Char → Prop) (a : α)
    (things : List α) (rest : List Char) :
    (script.rows mark follow).write (a :: things) ++ rest =
      mark ++ script.write a ++ ((script.rows mark follow).write things ++ rest) := by
  simp [rows]

theorem separated_write_cons (script : Script α) (mark : List Char) (follow : List Char → Prop)
    (a : α) (things : List α) (rest : List Char) :
    (script.separated mark follow).write (a :: things) ++ rest =
      script.write a ++ ((script.rows mark follow).write things ++ rest) := by
  simp [separated, rows]

/-- **A mark goes on with a row**: it may follow a thing, but not the whole row. -/
structure GoesOn (script : Script α) (mark : List Char) (follow : List Char → Prop) : Prop where
  /-- A thing may be followed by the mark and one more thing. -/
  mark_follows : ∀ a, script.valid a → ∀ rest, script.follow (mark ++ script.write a ++ rest)
  /-- The row may not. -/
  mark_not_behind : ∀ a, script.valid a → ∀ rest, ¬follow (mark ++ script.write a ++ rest)
  /-- What follows the row may follow its last thing. -/
  follow_imp : ∀ rest, follow rest → script.follow rest

section Rows

variable {script : Script α} {mark : List Char} {follow : List Char → Prop}

theorem GoesOn.follows (h : GoesOn script mark follow) {things : List α}
    (hvalid : ∀ a ∈ things, script.valid a) {rest : List Char} (hrest : follow rest) :
    script.follow ((script.rows mark follow).write things ++ rest) := by
  cases things with
  | nil => exact h.follow_imp rest hrest
  | cons a things =>
    rw [rows_write_cons]
    exact h.mark_follows a (hvalid a (List.mem_cons_self ..)) _

theorem GoesOn.not_behind (h : GoesOn script mark follow) {a : α} (ha : script.valid a)
    (things : List α) (rest : List Char) :
    ¬follow ((script.rows mark follow).write (a :: things) ++ rest) := by
  rw [rows_write_cons]
  exact h.mark_not_behind a ha _

/-- A clear thing is told from a clear row behind it. -/
theorem Clear.cons_row (h : GoesOn script mark follow) {a b : α} {things others : List α}
    (ha : script.Clear a) (hthings : (script.rows mark follow).Clear things)
    (hvalid : ∀ c ∈ things, script.valid c) (hvalid' : ∀ c ∈ b :: others, script.valid c)
    {rest rest' : List Char} (hrest : follow rest) (hrest' : follow rest')
    (heq : script.write a ++ ((script.rows mark follow).write things ++ rest) =
      script.write b ++ ((script.rows mark follow).write others ++ rest')) :
    List.Forall₂ script.same (a :: things) (b :: others) ∧ rest = rest' := by
  obtain ⟨hb, hothers⟩ := List.forall_mem_cons.mp hvalid'
  obtain ⟨hsame, htail⟩ := ha b hb _ _ (h.follows hvalid hrest) (h.follows hothers hrest') heq
  obtain ⟨hsames, hends⟩ := hthings others hothers rest rest' hrest hrest' htail
  exact ⟨.cons hsame hsames, hends⟩

/-- **Rows of clear things are clear.** -/
theorem clear_rows (h : GoesOn script mark follow) {things : List α}
    (hvalid : ∀ a ∈ things, script.valid a) (hclear : ∀ a ∈ things, script.Clear a) :
    (script.rows mark follow).Clear things := by
  -- of two rows of different length, one would go on where the other one has ended
  induction things with
  | nil =>
    rintro (_ | ⟨b, others⟩) hvalid' rest rest' hrest hrest' heq
    · exact ⟨.nil, heq⟩
    · have hb := hvalid' b (List.mem_cons_self ..)
      exact absurd (heq ▸ hrest : follow _) (h.not_behind hb others rest')
  | cons a things ih =>
    obtain ⟨ha, hthings⟩ := List.forall_mem_cons.mp hvalid
    obtain ⟨hclear_a, hclear_things⟩ := List.forall_mem_cons.mp hclear
    rintro (_ | ⟨b, others⟩) hvalid' rest rest' hrest hrest' heq
    · exact absurd (heq ▸ hrest' : follow _) (h.not_behind ha things rest)
    · rw [rows_write_cons, rows_write_cons, List.append_assoc, List.append_assoc] at heq
      have htail := List.append_cancel_left heq
      exact hclear_a.cons_row h (ih hthings hclear_things) hthings hvalid' hrest hrest' htail

/-- **Lists of clear things are clear**, if they do not look like what follows. -/
theorem clear_separated (h : GoesOn script mark follow)
    (hfirst : ∀ a, script.valid a → ∀ rest, ¬follow (script.write a ++ rest)) {things : List α}
    (hvalid : ∀ a ∈ things, script.valid a) (hclear : ∀ a ∈ things, script.Clear a) :
    (script.separated mark follow).Clear things := by
  have hnot : ∀ a, script.valid a → ∀ things rest,
      ¬follow ((script.separated mark follow).write (a :: things) ++ rest) := by
    intro a ha things rest
    rw [separated_write_cons]
    exact hfirst a ha _
  rcases things with _ | ⟨a, things⟩
  · rintro (_ | ⟨b, others⟩) hvalid' rest rest' hrest hrest' heq
    · exact ⟨.nil, heq⟩
    · have hb := hvalid' b (List.mem_cons_self ..)
      exact absurd (heq ▸ hrest : follow _) (hnot b hb others rest')
  · obtain ⟨ha, hthings⟩ := List.forall_mem_cons.mp hvalid
    obtain ⟨hclear_a, hclear_things⟩ := List.forall_mem_cons.mp hclear
    rintro (_ | ⟨b, others⟩) hvalid' rest rest' hrest hrest' heq
    · exact absurd (heq ▸ hrest' : follow _) (hnot a ha things rest)
    · rw [separated_write_cons, separated_write_cons] at heq
      exact hclear_a.cons_row h (clear_rows h hthings hclear_things) hthings hvalid' hrest hrest'
        heq

end Rows

end Script

/-! ### Words -/

/-- Letters, digits and underscores of ASCII. -/
def isWordChar (c : Char) : Bool :=
  c.isAlphanum || c == '_'

/-- **A word** of letters, digits and underscores, at least one. -/
def IsWord (text : String) : Prop :=
  text ≠ "" ∧ ∀ c ∈ text.toList, isWordChar c = true

instance (text : String) : Decidable (IsWord text) :=
  decidable_of_iff (text ≠ "" ∧ text.toList.all isWordChar = true)
    (and_congr_right fun _ => List.all_eq_true)

/-- **An identifier** is a word that does not begin with a digit. -/
def IsIdentifier (text : String) : Prop :=
  IsWord text ∧ ∀ c ∈ text.toList.head?, c.isDigit = false

instance (text : String) : Decidable (IsIdentifier text) :=
  decidable_of_iff (IsWord text ∧ text.toList.head?.all (fun c => !c.isDigit) = true)
    (and_congr_right fun _ => by simp [Option.all_eq_true])

/-- Characters of words are none of the others. -/
theorem ne_of_isWordChar {c d : Char} (h : isWordChar c = true) (hd : isWordChar d = false) :
    c ≠ d := by
  rintro rfl
  rw [h] at hd
  cases hd

theorem toList_toString (n : Nat) : (toString n).toList = Nat.toDigits 10 n := by
  rw [Nat.toString_eq_repr, Nat.toList_repr]

/-- Digits are a word. -/
theorem isWord_toString (n : Nat) : IsWord (toString n) := by
  constructor
  · rw [Ne, ← String.toList_eq_nil_iff, toList_toString]
    exact Nat.toDigits_ne_nil
  · intro c hc
    rw [toList_toString] at hc
    have hdigit : c.isDigit = true := Nat.isDigit_of_mem_toDigits (by decide) (by decide) hc
    have halphanum : c.isAlphanum = (c.isAlpha || c.isDigit) := rfl
    rw [isWordChar, halphanum, hdigit, Bool.or_true, Bool.true_or]

/-- A number is told by its digits. -/
theorem eq_of_toString_eq {n n' : Nat} (h : toString n = toString n') : n = n' := by
  have hdigits : Nat.toDigits 10 n = Nat.toDigits 10 n' := by
    rw [← toList_toString, ← toList_toString, h]
  rw [← Nat.ofDigitChars_ten_toDigits (n := n), hdigits, Nat.ofDigitChars_ten_toDigits]

/-- What follows does not go on with a word. -/
def NoWordChar (rest : List Char) : Prop :=
  ∀ c ∈ rest.head?, isWordChar c = false

theorem noWordChar_cons {c : Char} (hc : isWordChar c = false) (rest : List Char) :
    NoWordChar (c :: rest) := by
  rintro d ⟨⟩
  exact hc

/-- **Characters of a kind are told** from what follows, if this does not begin with one more. -/
theorem append_inj_of_forall {p : Char → Bool} {chars chars' rest rest' : List Char}
    (h : ∀ c ∈ chars, p c = true) (h' : ∀ c ∈ chars', p c = true)
    (hrest : ∀ c ∈ rest.head?, p c = false) (hrest' : ∀ c ∈ rest'.head?, p c = false)
    (heq : chars ++ rest = chars' ++ rest') : chars = chars' ∧ rest = rest' := by
  have htake : ∀ front back : List Char, (∀ c ∈ front, p c = true) →
      (∀ c ∈ back.head?, p c = false) → (front ++ back).takeWhile p = front := by
    intro front back hfront hback
    rw [List.takeWhile_append_of_pos hfront]
    cases back with
    | nil => simp
    | cons c back =>
      have hc : p c = false := hback c rfl
      rw [List.takeWhile_cons_of_neg (by simp [hc]), List.append_nil]
  have hchars : chars = chars' := by
    rw [← htake chars rest h hrest, heq, htake chars' rest' h' hrest']
  subst hchars
  exact ⟨rfl, List.append_cancel_left heq⟩

/-- Words are told from what follows. -/
theorem word_inj {s s' : String} (hs : IsWord s) (hs' : IsWord s') {rest rest' : List Char}
    (hrest : NoWordChar rest) (hrest' : NoWordChar rest')
    (heq : s.toList ++ rest = s'.toList ++ rest') : s = s' ∧ rest = rest' := by
  obtain ⟨hchars, hends⟩ := append_inj_of_forall hs.2 hs'.2 hrest hrest' heq
  exact ⟨String.toList_inj.mp hchars, hends⟩

end ContractSchema
