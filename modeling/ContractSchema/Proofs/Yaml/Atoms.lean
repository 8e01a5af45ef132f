import ContractSchema.Proofs.Json.Atoms
import ContractSchema.Proofs.Names
import ContractSchema.Proofs.Text.Script
import ContractSchema.Yaml.Layout
import Mathlib.Algebra.Group.Nat.Defs

/-!
# Words and numbers in YAML

A word is written as it is, or between single quotes if it would be taken for something else
(`ContractSchema.Yaml.scalar_of_isWord`). Numbers are written in digits. Digits that are meant as
a word would be taken for the number (`ContractSchema.Yaml.isResolved_toString`), so they stand
between quotes, and one can tell from a text which word or number it is
(`ContractSchema.Yaml.clear_atom`).
-/

namespace ContractSchema.Yaml

/-! ### Characters of words -/

theorem isWordChar_iff {c : Char} :
    isWordChar c = true ↔ (65 ≤ c.toNat ∧ c.toNat ≤ 90) ∨ (97 ≤ c.toNat ∧ c.toNat ≤ 122) ∨
      (48 ≤ c.toNat ∧ c.toNat ≤ 57) ∨ c.toNat = 95 := by
  have hline : c = '_' ↔ c.toNat = 95 := by
    rw [← Char.toNat_inj]
    rfl
  rw [isWordChar, Bool.or_eq_true, isAlphanum_iff, beq_iff_eq, hline]
  omega

theorem isPrintable_of_isWordChar {c : Char} (h : isWordChar c = true) : isPrintable c = true := by
  rw [isWordChar_iff] at h
  simp only [isPrintable, Bool.or_eq_true, Bool.and_eq_true, decide_eq_true_eq, beq_iff_eq]
  omega

/-- A character of a word is none of the others. -/
theorem beq_of_isWordChar {c d : Char} (h : isWordChar c = true) (hd : isWordChar d = false) :
    (c == d) = false :=
  beq_eq_false_iff_ne.mpr (ne_of_isWordChar h hd)

theorem isBreak_of_isWordChar {c : Char} (h : isWordChar c = true) : isBreak c = false := by
  have hne : ∀ d, isWordChar d = false → (c == d) = false := fun d => beq_of_isWordChar h
  simp only [isBreak, hne '\n' (by decide), hne '\r' (by decide), hne '\u0085' (by decide),
    hne '\u2028' (by decide), hne '\u2029' (by decide), Bool.or_self]

theorem isLeadingMark_of_isWordChar {c : Char} (h : isWordChar c = true) (rest : List Char) :
    isLeadingMark c rest = false := by
  have hmarks : "#,[]\x7b\x7d&*!|>'\"%@\x60".toList.contains c = false := by
    have hnone : "#,[]\x7b\x7d&*!|>'\"%@\x60".toList.all (fun d => !isWordChar d) = true := by
      decide
    refine Bool.eq_false_iff.mpr fun hcontains => ?_
    have hmark := List.all_eq_true.mp hnone c (List.contains_iff_mem.mp hcontains)
    rw [h] at hmark
    cases hmark
  simp only [isLeadingMark, hmarks, beq_of_isWordChar (d := '?') h rfl,
    beq_of_isWordChar (d := ':') h rfl,
    beq_of_isWordChar (d := '-') h rfl, Bool.or_self, Bool.false_and]

theorem hasInnerMark_of_word {chars : List Char} (h : ∀ c ∈ chars, isWordChar c = true)
    (previous : Char) : hasInnerMark previous chars = false := by
  induction chars generalizing previous with
  | nil => rfl
  | cons c chars ih =>
    obtain ⟨hc, hchars⟩ := List.forall_mem_cons.mp h
    simp only [hasInnerMark, isInnerMark, beq_of_isWordChar (d := ':') hc rfl,
      beq_of_isWordChar (d := '#') hc rfl, ih hchars, Bool.false_and, Bool.or_self]

theorem hasPair_eq_false {p : Char → Char → Bool} {chars : List Char}
    (h : ∀ a ∈ chars, ∀ b ∈ chars, p a b = false) : hasPair p chars = false := by
  induction chars with
  | nil => rfl
  | cons a chars ih =>
    cases chars with
    | nil => rfl
    | cons b chars =>
      have hfirst : p a b = false := h a (by simp) b (by simp)
      have hrest := ih fun c hc d hd =>
        h c (List.mem_cons_of_mem _ hc) d (List.mem_cons_of_mem _ hd)
      rw [hasPair, hfirst, hrest, Bool.or_self]

theorem isDocumentMark_of_word {chars : List Char} (h : ∀ c ∈ chars, isWordChar c = true) :
    isDocumentMark chars = false := by
  unfold isDocumentMark
  split
  · exact absurd (h '-' (by simp)) (by decide)
  · exact absurd (h '.' (by simp)) (by decide)
  · rfl

/-- **Nothing matters about the characters of a word.** -/
theorem ofChars_of_word {chars : List Char} (h : ∀ c ∈ chars, isWordChar c = true) :
    Shape.ofChars chars = ⟨false, false, false, false, false, false, false, false⟩ := by
  have hbreak : ∀ c ∈ chars, isBreak c = false := fun c hc => isBreak_of_isWordChar (h c hc)
  have hspace : ∀ c ∈ chars, (c == ' ') = false := fun c hc => beq_of_isWordChar (h c hc) rfl
  have hlast : ∀ p : Char → Bool, (∀ c ∈ chars, p c = false) → chars.getLast?.any p = false := by
    intro p hp
    rw [Option.any_eq_false_iff_get]
    exact fun hsome => by simp [hp _ (List.mem_of_getLast? (Option.some_get hsome).symm)]
  have hhead : ∀ p : Char → Bool, (∀ c ∈ chars, p c = false) → chars.head?.any p = false := by
    intro p hp
    cases chars with
    | nil => rfl
    | cons c chars => exact hp c (by simp)
  rcases chars with _ | ⟨c, chars⟩
  · rfl
  have hfirst := h c (List.mem_cons_self ..)
  have hinner : hasInnerMark c chars = false :=
    hasInnerMark_of_word (fun d hd => h d (List.mem_cons_of_mem _ hd)) c
  rw [Shape.ofChars]
  congr 1
  · rw [isDocumentMark_of_word h, isLeadingMark_of_isWordChar hfirst, hinner]
    rfl
  · exact List.any_eq_false.mpr fun c hc => by simp [isPrintable_of_isWordChar (h c hc)]
  · exact List.any_eq_false.mpr fun c hc => by simp [hbreak c hc]
  · exact hhead _ fun c hc => by simp [hbreak c hc, hspace c hc]
  · exact hlast _ hspace
  · exact hlast _ hbreak
  · exact hasPair_eq_false fun a ha b _ => by simp [hbreak a ha]
  · exact hasPair_eq_false fun a ha b _ => by simp [hspace a ha]

/-! ### Words -/

theorem style_of_isWord {s : String} (h : IsWord s) :
    style s = if isResolved s then .single else .plain := by
  have hline : s.toList.contains '\n' = false := by
    refine Bool.eq_false_iff.mpr fun hcontains => ?_
    exact absurd (h.2 _ (List.contains_iff_mem.mp hcontains)) (by decide)
  simp only [style, hline, ofChars_of_word h.2, Shape.allowsPlain, Shape.allowsSingle]
  cases isResolved s <;> rfl

theorem doubleBreaks_eq_self {chars : List Char} (h : ∀ c ∈ chars, isBreak c = false)
    (inBreaks : Bool) : doubleBreaks inBreaks chars = chars := by
  induction chars generalizing inBreaks with
  | nil => rfl
  | cons c chars ih =>
    obtain ⟨hc, hchars⟩ := List.forall_mem_cons.mp h
    rw [doubleBreaks, if_neg (by simp [hc]), ih hchars]

theorem indented_eq_flatMap (indent : Nat) (write : Char → List Char) {chars : List Char}
    (h : ∀ c ∈ chars, isBreak c = false) :
    indented indent write false chars = chars.flatMap write := by
  induction chars with
  | nil => rfl
  | cons c chars ih =>
    obtain ⟨hc, hchars⟩ := List.forall_mem_cons.mp h
    rw [indented, if_neg (by simp [hc]), ih hchars, List.flatMap_cons]
    rfl

/-- What is written for a word. -/
def wordScalar (s : String) : List Char :=
  if isResolved s then '\'' :: (s.toList ++ ['\'']) else s.toList

/-- **A word stands between quotes or as it is.** -/
theorem scalar_of_isWord {s : String} (h : IsWord s) (indent : Nat) :
    scalar indent s = wordScalar s := by
  have hbreak : ∀ c ∈ s.toList, isBreak c = false := fun c hc => isBreak_of_isWordChar (h.2 c hc)
  have hlast : s.toList.getLast?.any isBreak = false := by
    rw [Option.any_eq_false_iff_get]
    exact fun hsome => by simp [hbreak _ (List.mem_of_getLast? (Option.some_get hsome).symm)]
  have hquote : s.toList.flatMap singleEscape = s.toList := by
    have hchar : ∀ c ∈ s.toList, singleEscape c = [c] := fun c hc =>
      if_neg (ne_of_isWordChar (h.2 c hc) (by decide))
    rw [List.flatMap_congr hchar, List.flatMap_singleton']
  simp only [scalar, style_of_isWord h, wordScalar]
  cases isResolved s with
  | true =>
    simp [doubleBreaks_eq_self hbreak, indented_eq_flatMap indent singleEscape hbreak, hlast,
      hquote]
  | false => rfl

theorem keyScalar_of_isWord {s : String} (h : IsWord s) : keyScalar s = wordScalar s := by
  rw [keyScalar]
  split
  · rename_i hstyle
    rw [style_of_isWord h] at hstyle
    split at hstyle <;> cases hstyle
  · exact scalar_of_isWord h 0

/-! ### Numbers -/

theorem isDigit_of_mem_toDigits {n : Nat} {c : Char} (h : c ∈ Nat.toDigits 10 n) :
    isDigit c = true :=
  Json.Source.isDigit_of_mem_toDigits h

theorem isPadded_toDigits (n : Nat) : isPadded (Nat.toDigits 10 n) = false := by
  rw [isPadded.eq_def]
  split
  · next next rest heq =>
    obtain rfl : n = 0 := Json.Source.eq_zero_of_toDigits_eq heq
    rw [Nat.toDigits_zero] at heq
    cases heq
  · rfl

theorem readDecimal?_toDigits (n : Nat) :
    readDecimal? (Nat.toDigits 10 n) = some (Nat.toDigits 10 n, 0, 0) := by
  have hdigits : ∀ c ∈ Nat.toDigits 10 n, isDigit c = true := fun c => isDigit_of_mem_toDigits
  have htake : (Nat.toDigits 10 n).takeWhile isDigit = Nat.toDigits 10 n :=
    List.takeWhile_eq_self_iff.mpr hdigits
  have hdrop : (Nat.toDigits 10 n).dropWhile isDigit = [] := List.dropWhile_eq_nil_iff.mpr hdigits
  have hne : (Nat.toDigits 10 n).isEmpty = false :=
    List.isEmpty_eq_false_iff.mpr Nat.toDigits_ne_nil
  simp [readDecimal?, htake, hdrop, hne]

theorem isDecimal_toDigits {n : Nat} (h : n < 2 ^ 64) : isDecimal (Nat.toDigits 10 n) = true := by
  have hlength : (Nat.toDigits 10 n).length ≤ 20 :=
    (Nat.length_toDigits_le_iff (by decide) (by decide)).mpr (Nat.lt_trans h (by decide))
  have hdrop := (List.dropWhile_suffix (l := Nat.toDigits 10 n) (· == '0')).length_le
  rw [isDecimal, readDecimal?_toDigits]
  simp only [isFinite]
  split
  · rfl
  · rw [if_pos (by omega)]

/-- **Digits would be taken for the number.** -/
theorem isResolved_toString {n : Nat} (h : n < 2 ^ 64) : isResolved (toString n) = true := by
  have hsign : ∀ c rest, Nat.toDigits 10 n = c :: rest → isDigit c = true := fun c rest heq =>
    isDigit_of_mem_toDigits (heq ▸ List.mem_cons_self ..)
  have hnumber : isNumber (Nat.toDigits 10 n) = true := by
    rw [isNumber.eq_def]
    split
    · next rest heq => exact absurd (hsign _ _ heq) (by decide)
    · next rest heq => exact absurd (hsign _ _ heq) (by decide)
    · rw [isPadded_toDigits, isDecimal_toDigits h]
      simp
  simp only [isResolved, toList_toString, hnumber, Bool.or_true, Bool.true_or]

/-! ### Words and numbers together -/

/-- **A word or a number.** -/
inductive Atom
  /-- A word. -/
  | word (text : String)
  /-- A natural number. -/
  | number (n : Nat)

namespace Atom

/-- The characters of a word or a number, without quotes. -/
def text : Atom → String
  | word text => text
  | number n => toString n

/-- Whether there are quotes around them. -/
def quoted : Atom → Bool
  | word text => isResolved text
  | number _ => false

/-- The words and numbers which are written. -/
def Valid : Atom → Prop
  | word text => IsWord text
  | number n => n < 2 ^ 64

/-- What is written for a word or a number. -/
def write (a : Atom) : List Char :=
  if a.quoted then '\'' :: (a.text.toList ++ ['\'']) else a.text.toList

theorem isWord_text {a : Atom} (h : a.Valid) : IsWord a.text := by
  cases a with
  | word text => exact h
  | number n => exact isWord_toString n

/-- **Digits without quotes are a number**, and a word is anything else. -/
theorem eq_of_text_eq {a b : Atom} (ha : a.Valid) (hb : b.Valid) (htext : a.text = b.text)
    (hquoted : a.quoted = b.quoted) : a = b := by
  cases a with
  | word s =>
    cases b with
    | word s' => exact congrArg word htext
    | number n =>
      obtain rfl : s = toString n := htext
      have hresolved := isResolved_toString hb
      rw [quoted, quoted, hresolved] at hquoted
      cases hquoted
  | number n =>
    cases b with
    | word s =>
      obtain rfl : toString n = s := htext
      have hresolved := isResolved_toString ha
      rw [quoted, quoted, hresolved] at hquoted
      cases hquoted
    | number n' => exact congrArg number (eq_of_toString_eq htext)

end Atom

/-- Whether a word or a number may begin with a character. -/
def isAtomStart (c : Char) : Bool :=
  isWordChar c || c == '\''

theorem Atom.exists_write {a : Atom} (h : a.Valid) :
    ∃ c rest, isAtomStart c = true ∧ (a.quoted = true ↔ c = '\'') ∧ a.write = c :: rest := by
  obtain ⟨hne, hword⟩ := isWord_text h
  rw [write]
  cases a.quoted with
  | true => exact ⟨'\'', _, rfl, by simp, rfl⟩
  | false =>
    obtain ⟨c, rest, heq⟩ := List.exists_cons_of_ne_nil (String.toList_eq_nil_iff.not.mpr hne)
    have hc : isWordChar c = true := hword c (heq ▸ List.mem_cons_self ..)
    exact ⟨c, rest, by simp [isAtomStart, hc], by simp [ne_of_isWordChar (d := '\'') hc rfl], heq⟩

/-- The script of words and numbers. -/
def atoms : Script Atom where
  write := Atom.write
  valid := Atom.Valid
  follow := NoWordChar
  same := Eq

/-- **Words and numbers are clear.** -/
theorem clear_atom {a : Atom} (ha : a.Valid) : atoms.Clear a := by
  intro b hb rest rest' hrest hrest' heq
  have hquoted : a.quoted = b.quoted := by
    obtain ⟨c, tail, -, hc, hwrite⟩ := Atom.exists_write ha
    obtain ⟨d, tail', -, hd, hwrite'⟩ := Atom.exists_write hb
    change a.write ++ rest = b.write ++ rest' at heq
    rw [hwrite, hwrite', List.cons_append, List.cons_append] at heq
    rw [Bool.eq_iff_iff, hc, hd, (List.cons.inj heq).1]
  -- the characters of the word end where there is none, be it a quote or what follows
  have hword := (Atom.isWord_text ha).2
  have hword' := (Atom.isWord_text hb).2
  change a.write ++ rest = b.write ++ rest' at heq
  rw [Atom.write, Atom.write, ← hquoted] at heq
  have htext : a.text.toList = b.text.toList ∧ rest = rest' := by
    rcases hbare : a.quoted with _ | _
    · rw [hbare] at heq
      exact append_inj_of_forall hword hword' hrest hrest' heq
    · rw [hbare, if_pos rfl, if_pos rfl, List.cons_append, List.cons_append, List.append_assoc,
        List.append_assoc] at heq
      obtain ⟨htext, hends⟩ := append_inj_of_forall hword hword' (noWordChar_cons (by decide) _)
        (noWordChar_cons (by decide) _) (List.cons.inj heq).2
      exact ⟨htext, (List.cons.inj hends).2⟩
  exact ⟨Atom.eq_of_text_eq ha hb (String.toList_inj.mp htext.1) hquoted, htext.2⟩

end ContractSchema.Yaml
