import ContractSchema.Json.Source

/-!
# Written strings and numbers

A character is written in a string as one unit, and this unit is read again
(`ContractSchema.Json.Source.readUnits?_escape`). A text between quotes is therefore read as
the units of its characters (`ContractSchema.Json.Source.readUnits?_quoted`), and it is the
text they stand for (`ContractSchema.Json.Source.string?_unitsOf`).

A natural number is written in digits. They are read up to the end of the number, if what
follows may follow a value (`ContractSchema.Json.Source.readNumeral?_toDigits`); the number
they stand for is the one which was written (`ContractSchema.Json.Source.value?_digitsOf`).
-/

namespace ContractSchema.Json

namespace Source

/-! ### Strings -/

/-- The part of a string that is written for a character. -/
def unitOf (c : Char) : StringUnit :=
  if c ∈ ['"', '\\', '\n', '\r', '\t', '\x08', '\x0c'] then .escaped c
  else if c.toNat < 32 then .code c.toNat
  else .plain c

/-- Puts a unit in front of what has been read. -/
def withUnit (unit : StringUnit) (read : List StringUnit × List Char) :
    List StringUnit × List Char :=
  (unit :: read.1, read.2)

theorem hexValue?_digitChar {n : Nat} (h : n < 16) : hexValue? (Nat.digitChar n) = some n := by
  revert n
  decide

theorem readUnits?_escaped {letter c : Char} (hletter : letter ≠ 'u')
    (h : shortEscape? letter = some c) (input : List Char) :
    readUnits? ('\\' :: letter :: input) =
      (readUnits? input).map (withUnit (.escaped c)) := by
  rw [readUnits?]
  · rw [h]
    rcases readUnits? input with _ | ⟨units, rest⟩ <;> rfl
  · intro a b c d rest heq
    exact absurd heq hletter

theorem readUnits?_code {n : Nat} (h : n < 256) (input : List Char) :
    readUnits? (['\\', 'u', '0', '0', Nat.digitChar (n / 16), Nat.digitChar (n % 16)] ++ input) =
      (readUnits? input).map (withUnit (.code n)) := by
  have hzero : hexValue? '0' = some 0 := by decide
  have hhigh : hexValue? (Nat.digitChar (n / 16)) = some (n / 16) :=
    hexValue?_digitChar (by omega)
  have hlow : hexValue? (Nat.digitChar (n % 16)) = some (n % 16) :=
    hexValue?_digitChar (by omega)
  have hn : 4096 * 0 + 256 * 0 + 16 * (n / 16) + n % 16 = n := by omega
  simp only [List.cons_append, List.nil_append]
  rw [readUnits?]
  rw [hzero, hhigh, hlow]
  simp only [Option.bind_eq_bind, Option.bind_some, hn]
  rcases readUnits? input with _ | ⟨units, rest⟩ <;> rfl

theorem readUnits?_plain {c : Char} (hquote : c ≠ '"') (hbackslash : c ≠ '\\')
    (hcontrol : ¬c.toNat < 32) (input : List Char) :
    readUnits? (c :: input) = (readUnits? input).map (withUnit (.plain c)) := by
  rw [readUnits?]
  · rw [if_neg hcontrol]
    rcases readUnits? input with _ | ⟨units, rest⟩ <;> rfl
  · exact hquote
  · intro a b c d rest heq
    exact absurd heq hbackslash
  · intro c rest heq
    exact absurd heq hbackslash

/-- **What is written for a character is read as one unit.** -/
theorem readUnits?_escape (c : Char) (input : List Char) :
    readUnits? (escape c ++ input) = (readUnits? input).map (withUnit (unitOf c)) := by
  by_cases hshort : c ∈ ['"', '\\', '\n', '\r', '\t', '\x08', '\x0c']
  · rw [unitOf, if_pos hshort]
    simp only [List.mem_cons, List.not_mem_nil, or_false] at hshort
    rcases hshort with rfl | rfl | rfl | rfl | rfl | rfl | rfl <;>
      exact readUnits?_escaped (by decide) (by decide) input
  · rw [unitOf, if_neg hshort]
    simp only [List.mem_cons, List.not_mem_nil, or_false, not_or] at hshort
    obtain ⟨hquote, hbackslash, hn, hr, ht, hb, hf⟩ := hshort
    simp only [escape, hquote, hbackslash, hn, hr, ht, hb, hf, if_false]
    by_cases hcontrol : c.toNat < 32
    · rw [if_pos hcontrol, if_pos hcontrol]
      exact readUnits?_code (by omega) input
    · rw [if_neg hcontrol, if_neg hcontrol]
      exact readUnits?_plain hquote hbackslash hcontrol input

/-- The parts of a string that are written for a text. -/
def unitsOf (text : String) : List StringUnit :=
  text.toList.map unitOf

/-- **A text between quotes is read as its characters.** -/
theorem readUnits?_quoted (text : String) (rest : List Char) :
    readUnits? (text.toList.flatMap escape ++ '"' :: rest) = some (unitsOf text, rest) := by
  rw [unitsOf]
  induction text.toList with
  | nil => rfl
  | cons c characters ih =>
    rw [List.flatMap_cons, List.append_assoc, readUnits?_escape, ih]
    rfl

theorem characters?_unitOf (c : Char) (rest : List StringUnit) :
    characters? (unitOf c :: rest) = (characters? rest).map (c :: ·) := by
  rw [unitOf]
  split
  · rw [characters?]
    rcases characters? rest with _ | characters <;> rfl
  · split
    · next hcontrol =>
      have hhigh : isHighSurrogate c.toNat = false := by
        rw [isHighSurrogate, Bool.and_eq_false_iff, decide_eq_false_iff_not]
        omega
      have hlow : isLowSurrogate c.toNat = false := by
        rw [isLowSurrogate, Bool.and_eq_false_iff, decide_eq_false_iff_not]
        omega
      rw [characters?.eq_def]
      dsimp only
      rw [hhigh, hlow, Char.ofNat_toNat]
      rcases characters? rest with _ | characters <;> rfl
    · rw [characters?]
      rcases characters? rest with _ | characters <;> rfl

/-- **The characters of a text are what its units stand for.** -/
theorem string?_unitsOf (text : String) : string? (unitsOf text) = some text := by
  have hcharacters : characters? (unitsOf text) = some text.toList := by
    rw [unitsOf]
    induction text.toList with
    | nil => rfl
    | cons c characters ih =>
      rw [List.map_cons, characters?_unitOf, ih]
      rfl
  rw [string?, hcharacters, Option.map_some, String.ofList_toList]

/-! ### Integers -/

theorem isDigit_eq (c : Char) : isDigit c = c.isDigit := rfl

/-- A digit stands for itself in a string. -/
theorem unitOf_of_isDigit {c : Char} (h : isDigit c = true) : unitOf c = .plain c := by
  have hshort : c ∉ ['"', '\\', '\n', '\r', '\t', '\x08', '\x0c'] := by
    intro hmem
    simp only [List.mem_cons, List.not_mem_nil, or_false] at hmem
    rcases hmem with rfl | rfl | rfl | rfl | rfl | rfl | rfl <;> exact absurd h (by decide)
  have hcontrol : ¬c.toNat < 32 := by
    rw [isDigit, Bool.and_eq_true, decide_eq_true_iff, decide_eq_true_iff] at h
    omega
  rw [unitOf, if_neg hshort, if_neg hcontrol]

/-- The digits of a natural number. -/
def digitsOf (n : Nat) : List Nat :=
  (Nat.toDigits 10 n).map fun c => c.toNat - 48

theorem isDigit_of_mem_toDigits {n : Nat} {c : Char} (h : c ∈ Nat.toDigits 10 n) :
    isDigit c = true := by
  rw [isDigit_eq]
  exact Nat.isDigit_of_mem_toDigits (by decide) (by decide) h

theorem exists_toDigits (n : Nat) :
    ∃ c front, isDigit c = true ∧ Nat.toDigits 10 n = c :: front := by
  obtain ⟨c, front, hfront⟩ :=
    List.exists_cons_of_ne_nil (Nat.toDigits_ne_nil (n := n) (b := 10))
  exact ⟨c, front, isDigit_of_mem_toDigits (hfront ▸ List.mem_cons_self ..), hfront⟩

/-- Only zero begins with a zero. -/
theorem eq_zero_of_toDigits_eq {n : Nat} {rest : List Char}
    (h : Nat.toDigits 10 n = '0' :: rest) : n = 0 := by
  induction n using Nat.strongRecOn generalizing rest with
  | ind n ih =>
    rcases Nat.lt_or_ge n 10 with hsmall | hlarge
    · rw [Nat.toDigits_of_lt_base hsmall] at h
      exact Nat.digitChar_eq_zero.mp (List.cons.inj h).1
    · rw [Nat.toDigits_of_base_le (by decide) hlarge] at h
      obtain ⟨c, front, hc, hfront⟩ := exists_toDigits (n / 10)
      rw [hfront] at h
      obtain ⟨rfl, -⟩ := List.cons.inj h
      have hzero : n / 10 = 0 := ih (n / 10) (by omega) hfront
      omega

/-- Digits begin with a zero only if there is no other digit. -/
theorem rest_of_digitsOf_eq {n : Nat} {rest : List Nat} (h : digitsOf n = 0 :: rest) : rest = [] := by
  obtain ⟨c, front, hc, hfront⟩ := exists_toDigits n
  rw [digitsOf, hfront, List.map_cons] at h
  obtain ⟨hzero, hrest⟩ := List.cons.inj h
  rw [isDigit, Bool.and_eq_true, decide_eq_true_iff, decide_eq_true_iff] at hc
  obtain rfl : c = '0' := by
    refine Char.toNat_inj.mp ?_
    change c.toNat = 48
    omega
  obtain rfl : n = 0 := eq_zero_of_toDigits_eq hfront
  rw [Nat.toDigits_zero] at hfront
  rw [← hrest, ← (List.cons.inj hfront).2]
  rfl

theorem ofDigits_digitsOf (n : Nat) : Numeral.ofDigits (digitsOf n) = n := by
  have hvalue : Nat.ofDigitChars 10 (Nat.toDigits 10 n) 0 = n := Nat.ofDigitChars_ten_toDigits
  rw [Numeral.ofDigits, digitsOf, List.foldl_map]
  exact hvalue

/-- **What may follow a value** in a text: nothing, blanks, a comma or a closing bracket. -/
def Ends (rest : List Char) : Prop :=
  ∀ c ∈ rest.head?, isBlank c ∨ c ∈ [',', ']', '}']

theorem Ends.head {rest : List Char} (h : Ends rest) {c : Char} (hc : c ∈ rest.head?) :
    isDigit c = false ∧ c ∉ ['.', 'e', 'E'] := by
  rcases h c hc with hblank | hmark
  · simp only [isBlank, Bool.or_eq_true, beq_iff_eq] at hblank
    rcases hblank with ((rfl | rfl) | rfl) | rfl <;> decide
  · simp only [List.mem_cons, List.not_mem_nil, or_false] at hmark
    rcases hmark with rfl | rfl | rfl <;> decide

theorem readDigits?_toDigits {n : Nat} {rest : List Char} (h : Ends rest) :
    readDigits? (Nat.toDigits 10 n ++ rest) = some (digitsOf n, rest) := by
  have hdigits : ∀ c ∈ Nat.toDigits 10 n, isDigit c = true := fun c => isDigit_of_mem_toDigits
  have hrest : rest.takeWhile isDigit = [] ∧ rest.dropWhile isDigit = rest := by
    rcases rest with _ | ⟨c, rest⟩
    · exact ⟨rfl, rfl⟩
    · have hc : isDigit c = false := (h.head rfl).1
      rw [List.takeWhile_cons, List.dropWhile_cons, hc]
      exact ⟨rfl, rfl⟩
  have hne : (digitsOf n).isEmpty = false := by
    rw [digitsOf, List.isEmpty_map, List.isEmpty_eq_false_iff]
    exact Nat.toDigits_ne_nil
  rw [readDigits?, readDigits, List.takeWhile_append_of_pos hdigits,
    List.dropWhile_append_of_pos hdigits, hrest.1, hrest.2, List.append_nil]
  change (if (digitsOf n).isEmpty then none else some (digitsOf n, rest)) = _
  rw [hne]
  rfl

theorem readWhole?_toDigits {n : Nat} {rest : List Char} (h : Ends rest) :
    readWhole? (Nat.toDigits 10 n ++ rest) = some (digitsOf n, rest) := by
  rw [readWhole?.eq_def]
  split
  · next input heq =>
    obtain ⟨c, front, hc, hfront⟩ := exists_toDigits n
    rw [hfront, List.cons_append] at heq
    obtain ⟨rfl, rfl⟩ := List.cons.inj heq
    obtain rfl : n = 0 := eq_zero_of_toDigits_eq hfront
    obtain ⟨-, rfl⟩ := List.cons.inj hfront
    rfl
  · exact readDigits?_toDigits h

/-- **The text of a natural number is read as its digits.** -/
theorem readNumeral?_toDigits {n : Nat} {rest : List Char} (h : Ends rest) :
    readNumeral? (Nat.toDigits 10 n ++ rest) = some (⟨false, digitsOf n, none, none⟩, rest) := by
  have hfraction : readFraction? rest = some (none, rest) := by
    rw [readFraction?.eq_def]
    split
    · next c rest => exact absurd (h.head rfl).2 (by decide)
    · rfl
  have hexponent : readExponent? rest = some (none, rest) := by
    rcases rest with _ | ⟨c, rest⟩
    · rfl
    · have hc := (h.head rfl).2
      simp only [List.mem_cons, List.not_mem_nil, or_false, not_or] at hc
      rw [readExponent?, if_neg (not_or.mpr hc.2)]
  obtain ⟨c, front, hc, hfront⟩ := exists_toDigits n
  have hwhole := readWhole?_toDigits (n := n) h
  rw [hfront, List.cons_append] at hwhole ⊢
  have hsign : c ≠ '-' := by
    rintro rfl
    exact absurd hc (by decide)
  rw [readNumeral?]
  · rw [hwhole]
    simp only [Option.bind_eq_bind, Option.bind_some, hfraction, hexponent]
    rfl
  · intro input heq
    exact hsign (List.cons.inj heq).1

/-- The number that digits stand for. -/
theorem value?_digitsOf {n : Nat} (h : n < UInt64.size) :
    Numeral.value? ⟨false, digitsOf n, none, none⟩ = some (.natural (UInt64.ofNat n)) := by
  have hinteger : Numeral.integer? false (Numeral.ofDigits (digitsOf n)) =
      some (.natural (UInt64.ofNat n)) := by
    rw [ofDigits_digitsOf, Numeral.integer?, if_neg Bool.false_ne_true, if_pos h]
  rw [Numeral.value?]
  dsimp only
  rw [hinteger]

end Source

end ContractSchema.Json
