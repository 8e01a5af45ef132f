import ContractSchema.Proofs.Contract
import ContractSchema.Proofs.Names

/-!
# Which texts are names

Names of entrypoints are the texts of at most 99 bytes whose characters are visible, names of
contracts those of 1 to 95 bytes without a dot. For any other text the rule it breaks is
reported, the first one in this order: a contract name is not empty, it is not too long, its
characters are visible, it has no dot.

Two of these rules are common to both sorts of names. What is reported of a text which breaks
one of them (`ContractSchema.Oversteps`) is therefore said once, for any limit of the length; the
rules of either sort are `ContractSchema.EntrypointName.Breaks` and
`ContractSchema.ContractName.Breaks`. That checking a text reports exactly what it breaks is
`ContractSchema.names_checked_exactly`.
-/

namespace ContractSchema

/-! ### Rules -/

/-- **A visible character** is one of those of ASCII from `!` to `~`. -/
def IsVisible (c : Char) : Prop :=
  0x21 ≤ c.toNat ∧ c.toNat ≤ 0x7E

theorem isNameChar_iff_isVisible {c : Char} : isNameChar c = true ↔ IsVisible c :=
  isNameChar_iff

/-- **What a text breaks** of the rules that names have in common: it has at most as many bytes
as the limit says, and all its characters are visible. -/
inductive Oversteps (limit : Nat) (text : String) : NameError → Prop
  /-- The text takes more bytes than allowed, whatever its characters are. -/
  | tooLong (h : limit < text.utf8ByteSize) : Oversteps limit text (.tooLong text limit)
  /-- The text is short enough, and this is the first of its characters that is not visible. -/
  | invalidChar (h : text.utf8ByteSize ≤ limit) {before after : List Char} {c : Char}
      (htext : text.toList = before ++ c :: after) (hbefore : ∀ b ∈ before, IsVisible b)
      (hc : ¬IsVisible c) : Oversteps limit text (.invalidChar text c)

/-- **What a text breaks** of the rules for names of entrypoints. -/
def EntrypointName.Breaks (text : String) (error : NameError) : Prop :=
  Oversteps 99 text error

/-- **What a text breaks** of the rules for names of contracts. -/
inductive ContractName.Breaks (text : String) : NameError → Prop
  /-- The text is empty. -/
  | empty (h : text = "") : Breaks text .empty
  /-- There is a text, but it is too long or has characters that are not visible. -/
  | oversteps {error : NameError} (h : text ≠ "") (herror : Oversteps 95 text error) :
      Breaks text error
  /-- There is nothing wrong but that the text has a dot. -/
  | containsDot (h : text.utf8ByteSize ≤ 95) (hchars : ∀ c ∈ text.toList, IsVisible c)
      (hdot : '.' ∈ text.toList) : Breaks text (.containsDot text)

/-! ### Characters -/

/-- The search for a character that names must not contain finds the first one. -/
theorem find?_not_isNameChar_iff {chars : List Char} {c : Char} :
    chars.find? (fun c => !isNameChar c) = some c ↔
      ¬IsVisible c ∧ ∃ before after, chars = before ++ c :: after ∧
        ∀ b ∈ before, IsVisible b := by
  rw [List.find?_eq_some_iff_append]
  simp only [Bool.not_eq_true', Bool.not_not, isNameChar_iff_isVisible, ← Bool.not_eq_true]

theorem find?_not_isNameChar_eq_none_iff {chars : List Char} :
    chars.find? (fun c => !isNameChar c) = none ↔ ∀ c ∈ chars, IsVisible c := by
  simp only [List.find?_eq_none, Bool.not_eq_true', Bool.not_eq_false, isNameChar_iff_isVisible]

/-! ### Entrypoints -/

namespace EntrypointName

theorem isValid_iff {text : String} :
    IsValid text ↔ text.utf8ByteSize ≤ 99 ∧ ∀ c ∈ text.toList, IsVisible c := by
  simp only [IsValid, maxLength, isNameChar_iff_isVisible]

/-- **What is reported is what the text breaks.** -/
theorem ofString_eq_error_iff {text : String} {error : NameError} :
    ofString text = .error error ↔ Breaks text error := by
  constructor
  · intro h
    rw [ofString] at h
    split at h
    · next hlong =>
      obtain rfl := Except.error.inj h
      exact .tooLong hlong
    · next hshort =>
      split at h
      · next c hfind =>
        obtain rfl := Except.error.inj h
        obtain ⟨hc, before, after, htext, hbefore⟩ := find?_not_isNameChar_iff.mp hfind
        exact .invalidChar (Nat.not_lt.mp hshort) htext hbefore hc
      · cases h
  · intro h
    rw [ofString]
    cases h with
    | tooLong hlong => exact dif_pos hlong
    | @invalidChar hshort before after c htext hbefore hc =>
      have hlength : ¬maxLength < text.utf8ByteSize := Nat.not_lt.mpr hshort
      have hfind := find?_not_isNameChar_iff.mpr ⟨hc, before, after, htext, hbefore⟩
      rw [dif_neg hlength]
      split
      · next c' hfind' =>
        obtain rfl : c' = c := Option.some.inj (hfind'.symm.trans hfind)
        rfl
      · next hnone => exact absurd (hnone.symm.trans hfind) (by simp)

end EntrypointName

/-! ### Contracts -/

namespace ContractName

theorem isValid_iff {text : String} :
    IsValid text ↔ (1 ≤ text.utf8ByteSize ∧ text.utf8ByteSize ≤ 95) ∧
      (∀ c ∈ text.toList, IsVisible c) ∧ '.' ∉ text.toList := by
  have hempty : 1 ≤ text.utf8ByteSize ↔ text ≠ "" := by
    rw [Nat.one_le_iff_ne_zero, ne_eq, String.utf8ByteSize_eq_zero_iff]
  simp only [IsValid, maxLength, isNameChar_iff_isVisible, hempty, and_assoc]

/-- **What is reported is what the text breaks.** -/
theorem ofString_eq_error_iff {text : String} {error : NameError} :
    ofString text = .error error ↔ Breaks text error := by
  constructor
  · intro h
    rw [ofString] at h
    split at h
    · next hempty =>
      obtain rfl := Except.error.inj h
      exact .empty hempty
    · next hne =>
      split at h
      · next hlong =>
        obtain rfl := Except.error.inj h
        exact .oversteps hne (.tooLong hlong)
      · next hshort =>
        split at h
        · next c hfind =>
          obtain rfl := Except.error.inj h
          obtain ⟨hc, before, after, htext, hbefore⟩ := find?_not_isNameChar_iff.mp hfind
          exact .oversteps hne (.invalidChar (Nat.not_lt.mp hshort) htext hbefore hc)
        · next hnone =>
          split at h
          · next hdot =>
            obtain rfl := Except.error.inj h
            exact .containsDot (Nat.not_lt.mp hshort)
              (find?_not_isNameChar_eq_none_iff.mp hnone) hdot
          · cases h
  · intro h
    rw [ofString]
    cases h with
    | empty hempty => exact dif_pos hempty
    | oversteps hne herror =>
      rw [dif_neg hne]
      cases herror with
      | tooLong hlong => exact dif_pos hlong
      | @invalidChar hshort before after c htext hbefore hc =>
        have hlength : ¬maxLength < text.utf8ByteSize := Nat.not_lt.mpr hshort
        have hfind := find?_not_isNameChar_iff.mpr ⟨hc, before, after, htext, hbefore⟩
        rw [dif_neg hlength]
        split
        · next c' hfind' =>
          obtain rfl : c' = c := Option.some.inj (hfind'.symm.trans hfind)
          rfl
        · next hnone => exact absurd (hnone.symm.trans hfind) (by simp)
    | containsDot hshort hchars hdot =>
      have hlength : ¬maxLength < text.utf8ByteSize := Nat.not_lt.mpr hshort
      have hnone := find?_not_isNameChar_eq_none_iff.mpr hchars
      have hne : text ≠ "" := by
        rintro rfl
        exact absurd hdot (by simp)
      rw [dif_neg hne, dif_neg hlength]
      split
      · next c hfind => exact absurd (hnone.symm.trans hfind) (by simp)
      · exact dif_pos hdot

end ContractName

/-! ### Both sorts of names -/

/-- **Names are checked exactly.** A text becomes the name of an entrypoint, unchanged, if it has
at most 99 bytes and all its characters are visible. It becomes the name of a contract if it has 1
to 95 bytes, all its characters are visible and none of them is a dot. In all other cases the
first rule it breaks is reported. -/
theorem names_checked_exactly (text : String) :
    ((∃ name, EntrypointName.ofString text = .ok name) ↔
      text.utf8ByteSize ≤ 99 ∧ ∀ c ∈ text.toList, IsVisible c) ∧
    (∀ name, EntrypointName.ofString text = .ok name → name.text = text) ∧
    (∀ error, EntrypointName.ofString text = .error error ↔ EntrypointName.Breaks text error) ∧
    ((∃ name, ContractName.ofString text = .ok name) ↔
      (1 ≤ text.utf8ByteSize ∧ text.utf8ByteSize ≤ 95) ∧
        (∀ c ∈ text.toList, IsVisible c) ∧ '.' ∉ text.toList) ∧
    (∀ name, ContractName.ofString text = .ok name → name.text = text) ∧
    ∀ error, ContractName.ofString text = .error error ↔ ContractName.Breaks text error := by
  refine ⟨?_, fun _ => EntrypointName.ofString_eq_ok_iff.mp,
    fun _ => EntrypointName.ofString_eq_error_iff, ?_, fun _ => ContractName.ofString_eq_ok_iff.mp,
    fun _ => ContractName.ofString_eq_error_iff⟩
  · exact EntrypointName.exists_ofString_eq_ok_iff.trans EntrypointName.isValid_iff
  · exact ContractName.exists_ofString_eq_ok_iff.trans ContractName.isValid_iff

/-- A text with a dot and with two characters that are not visible: the first of these is
reported. Without them it is the name of an entrypoint, but not of a contract. -/
theorem names_checked_exactly_dotted :
    ContractName.ofString "a.é b" = .error (.invalidChar "a.é b" 'é') ∧
      EntrypointName.ofString "a.é b" = .error (.invalidChar "a.é b" 'é') ∧
      ContractName.ofString "a.b" = .error (.containsDot "a.b") ∧
      ∃ name, EntrypointName.ofString "a.b" = .ok name ∧ name.text = "a.b" := by
  obtain ⟨-, -, hentrypoint, -, -, hcontract⟩ := names_checked_exactly "a.é b"
  obtain ⟨hvalid, hsame, -, -, -, hcontract'⟩ := names_checked_exactly "a.b"
  have hsplit : "a.é b".toList = ['a', '.'] ++ 'é' :: [' ', 'b'] := by decide
  have hfront : ∀ c ∈ ['a', '.'], IsVisible c := by simp [IsVisible]
  have hletter : ¬IsVisible 'é' := by simp [IsVisible]
  refine ⟨(hcontract _).mpr (.oversteps (by decide) (.invalidChar (by decide) hsplit hfront hletter)),
    (hentrypoint _).mpr (.invalidChar (by decide) hsplit hfront hletter),
    (hcontract' _).mpr (.containsDot (by decide) (by simp [IsVisible]) (by decide)), ?_⟩
  obtain ⟨name, hname⟩ := hvalid.mpr ⟨by decide, by simp [IsVisible]⟩
  exact ⟨name, hname, hsame name hname⟩

end ContractSchema
