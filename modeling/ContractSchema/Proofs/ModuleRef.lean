import ContractSchema.ModuleRef
import ContractSchema.Proofs.Text.Hex

/-!
# Texts of references to modules

A reference is written as 64 hexadecimal digits in lower case, and it is read from 64 digits of
either case. Of any other text the first thing that is wrong with it is reported
(`ContractSchema.ModuleRef.Refuses`): it has an odd number of bytes, or one of them is no digit,
or the digits are too few or too many. The digits are counted after they have been read. So a
text of a wrong length is not reported as such if it has anything but digits
(`ContractSchema.ModuleRef.not_forall_invalidLength`).

That reading and writing belong together, and that references have the order of their texts, is
`ContractSchema.ModuleRef.texts_faithful`.
-/

namespace ContractSchema

namespace ModuleRef

/-- The bytes of a text in UTF-8. -/
def bytesOf (text : String) : List UInt8 :=
  text.toByteArray.data.toList

/-- **A text of a reference**: 64 hexadecimal digits of either case. -/
def IsText (text : String) : Prop :=
  text.length = 64 ∧ ∀ c ∈ text.toList, Hex.IsDigit c

instance (text : String) : Decidable (IsText text) :=
  @instDecidableAnd _ _ _ (List.decidableBAll _ _)

/-- **What is wrong with a text** that is not of this form. -/
inductive Refuses (text : String) : HexError → Prop
  /-- The number of bytes is odd. -/
  | oddLength (h : text.utf8ByteSize % 2 = 1) : Refuses text (.oddLength text.utf8ByteSize)
  /-- The number of bytes is even, and this is the first of them that is no digit. -/
  | invalidDigit (h : text.utf8ByteSize % 2 = 0) {before after : List UInt8} {byte : UInt8}
      (htext : bytesOf text = before ++ byte :: after)
      (hbefore : ∀ b ∈ before, Hex.IsDigitByte b) (hbyte : ¬Hex.IsDigitByte byte) :
      Refuses text (.invalidDigit byte)
  /-- There are pairs of digits, but not 32. -/
  | invalidLength (h : text.utf8ByteSize % 2 = 0) (hdigits : ∀ b ∈ bytesOf text, Hex.IsDigitByte b)
      (hlength : text.utf8ByteSize ≠ 64) :
      Refuses text (.invalidLength (text.utf8ByteSize / 2) 32)

/-! ### Writing and reading back -/

theorem ofString_text (ref : ModuleRef) : ofString ref.text = .ok ref := by
  rw [ofString, text, Hex.decode_encode]
  exact dif_pos ref.length_eq

theorem text_of_ofString {text : String} {ref : ModuleRef} (h : ofString text = .ok ref) :
    ref.text = text.map Char.toLower := by
  rw [ofString] at h
  split at h
  · cases h
  · next bytes hbytes =>
    split at h
    · obtain rfl := Except.ok.inj h
      exact Hex.encode_eq_of_decode hbytes
    · cases h

/-! ### What is read and what is refused -/

theorem decode_of_even {text : String} (h : text.utf8ByteSize % 2 = 0) :
    Hex.decode text = Hex.decodePairs (bytesOf text) := by
  have heven : ¬(bytesOf text).length % 2 = 1 := by
    change ¬text.utf8ByteSize % 2 = 1
    omega
  rw [Hex.decode]
  exact if_neg heven

/-- Pairs of digits are read as so many bytes. -/
theorem exists_decode {text : String} (h : text.utf8ByteSize % 2 = 0)
    (hdigits : ∀ b ∈ bytesOf text, Hex.IsDigitByte b) :
    ∃ bytes, Hex.decode text = .ok bytes ∧ bytes.length = text.utf8ByteSize / 2 := by
  rw [decode_of_even h]
  exact Hex.exists_decodePairs hdigits

theorem exists_ofString {text : String} (h : IsText text) : ∃ ref, ofString text = .ok ref := by
  obtain ⟨hsize, hdigits⟩ := Hex.forall_isDigitByte_iff.mpr h
  obtain ⟨bytes, hbytes, hlength⟩ := exists_decode (by rw [hsize]) hdigits
  rw [hsize] at hlength
  refine ⟨⟨bytes, hlength⟩, ?_⟩
  rw [ofString, hbytes]
  exact dif_pos hlength

theorem ofString_of_refuses {text : String} {error : HexError} (h : Refuses text error) :
    ofString text = .error error := by
  cases h with
  | oddLength h =>
    have hdecode : Hex.decode text = .error (.oddLength text.utf8ByteSize) := by
      rw [Hex.decode]
      exact if_pos h
    rw [ofString, hdecode]
  | invalidDigit h htext hbefore hbyte =>
    have heven : (bytesOf text).length % 2 = 0 := h
    rw [htext] at heven
    rw [ofString, decode_of_even h, htext,
      Hex.decodePairs_of_not_isDigitByte heven hbefore hbyte]
  | invalidLength h hdigits hlength =>
    obtain ⟨bytes, hbytes, hhalf⟩ := exists_decode h hdigits
    have hne : ¬bytes.length = 32 := by omega
    rw [ofString, hbytes, ← hhalf]
    exact dif_neg hne

/-- **Either there is something wrong with a text or it is that of a reference.** -/
theorem refuses_or_isText (text : String) : (∃ error, Refuses text error) ∨ IsText text := by
  rcases Nat.mod_two_eq_zero_or_one text.utf8ByteSize with heven | hodd
  · by_cases hdigits : ∀ b ∈ bytesOf text, Hex.IsDigitByte b
    · rcases eq_or_ne text.utf8ByteSize 64 with hsize | hsize
      · exact Or.inr (Hex.forall_isDigitByte_iff.mp ⟨hsize, hdigits⟩)
      · exact Or.inl ⟨_, .invalidLength heven hdigits hsize⟩
    · obtain ⟨before, byte, after, htext, hbefore, hbyte⟩ := Hex.exists_first_of_not_forall hdigits
      exact Or.inl ⟨_, .invalidDigit heven htext hbefore hbyte⟩
  · exact Or.inl ⟨_, .oddLength hodd⟩

theorem exists_ofString_iff {text : String} :
    (∃ ref, ofString text = .ok ref) ↔ IsText text := by
  refine ⟨fun ⟨ref, href⟩ => ?_, exists_ofString⟩
  refine (refuses_or_isText text).resolve_left fun ⟨error, herror⟩ => ?_
  rw [ofString_of_refuses herror] at href
  cases href

theorem ofString_eq_error_iff {text : String} {error : HexError} :
    ofString text = .error error ↔ Refuses text error := by
  refine ⟨fun h => ?_, ofString_of_refuses⟩
  rcases refuses_or_isText text with ⟨error', herror⟩ | htext
  · rw [ofString_of_refuses herror] at h
    rwa [← Except.error.inj h]
  · obtain ⟨ref, href⟩ := exists_ofString htext
    rw [href] at h
    cases h

/-! ### Order -/

theorem compareBytes_eq_compare (as bs : List UInt8) :
    compareBytes as bs = Ord.compare as bs := by
  induction as generalizing bs with
  | nil => cases bs <;> rfl
  | cons a as ih =>
    cases bs with
    | nil => rfl
    | cons b bs =>
      rw [compareBytes, ih, List.compare_cons_cons, UInt8.compare_eq_toNat_compare_toNat]

theorem bytesOf_text (ref : ModuleRef) : bytesOf ref.text = ref.bytes.flatMap Hex.symbols := by
  rw [bytesOf, text, Hex.encode, toList_toByteArray_eq, String.toList_ofList,
    Hex.flatMap_encodeByte]

theorem compare_eq_compare_bytesOf (a b : ModuleRef) :
    a.compare b = Ord.compare (bytesOf a.text) (bytesOf b.text) := by
  rw [compare, compareBytes_eq_compare, bytesOf_text, bytesOf_text, Hex.compare_flatMap_symbols]

/-! ### Texts and references -/

/-- **Texts are faithful to references.** What is written of a reference is read back as this
reference. A text is read if it consists of 64 hexadecimal digits of either case, and written
again these are in lower case. What is reported of any other text is the first thing that is
wrong with it: an odd number of bytes, a byte that is no digit, the number of the digits.
References are in the order in which their texts are, byte by byte. -/
theorem texts_faithful :
    (∀ ref : ModuleRef, ofString ref.text = .ok ref) ∧
    (∀ text, (∃ ref, ofString text = .ok ref) ↔ IsText text) ∧
    (∀ text ref, ofString text = .ok ref → ref.text = text.map Char.toLower) ∧
    (∀ text error, ofString text = .error error ↔ Refuses text error) ∧
    ∀ a b : ModuleRef, a.compare b = Ord.compare (bytesOf a.text) (bytesOf b.text) :=
  ⟨ofString_text, fun _ => exists_ofString_iff, fun _ _ => text_of_ofString,
    fun _ _ => ofString_eq_error_iff, compare_eq_compare_bytesOf⟩

/-- A text in both cases, and three others: one of them has a letter of two bytes behind its
digits. -/
theorem texts_faithful_both_cases :
    (∃ ref,
      ofString "1D4538B8A9F690E56A5A07E827644695890e177ad1f58dba422d9e19de3ceebb" = .ok ref ∧
      ref.text = "1d4538b8a9f690e56a5a07e827644695890e177ad1f58dba422d9e19de3ceebb") ∧
    ofString "1D4" = .error (.oddLength 3) ∧
    ofString "1Dé" = .error (.invalidDigit 195) ∧
    ofString "1D45" = .error (.invalidLength 2 32) := by
  obtain ⟨-, hread, hlower, hrefused, -⟩ := texts_faithful
  refine ⟨?_, (hrefused _ _).mpr (.oddLength (by decide)), ?_,
    (hrefused _ _).mpr (.invalidLength (by decide) (by decide) (by decide))⟩
  · have htext : IsText "1D4538B8A9F690E56A5A07E827644695890e177ad1f58dba422d9e19de3ceebb" := by
      decide +kernel
    obtain ⟨ref, href⟩ := (hread _).mpr htext
    refine ⟨ref, href, ?_⟩
    rw [hlower _ ref href]
    decide +kernel
  · have hbytes : bytesOf "1Dé" = [49, 68] ++ 195 :: [169] := by decide
    exact (hrefused _ _).mpr (.invalidDigit (by decide) hbytes (by decide) (by decide))

/-- **The digits are not counted first**: not every text of a wrong even number of bytes is
refused for that, whichever number would be reported. -/
theorem not_forall_invalidLength :
    ¬∀ text : String, text.utf8ByteSize % 2 = 0 → text.utf8ByteSize ≠ 64 →
      ∃ length, ofString text = .error (.invalidLength length 32) := by
  intro h
  obtain ⟨length, hlength⟩ := h "oops" (by decide) (by decide)
  have hdigit : ofString "oops" = .error (.invalidDigit 111) := by
    decide
  rw [hdigit] at hlength
  cases hlength

end ModuleRef

end ContractSchema
