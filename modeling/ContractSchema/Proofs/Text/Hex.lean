import ContractSchema.Proofs.Steps
import ContractSchema.Proofs.Text.Characters
import ContractSchema.Text.Hex

/-!
# Hexadecimal text there and back

What is written is read back (`ContractSchema.Hex.decode_encode`). The other way round the
case of the digits is lost: a text that is read as bytes has their hexadecimal form as its
lower-case form (`ContractSchema.Hex.encode_eq_of_decode`). For this the bytes of a text are
traced back to its characters (`ContractSchema.map_ofNat_flatMap_utf8EncodeChar`).

Digits of either case are read wherever they stand, and of the bytes that are no digits the
first one is reported (`ContractSchema.Hex.exists_decodePairs`,
`ContractSchema.Hex.decodePairs_of_not_isDigitByte`). The digits that are written have the
order of their values, so texts have the order of the bytes they stand for
(`ContractSchema.Hex.compare_flatMap_symbols`).
-/

namespace ContractSchema

namespace Hex

/-! ### Reading what is written -/

theorem digit_lt : ∀ n < 16, (digit n).toNat < 128 := by
  decide

theorem digitValue?_digit : ∀ n < 16, digitValue? (UInt8.ofNat (digit n).toNat) = some n := by
  decide

/-- The digits of a byte as bytes. -/
def symbols (byte : UInt8) : List UInt8 :=
  [UInt8.ofNat (digit (byte.toNat / 16)).toNat, UInt8.ofNat (digit (byte.toNat % 16)).toNat]

theorem flatMap_encodeByte (bytes : List UInt8) :
    (bytes.flatMap encodeByte).flatMap String.utf8EncodeChar = bytes.flatMap symbols := by
  induction bytes with
  | nil => rfl
  | cons byte bytes ih =>
    have hbyte : byte.toNat < 256 := byte.toNat_lt
    have hhigh := utf8EncodeChar_of_lt (digit_lt (byte.toNat / 16) (by omega))
    have hlow := utf8EncodeChar_of_lt (digit_lt (byte.toNat % 16) (by omega))
    rw [List.flatMap_cons, List.flatMap_append, ih, List.flatMap_cons, encodeByte,
      List.flatMap_cons, List.flatMap_cons, hhigh, hlow]
    rfl

theorem decodePairs_symbols (bytes : List UInt8) :
    decodePairs (bytes.flatMap symbols) = .ok bytes := by
  induction bytes with
  | nil => rfl
  | cons byte bytes ih =>
    have hbyte : byte.toNat < 256 := byte.toNat_lt
    have hhigh := digitValue?_digit (byte.toNat / 16) (by omega)
    have hlow := digitValue?_digit (byte.toNat % 16) (by omega)
    have hsum : UInt8.ofNat (16 * (byte.toNat / 16) + byte.toNat % 16) = byte := by
      rw [Nat.div_add_mod, UInt8.ofNat_toNat]
    rw [List.flatMap_cons, symbols, List.cons_append, List.cons_append, List.nil_append,
      decodePairs, digitValue, digitValue, hhigh, hlow, ih]
    change Except.ok (UInt8.ofNat (16 * (byte.toNat / 16) + byte.toNat % 16) :: bytes) = _
    rw [hsum]

theorem length_flatMap_symbols (bytes : List UInt8) :
    (bytes.flatMap symbols).length = 2 * bytes.length := by
  induction bytes with
  | nil => rfl
  | cons byte bytes ih =>
    rw [List.flatMap_cons, List.length_append, ih, List.length_cons, symbols]
    simp only [List.length_cons, List.length_nil]
    omega

/-- **What is written is read back.** -/
theorem decode_encode (bytes : List UInt8) : decode (encode bytes) = .ok bytes := by
  have hsymbols : (encode bytes).toByteArray.data.toList = bytes.flatMap symbols := by
    rw [toList_toByteArray_eq, encode, String.toList_ofList, flatMap_encodeByte]
  have heven : ¬ (bytes.flatMap symbols).length % 2 = 1 := by
    rw [length_flatMap_symbols]
    omega
  simp only [decode, hsymbols]
  rw [if_neg heven, decodePairs_symbols]

/-! ### Writing what is read -/

/-- What a digit that is read stands for: it is a single character, and in lower case it is
the digit that is written. -/
theorem digit_of_digitValue? : ∀ n < 256, ∀ value ∈ digitValue? (UInt8.ofNat n),
    n < 128 ∧ value < 16 ∧ digit value = (Char.ofNat n).toLower := by
  decide +kernel

theorem digitValue_eq_ok {byte : UInt8} {value : Nat} (h : digitValue byte = .ok value) :
    byte.toNat < 128 ∧ value < 16 ∧ digit value = (Char.ofNat byte.toNat).toLower := by
  rw [digitValue] at h
  split at h
  · next v hv =>
    obtain rfl := Except.ok.inj h
    refine digit_of_digitValue? byte.toNat byte.toNat_lt v ?_
    rw [UInt8.ofNat_toNat]
    exact hv
  · exact absurd h (by simp)

theorem encodeByte_ofNat {high low : Nat} (hhigh : high < 16) (hlow : low < 16) :
    encodeByte (UInt8.ofNat (16 * high + low)) = [digit high, digit low] := by
  have hsum : (UInt8.ofNat (16 * high + low)).toNat = 16 * high + low :=
    UInt8.toNat_ofNat_of_lt' (by change _ < 256; omega)
  have hdiv : (16 * high + low) / 16 = high := by omega
  have hmod : (16 * high + low) % 16 = low := by omega
  rw [encodeByte, hsum, hdiv, hmod]

/-- What is read in pairs is all digits, and in lower case they are those of the bytes. -/
theorem decodePairs_eq_ok {digits bytes : List UInt8} (heven : digits.length % 2 = 0)
    (h : decodePairs digits = .ok bytes) :
    (∀ byte ∈ digits, byte.toNat < 128) ∧
      bytes.flatMap encodeByte = digits.map fun byte => (Char.ofNat byte.toNat).toLower := by
  induction digits using decodePairs.induct generalizing bytes with
  | case1 first second rest ih =>
    rw [decodePairs] at h
    obtain ⟨high, hhigh, h⟩ := except_bind_eq_ok.mp h
    obtain ⟨low, hlow, h⟩ := except_bind_eq_ok.mp h
    obtain ⟨others, hothers, h⟩ := except_bind_eq_ok.mp h
    obtain rfl : UInt8.ofNat (16 * high + low) :: others = bytes := Except.ok.inj h
    obtain ⟨hfirst, hhigh, hdigit⟩ := digitValue_eq_ok hhigh
    obtain ⟨hsecond, hlow, hdigit'⟩ := digitValue_eq_ok hlow
    have heven' : rest.length % 2 = 0 := by
      simp only [List.length_cons] at heven
      omega
    obtain ⟨hrest, htext⟩ := ih heven' hothers
    refine ⟨?_, ?_⟩
    · simp only [List.forall_mem_cons]
      exact ⟨hfirst, hsecond, hrest⟩
    · rw [List.flatMap_cons, encodeByte_ofNat hhigh hlow, htext, hdigit, hdigit']
      rfl
  | case2 digits hshort =>
    rcases digits with _ | ⟨first, _ | ⟨second, rest⟩⟩
    · obtain rfl : [] = bytes := Except.ok.inj h
      exact ⟨fun byte hbyte => absurd hbyte List.not_mem_nil, rfl⟩
    · simp at heven
    · exact absurd rfl (hshort first second rest)

/-- **The hexadecimal form of what is read** is the text in lower case. -/
theorem encode_eq_of_decode {text : String} {bytes : List UInt8} (h : decode text = .ok bytes) :
    encode bytes = text.map Char.toLower := by
  rw [decode] at h
  split at h
  · exact absurd h (by simp)
  · next hodd =>
    have heven : text.toByteArray.data.toList.length % 2 = 0 := by omega
    obtain ⟨hlt, htext⟩ := decodePairs_eq_ok heven h
    rw [toList_toByteArray_eq] at hlt htext
    have hchars := map_ofNat_flatMap_utf8EncodeChar hlt
    refine String.toList_inj.mp ?_
    have hlower : (text.toList.flatMap String.utf8EncodeChar).map
        (fun byte => (Char.ofNat byte.toNat).toLower) = text.toList.map Char.toLower := by
      rw [← congrArg (List.map Char.toLower) hchars, List.map_map]
      rfl
    rw [encode, String.toList_ofList, String.toList_map, htext, hlower]

/-! ### Digits of either case -/

/-- **A hexadecimal digit** of either case. -/
def IsDigit (c : Char) : Prop :=
  ('0' ≤ c ∧ c ≤ '9') ∨ ('a' ≤ c ∧ c ≤ 'f') ∨ ('A' ≤ c ∧ c ≤ 'F')

instance : DecidablePred IsDigit := fun c =>
  inferInstanceAs (Decidable (('0' ≤ c ∧ c ≤ '9') ∨ ('a' ≤ c ∧ c ≤ 'f') ∨ ('A' ≤ c ∧ c ≤ 'F')))

/-- A byte that is such a digit. -/
def IsDigitByte (byte : UInt8) : Prop :=
  IsDigit (Char.ofNat byte.toNat)

instance : DecidablePred IsDigitByte := fun byte =>
  inferInstanceAs (Decidable (IsDigit (Char.ofNat byte.toNat)))

/-- Of given bytes this is decided one by one, and not of all bytes that there are. -/
instance (bytes : List UInt8) : Decidable (∀ b ∈ bytes, IsDigitByte b) :=
  List.decidableBAll _ _

theorem lt_of_isDigit_ofNat : ∀ n < 256, IsDigit (Char.ofNat n) → n < 128 := by
  decide +kernel

theorem toNat_lt_of_isDigit {c : Char} (h : IsDigit c) : c.toNat < 128 := by
  have hle : c.toNat ≤ 'f'.toNat := by
    rcases h with ⟨-, h⟩ | ⟨-, h⟩ | ⟨-, h⟩
    · exact Nat.le_trans h (by decide)
    · exact h
    · exact Nat.le_trans h (by decide)
  exact Nat.lt_of_le_of_lt hle (by decide)

/-- **A text of digits** has a byte for each of them. -/
theorem forall_isDigitByte_iff {text : String} {length : Nat} :
    (text.utf8ByteSize = length ∧ ∀ byte ∈ text.toByteArray.data.toList, IsDigitByte byte) ↔
      text.length = length ∧ ∀ c ∈ text.toList, IsDigit c := by
  have hsize : text.toByteArray.data.toList.length = text.utf8ByteSize := rfl
  rw [← hsize, ← String.length_toList]
  constructor
  · rintro ⟨hlength, hdigits⟩
    have hlt : ∀ byte ∈ text.toByteArray.data.toList, byte.toNat < 128 := fun byte hbyte =>
      lt_of_isDigit_ofNat byte.toNat byte.toNat_lt (hdigits byte hbyte)
    have htext := congrArg String.toList ((toByteArray_eq_iff hlt).mp rfl)
    rw [String.toList_ofList] at htext
    rw [htext, List.length_map, List.forall_mem_map]
    exact ⟨hlength, hdigits⟩
  · rintro ⟨hlength, hdigits⟩
    have hlt : ∀ c ∈ text.toList, c.toNat < 128 := fun c hc => toNat_lt_of_isDigit (hdigits c hc)
    rw [toList_toByteArray_of_lt hlt, List.length_map, List.forall_mem_map]
    refine ⟨hlength, fun c hc => ?_⟩
    have hbyte : (UInt8.ofNat c.toNat).toNat = c.toNat :=
      UInt8.toNat_ofNat_of_lt' (Nat.lt_trans (hlt c hc) (by decide))
    rw [IsDigitByte, hbyte, Char.ofNat_toNat]
    exact hdigits c hc

/-- Of the bytes that are no digits one is the first. -/
theorem exists_first_of_not_forall {bytes : List UInt8} (h : ¬∀ b ∈ bytes, IsDigitByte b) :
    ∃ before byte after, bytes = before ++ byte :: after ∧ (∀ b ∈ before, IsDigitByte b) ∧
      ¬IsDigitByte byte := by
  rcases hfind : bytes.find? (fun b => !decide (IsDigitByte b)) with _ | byte
  · refine absurd (fun b hb => ?_) h
    simpa using List.find?_eq_none.mp hfind b hb
  · obtain ⟨hbyte, before, after, hbytes, hbefore⟩ := List.find?_eq_some_iff_append.mp hfind
    exact ⟨before, byte, after, hbytes, by simpa using hbefore, by simpa using hbyte⟩

/-! ### What is refused -/

theorem isSome_digitValue?_ofNat_iff : ∀ n < 256,
    (digitValue? (UInt8.ofNat n)).isSome = true ↔ IsDigit (Char.ofNat n) := by
  decide +kernel

theorem isSome_digitValue?_iff {byte : UInt8} :
    (digitValue? byte).isSome = true ↔ IsDigitByte byte := by
  have h := isSome_digitValue?_ofNat_iff byte.toNat byte.toNat_lt
  rwa [UInt8.ofNat_toNat] at h

theorem exists_digitValue {byte : UInt8} (h : IsDigitByte byte) :
    ∃ value, digitValue byte = .ok value := by
  obtain ⟨value, hvalue⟩ := Option.isSome_iff_exists.mp (isSome_digitValue?_iff.mpr h)
  exact ⟨value, by rw [digitValue, hvalue]⟩

theorem digitValue_of_not_isDigitByte {byte : UInt8} (h : ¬IsDigitByte byte) :
    digitValue byte = .error (.invalidDigit byte) := by
  have hnone : digitValue? byte = none :=
    Option.not_isSome_iff_eq_none.mp (isSome_digitValue?_iff.not.mpr h)
  rw [digitValue, hnone]

/-- Digits are read, two for each byte. -/
theorem exists_decodePairs {digits : List UInt8} (h : ∀ byte ∈ digits, IsDigitByte byte) :
    ∃ bytes, decodePairs digits = .ok bytes ∧ bytes.length = digits.length / 2 := by
  induction digits using decodePairs.induct with
  | case1 first second rest ih =>
    simp only [List.forall_mem_cons] at h
    obtain ⟨high, hhigh⟩ := exists_digitValue h.1
    obtain ⟨low, hlow⟩ := exists_digitValue h.2.1
    obtain ⟨bytes, hbytes, hlength⟩ := ih h.2.2
    refine ⟨UInt8.ofNat (16 * high + low) :: bytes, ?_, ?_⟩
    · rw [decodePairs, hhigh, hlow, hbytes]
      rfl
    · simp only [List.length_cons, hlength]
      omega
  | case2 digits hshort =>
    rcases digits with _ | ⟨first, _ | ⟨second, rest⟩⟩
    · exact ⟨[], rfl, rfl⟩
    · exact ⟨[], rfl, by simp⟩
    · exact absurd rfl (hshort first second rest)

/-- The first byte that is no digit is reported. -/
theorem decodePairs_of_not_isDigitByte {before after : List UInt8} {byte : UInt8}
    (heven : (before ++ byte :: after).length % 2 = 0) (hbefore : ∀ b ∈ before, IsDigitByte b)
    (h : ¬IsDigitByte byte) :
    decodePairs (before ++ byte :: after) = .error (.invalidDigit byte) := by
  have hbyte := digitValue_of_not_isDigitByte h
  induction before using decodePairs.induct with
  | case1 first second rest ih =>
    simp only [List.forall_mem_cons] at hbefore
    obtain ⟨high, hhigh⟩ := exists_digitValue hbefore.1
    obtain ⟨low, hlow⟩ := exists_digitValue hbefore.2.1
    have heven' : (rest ++ byte :: after).length % 2 = 0 := by
      simp only [List.cons_append, List.length_cons] at heven
      omega
    rw [List.cons_append, List.cons_append, decodePairs, hhigh, hlow, ih heven' hbefore.2.2]
    rfl
  | case2 before hshort =>
    rcases before with _ | ⟨first, _ | ⟨second, rest⟩⟩
    · -- the digit in front of a partner
      rcases after with _ | ⟨second, rest⟩
      · simp at heven
      · rw [List.nil_append, decodePairs, hbyte]
        rfl
    · obtain ⟨high, hhigh⟩ := exists_digitValue (hbefore first (List.mem_cons_self ..))
      rw [List.singleton_append, decodePairs, hhigh, hbyte]
      rfl
    · exact absurd rfl (hshort first second rest)

/-! ### Order -/

theorem compare_digit : ∀ i < 16, ∀ j < 16,
    compare (UInt8.ofNat (digit i).toNat) (UInt8.ofNat (digit j).toNat) = compare i j := by
  decide

theorem compare_halves (a b : Nat) :
    (compare (a / 16) (b / 16)).then (compare (a % 16) (b % 16)) = compare a b := by
  rcases Nat.lt_trichotomy (a / 16) (b / 16) with hlt | heq | hgt
  · have hlt' : a < b := by omega
    rw [Nat.compare_eq_lt.mpr hlt, Nat.compare_eq_lt.mpr hlt']
    rfl
  · rw [Nat.compare_eq_eq.mpr heq, Ordering.eq_then]
    rcases Nat.lt_trichotomy (a % 16) (b % 16) with hlt | heq' | hgt
    · have hlt' : a < b := by omega
      rw [Nat.compare_eq_lt.mpr hlt, Nat.compare_eq_lt.mpr hlt']
    · have heq'' : a = b := by omega
      rw [Nat.compare_eq_eq.mpr heq', Nat.compare_eq_eq.mpr heq'']
    · have hgt' : b < a := by omega
      rw [Nat.compare_eq_gt.mpr hgt, Nat.compare_eq_gt.mpr hgt']
  · have hgt' : b < a := by omega
    rw [Nat.compare_eq_gt.mpr hgt, Nat.compare_eq_gt.mpr hgt']
    rfl

/-- **Digits are in the order of the bytes they stand for.** -/
theorem compare_flatMap_symbols (as bs : List UInt8) :
    compare (as.flatMap symbols) (bs.flatMap symbols) = compare as bs := by
  induction as generalizing bs with
  | nil =>
    cases bs with
    | nil => rfl
    | cons b bs => rfl
  | cons a as ih =>
    cases bs with
    | nil => rfl
    | cons b bs =>
      have ha : a.toNat < 256 := a.toNat_lt
      have hb : b.toNat < 256 := b.toNat_lt
      have hhigh := compare_digit (a.toNat / 16) (by omega) (b.toNat / 16) (by omega)
      have hlow := compare_digit (a.toNat % 16) (by omega) (b.toNat % 16) (by omega)
      rw [List.flatMap_cons, List.flatMap_cons, symbols, symbols, List.cons_append,
        List.cons_append, List.cons_append, List.cons_append, List.nil_append, List.nil_append,
        List.compare_cons_cons, List.compare_cons_cons, hhigh, hlow, ih, ← Ordering.then_assoc,
        compare_halves, List.compare_cons_cons, UInt8.compare_eq_toNat_compare_toNat a b]

end Hex

end ContractSchema
