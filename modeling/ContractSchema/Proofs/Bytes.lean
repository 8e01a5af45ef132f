import ContractSchema.Bytes
import Mathlib.Algebra.Group.Nat.Defs

/-!
# Cutting bytes and numbers

A list is cut after exactly so many elements
(`ContractSchema.splitExact_eq_some_iff`), and a number goes into bytes and comes back.
With `count` bytes the way from a number and back keeps what fits
(`ContractSchema.littleEndian_littleEndianBytes`); the other way nothing is lost
(`ContractSchema.littleEndianBytes_littleEndian`), for the bytes themselves say how many
they are. Bytes in UTF-8 are those of the text they are read as
(`ContractSchema.fromUTF8?_eq_some_iff`).
-/

namespace ContractSchema

/-! ### Cutting -/

section Cutting

variable {α : Type}

theorem splitExact_append (taken rest : List α) :
    splitExact taken.length (taken ++ rest) = some (taken, rest) := by
  induction taken with
  | nil => rfl
  | cons a taken ih =>
    rw [List.length_cons, List.cons_append, splitExact, ih]

/-- **A cut is a decomposition**: what is taken has the wanted length, and with the rest it
makes up the list. -/
theorem splitExact_eq_some_iff {count : Nat} {list taken rest : List α} :
    splitExact count list = some (taken, rest) ↔ list = taken ++ rest ∧ taken.length = count := by
  constructor
  · intro h
    induction count generalizing list taken with
    | zero =>
      obtain ⟨rfl, rfl⟩ : [] = taken ∧ list = rest := by simpa [splitExact] using h
      exact ⟨rfl, rfl⟩
    | succ count ih =>
      rcases list with _ | ⟨a, list⟩
      · simp [splitExact] at h
      · rcases hs : splitExact count list with _ | ⟨taken', rest'⟩
        · simp [splitExact, hs] at h
        · obtain ⟨rfl, rfl⟩ : a :: taken' = taken ∧ rest' = rest := by
            simpa [splitExact, hs] using h
          obtain ⟨hlist, hlength⟩ := ih hs
          exact ⟨by rw [hlist, List.cons_append], by rw [List.length_cons, hlength]⟩
  · rintro ⟨rfl, rfl⟩
    exact splitExact_append taken rest

theorem splitExact_eq_none_iff {count : Nat} {list : List α} :
    splitExact count list = none ↔ list.length < count := by
  induction count generalizing list with
  | zero => simp [splitExact]
  | succ count ih =>
    rcases list with _ | ⟨a, list⟩
    · simp [splitExact]
    · rw [List.length_cons, Nat.succ_lt_succ_iff, ← ih, splitExact]
      rcases splitExact count list with _ | ⟨taken, rest⟩
      · simp
      · simp

end Cutting

/-! ### Numbers in bytes -/

@[simp] theorem littleEndian_nil : littleEndian [] = 0 := rfl

@[simp] theorem littleEndian_cons (byte : UInt8) (bytes : List UInt8) :
    littleEndian (byte :: bytes) = byte.toNat + 256 * littleEndian bytes := rfl

@[simp] theorem littleEndianBytes_zero (n : Nat) : littleEndianBytes 0 n = [] := rfl

@[simp] theorem littleEndianBytes_succ (count n : Nat) :
    littleEndianBytes (count + 1) n = UInt8.ofNat n :: littleEndianBytes count (n / 256) := rfl

@[simp] theorem length_littleEndianBytes (count n : Nat) :
    (littleEndianBytes count n).length = count := by
  induction count generalizing n with
  | zero => rfl
  | succ count ih => rw [littleEndianBytes_succ, List.length_cons, ih]

theorem littleEndian_lt (bytes : List UInt8) : littleEndian bytes < 256 ^ bytes.length := by
  induction bytes with
  | nil => simp
  | cons byte bytes ih =>
    have hbyte : byte.toNat < 256 := byte.toNat_lt
    rw [littleEndian_cons, List.length_cons, Nat.pow_succ]
    omega

/-- Bytes keep of a number what fits into them. -/
theorem littleEndian_littleEndianBytes (count n : Nat) :
    littleEndian (littleEndianBytes count n) = n % 256 ^ count := by
  induction count generalizing n with
  | zero => simp [Nat.mod_one]
  | succ count ih =>
    have hbyte : (UInt8.ofNat n).toNat = n % 256 := by simp
    rw [littleEndianBytes_succ, littleEndian_cons, hbyte, ih, Nat.pow_succ', Nat.mod_mul]

theorem littleEndian_littleEndianBytes_of_lt {count n : Nat} (h : n < 256 ^ count) :
    littleEndian (littleEndianBytes count n) = n := by
  rw [littleEndian_littleEndianBytes, Nat.mod_eq_of_lt h]

/-- The number that bytes stand for gives them back. -/
theorem littleEndianBytes_littleEndian (bytes : List UInt8) :
    littleEndianBytes bytes.length (littleEndian bytes) = bytes := by
  induction bytes with
  | nil => rfl
  | cons byte bytes ih =>
    have hlt : byte.toNat < 256 := byte.toNat_lt
    have hbyte : UInt8.ofNat (byte.toNat + 256 * littleEndian bytes) = byte := by
      refine UInt8.toNat.inj ?_
      rw [UInt8.toNat_ofNat']
      omega
    have hdiv : (byte.toNat + 256 * littleEndian bytes) / 256 = littleEndian bytes := by omega
    rw [List.length_cons, littleEndian_cons, littleEndianBytes_succ, hbyte, hdiv, ih]

/-! ### Texts in bytes -/

/-- Bytes are read as the text whose UTF-8 form they are. -/
theorem fromUTF8?_eq_some_iff {bytes : List UInt8} {name : String} :
    String.fromUTF8? bytes.toByteArray = some name ↔ bytes = name.toByteArray.data.toList := by
  constructor
  · intro h
    rw [String.fromUTF8?] at h
    split at h
    · next hvalid =>
      obtain rfl := Option.some.inj h
      rw [String.fromUTF8, List.toList_data_toByteArray]
    · exact absurd h (by simp)
  · rintro rfl
    have hbytes : name.toByteArray.data.toList.toByteArray = name.toByteArray := by
      refine ByteArray.ext ?_
      rw [List.data_toByteArray]
    rw [hbytes, String.fromUTF8?, dif_pos name.isValidUTF8]
    rfl

end ContractSchema
