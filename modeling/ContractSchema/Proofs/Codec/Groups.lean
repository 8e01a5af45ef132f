import ContractSchema.Proofs.Codec.Atoms
import Mathlib.Algebra.BigOperators.Ring.Finset
import Mathlib.Data.Nat.Bitwise

/-!
# Numbers in 7-bit groups

An integer of any size is held in bytes with seven bits each, the lowest first. The high bit
of a byte says that another one follows (`ContractSchema.ValueReader.InGroups`).

The reader puts the groups together bit by bit, in a number of 128 bits: a group is moved up
by seven bits for each one before it and joined to what is there already, and if it is moved
by 128 bits or more, nothing is left of it. Since the groups do not overlap, this is addition
(`ContractSchema.ValueReader.toNat_or_movedUp`), as long as the count of bits itself does not
exceed 32 bits. So the reader gives the sum of all groups, each times its power of 128, as
far as the sum has 128 bits (`ContractSchema.ValueReader.takeGroups_eq`). It stops behind the
first byte without the high bit or when it has taken as many bytes as it may, and those have
to be there (`ContractSchema.ValueReader.groupCount`).
-/

namespace ContractSchema.ValueReader

/-! ### Groups of a number -/

/-- **A number in 7-bit groups**, the lowest first. All bytes but the last have the high bit. -/
inductive InGroups : List UInt8 → Nat → Prop
  /-- The last group. -/
  | last {byte : UInt8} (low : byte.toNat < 128) : InGroups [byte] byte.toNat
  /-- A group behind which others come. -/
  | more {byte : UInt8} {bytes : List UInt8} {n : Nat} (high : 128 ≤ byte.toNat)
      (h : InGroups bytes n) : InGroups (byte :: bytes) (byte.toNat % 128 + 128 * n)

/-- The 7-bit groups of a number, and no group of zeros behind the others. -/
def groups (n : Nat) : List UInt8 :=
  if n < 128 then [UInt8.ofNat n] else UInt8.ofNat (n % 128 + 128) :: groups (n / 128)
termination_by n
decreasing_by omega

theorem inGroups_groups (n : Nat) : InGroups (groups n) n := by
  induction n using Nat.strongRecOn with
  | ind n ih =>
    rw [groups]
    split
    · next hlt =>
      have hbyte : (UInt8.ofNat n).toNat = n := UInt8.toNat_ofNat_of_lt' (by grind)
      have hlast : InGroups [UInt8.ofNat n] (UInt8.ofNat n).toNat := .last (by omega)
      rwa [hbyte] at hlast
    · next hge =>
      have hbyte : (UInt8.ofNat (n % 128 + 128)).toNat = n % 128 + 128 :=
        UInt8.toNat_ofNat_of_lt' (by grind)
      have hhigh : 128 ≤ (UInt8.ofNat (n % 128 + 128)).toNat := by omega
      have hmore := InGroups.more hhigh (ih (n / 128) (by omega))
      have hn : (n % 128 + 128) % 128 + 128 * (n / 128) = n := by omega
      rwa [hbyte, hn] at hmore

/-- **No groups of a number are shorter.** -/
theorem length_groups_le {bytes : List UInt8} {n : Nat} (h : InGroups bytes n) :
    (groups n).length ≤ bytes.length := by
  induction h with
  | last low =>
    rw [groups, if_pos low]
    exact Nat.le_refl 1
  | @more byte bytes n high _ ih =>
    rw [groups]
    split
    · exact Nat.succ_le_succ (Nat.zero_le _)
    · have hn : (byte.toNat % 128 + 128 * n) / 128 = n := by omega
      rw [hn]
      exact Nat.succ_le_succ ih

theorem length_groups_le_of_lt {count n : Nat} (h : n < 128 ^ (count + 1)) :
    (groups n).length ≤ count + 1 := by
  induction count generalizing n with
  | zero =>
    rw [groups, if_pos (by omega)]
    exact Nat.le_refl 1
  | succ count ih =>
    rw [groups]
    split
    · exact Nat.succ_le_succ (Nat.zero_le _)
    · rw [Nat.pow_succ'] at h
      exact Nat.succ_le_succ (ih (Nat.div_lt_of_lt_mul h))

/-- **A number in as few groups as possible.** -/
def InFewestGroups (bytes : List UInt8) (n : Nat) : Prop :=
  InGroups bytes n ∧ ∀ other, InGroups other n → bytes.length ≤ other.length

theorem inFewestGroups_groups (n : Nat) : InFewestGroups (groups n) n :=
  ⟨inGroups_groups n, fun _ => length_groups_le⟩

/-- Nineteen groups are enough for 128 bits. -/
theorem InFewestGroups.length_le {bytes : List UInt8} {n : Nat} (h : InFewestGroups bytes n)
    (hn : n < 2 ^ 128) : bytes.length ≤ 19 := by
  have hfits : n < 128 ^ (18 + 1) := Nat.lt_trans hn (by decide)
  exact Nat.le_trans (h.2 _ (inGroups_groups n)) (length_groups_le_of_lt hfits)

/-! ### Groups in front of data -/

/-- **How many bytes are taken** if `limit` of them are allowed: those up to the first without
the high bit, or all that are allowed if there is no such byte among them. -/
def groupCount (limit : Nat) (data : List UInt8) : Nat :=
  match (data.take limit).findIdx? fun byte => byte.toNat < 128 with
  | some place => place + 1
  | none => limit

/-- **The sum of groups**: of the lowest seven bits of each byte times its power of 128. -/
def groupSum (count : Nat) (data : List UInt8) : Nat :=
  ∑ i ∈ Finset.range count, (data.getD i 0).toNat % 128 * 128 ^ i

section Data

variable {count limit : Nat} {byte : UInt8} {data rest : List UInt8}

theorem groupCount_zero (data : List UInt8) : groupCount 0 data = 0 := rfl

theorem groupCount_nil (limit : Nat) : groupCount limit [] = limit := by
  rw [groupCount, List.take_nil]
  rfl

theorem groupCount_of_low (h : byte.toNat < 128) : groupCount (limit + 1) (byte :: rest) = 1 := by
  simp [groupCount, List.findIdx?_cons, h]

theorem groupCount_of_high (h : 128 ≤ byte.toNat) :
    groupCount (limit + 1) (byte :: rest) = groupCount limit rest + 1 := by
  rw [groupCount, groupCount, List.take_succ_cons, List.findIdx?_cons, if_neg (by simpa using h)]
  rcases hplace : (rest.take limit).findIdx? fun byte => byte.toNat < 128 with _ | place
  · simp [hplace]
  · simp [hplace]

theorem groupSum_zero (data : List UInt8) : groupSum 0 data = 0 := rfl

theorem groupSum_succ (count : Nat) (byte : UInt8) (rest : List UInt8) :
    groupSum (count + 1) (byte :: rest) = byte.toNat % 128 + 128 * groupSum count rest := by
  rw [groupSum, Finset.sum_range_succ', groupSum, Finset.mul_sum, Nat.add_comm]
  refine congrArg₂ (· + ·) (by simp) (Finset.sum_congr rfl fun i _ => ?_)
  rw [List.getD_cons_succ, Nat.pow_succ]
  exact (Nat.mul_comm _ _).trans (by rw [Nat.mul_comm, ← Nat.mul_assoc, Nat.mul_comm])

end Data

/-! ### Joining groups -/

/-- How many bytes may be taken such that the bits in front of each of them are counted in 32
bits. -/
def maxGroups : Nat := 613566757

section Joining

variable {index : UInt32} {value : BitVec 128}

theorem toNat_seven_mul (h : index.toNat < maxGroups) : (7 * index).toNat = 7 * index.toNat := by
  have hlt : 7 * index.toNat < 2 ^ 32 := by
    rw [maxGroups] at h
    omega
  rw [UInt32.toNat_mul]
  exact Nat.mod_eq_of_lt hlt

theorem pow_eq_two_pow (n : Nat) : 128 ^ n = 2 ^ (7 * n) := by
  rw [Nat.pow_mul]

theorem toNat_lowBits (byte : UInt8) :
    (BitVec.ofNat 128 (byte &&& 0x7f).toNat).toNat = byte.toNat % 128 := by
  have hbits : (byte &&& 0x7f).toNat = byte.toNat % 128 := by
    rw [UInt8.toNat_and]
    exact Nat.and_two_pow_sub_one_eq_mod byte.toNat 7
  rw [BitVec.toNat_ofNat, hbits]
  exact Nat.mod_eq_of_lt (by omega)

/-- **Joining a group to those below adds it**, as far as there are 128 bits. -/
theorem toNat_joinGroup (h : index.toNat < maxGroups) (hvalue : value.toNat < 128 ^ index.toNat)
    (byte : UInt8) :
    (joinGroup value index byte).toNat =
      (value.toNat + 128 ^ index.toNat * (byte.toNat % 128)) % 2 ^ 128 := by
  rw [joinGroup, movedUp?, toNat_seven_mul h]
  rw [pow_eq_two_pow] at hvalue ⊢
  split
  · -- the bits below the group are those of the value
    rw [Option.getD_some, BitVec.toNat_or, BitVec.toNat_shiftLeft, Nat.shiftLeft_eq,
      toNat_lowBits, Nat.add_comm, Nat.two_pow_add_eq_or_of_lt hvalue, Nat.or_mod_two_pow,
      Nat.mod_eq_of_lt value.isLt, Nat.or_comm, Nat.mul_comm]
  · next hfar =>
    have hdvd : 2 ^ 128 ∣ 2 ^ (7 * index.toNat) * (byte.toNat % 128) :=
      Dvd.dvd.mul_right (Nat.pow_dvd_pow 2 (by omega)) _
    have hnothing : value ||| (0 : BitVec 128) = value := BitVec.or_zero
    rw [Option.getD_none, hnothing, Nat.add_mod, Nat.mod_eq_zero_of_dvd hdvd, Nat.add_zero,
      Nat.mod_mod, Nat.mod_eq_of_lt value.isLt]

/-- What comes above a group that has been joined is above those below it too. -/
theorem ofNat_joinGroup (h : index.toNat < maxGroups) (hvalue : value.toNat < 128 ^ index.toNat)
    (byte : UInt8) (n : Nat) :
    BitVec.ofNat 128 ((joinGroup value index byte).toNat + 128 ^ (index.toNat + 1) * n) =
      BitVec.ofNat 128 (value.toNat + 128 ^ index.toNat * (byte.toNat % 128 + 128 * n)) := by
  rw [toNat_joinGroup h hvalue, ← BitVec.toNat_inj, BitVec.toNat_ofNat, BitVec.toNat_ofNat,
    Nat.mod_add_mod, Nat.pow_succ, Nat.mul_add, Nat.add_assoc, Nat.mul_assoc]

theorem toNat_joinGroup_lt (h : index.toNat < maxGroups)
    (hvalue : value.toNat < 128 ^ index.toNat) (byte : UInt8) :
    (joinGroup value index byte).toNat < 128 ^ (index.toNat + 1) := by
  have hgroup : 128 ^ index.toNat * (byte.toNat % 128) ≤ 128 ^ index.toNat * 127 :=
    Nat.mul_le_mul_left _ (by omega)
  rw [toNat_joinGroup h hvalue, Nat.pow_succ]
  refine Nat.lt_of_le_of_lt (Nat.mod_le _ _) ?_
  omega

end Joining

/-! ### Reading groups -/

theorem highBit_eq_zero_iff (byte : UInt8) : byte &&& 0x80 = 0 ↔ byte.toNat < 128 := by
  have hlt : byte.toNat < 256 := byte.toNat_lt
  have hbit : (byte &&& 0x80).toNat = (byte.toNat.testBit 7).toNat * 2 ^ 7 := by
    rw [UInt8.toNat_and]
    exact Nat.and_two_pow byte.toNat 7
  have hhigh : byte.toNat.testBit 7 = decide (128 ≤ byte.toNat) := by
    rw [Nat.testBit_eq_decide_div_mod_eq, decide_eq_decide]
    omega
  rw [← UInt8.toNat_inj, hbit, hhigh]
  rcases Nat.lt_or_ge byte.toNat 128 with h | h
  · simp [h]
  · simp [h, Nat.not_lt.mpr h]

theorem takeGroups_nil (count : Nat) (index : UInt32) (value : BitVec 128) :
    takeGroups (count + 1) index value [] = .error .unexpectedEnd := rfl

theorem takeGroups_of_low {byte : UInt8} (h : byte.toNat < 128) (count : Nat) (index : UInt32)
    (value : BitVec 128) (rest : List UInt8) :
    takeGroups (count + 1) index value (byte :: rest) =
      .ok (joinGroup value index byte, rest) := by
  have hread : takeByte (byte :: rest) = .ok (byte, rest) := rfl
  rw [takeGroups, step_bind_of_ok hread, if_pos ((highBit_eq_zero_iff byte).mpr h)]
  rfl

theorem takeGroups_of_high {byte : UInt8} (h : 128 ≤ byte.toNat) (count : Nat) (index : UInt32)
    (value : BitVec 128) (rest : List UInt8) :
    takeGroups (count + 1) index value (byte :: rest) =
      takeGroups count (index + 1) (joinGroup value index byte) rest := by
  have hread : takeByte (byte :: rest) = .ok (byte, rest) := rfl
  have hhigh : ¬byte &&& 0x80 = 0 := fun hzero =>
    Nat.not_lt.mpr h ((highBit_eq_zero_iff byte).mp hzero)
  rw [takeGroups, step_bind_of_ok hread, if_neg hhigh]

/-- **What is read from groups**: so many bytes are taken as belong to the number, and they
have to be there. The number is what has been there, with the sum of these groups above it,
as far as there are 128 bits. -/
theorem takeGroups_eq {count : Nat} {index : UInt32} {value : BitVec 128}
    (hindex : index.toNat + count ≤ maxGroups) (hvalue : value.toNat < 128 ^ index.toNat)
    (data : List UInt8) :
    takeGroups count index value data =
      if groupCount count data ≤ data.length then
        .ok (BitVec.ofNat 128
            (value.toNat + 128 ^ index.toNat * groupSum (groupCount count data) data),
          data.drop (groupCount count data))
      else .error .unexpectedEnd := by
  -- on the bytes which are still allowed; the groups before them are in the value
  induction count generalizing index value data with
  | zero =>
    rw [groupCount_zero, if_pos (Nat.zero_le _), groupSum_zero, Nat.mul_zero, Nat.add_zero,
      List.drop_zero, BitVec.ofNat_toNat, BitVec.setWidth_eq]
    rfl
  | succ count ih =>
    have hlt : index.toNat < maxGroups := by omega
    rcases data with _ | ⟨byte, rest⟩
    · have hnone : ¬count + 1 ≤ ([] : List UInt8).length := Nat.not_succ_le_zero count
      rw [groupCount_nil, if_neg hnone, takeGroups_nil]
    · rcases Nat.lt_or_ge byte.toNat 128 with hlow | hhigh
      · have hone : 1 ≤ (byte :: rest).length := Nat.succ_le_succ (Nat.zero_le _)
        have hjoined := ofNat_joinGroup hlt hvalue byte 0
        rw [Nat.mul_zero, Nat.add_zero, BitVec.ofNat_toNat, BitVec.setWidth_eq] at hjoined
        rw [takeGroups_of_low hlow, groupCount_of_low hlow, if_pos hone, groupSum_succ,
          groupSum_zero, ← hjoined, List.drop_one, List.tail_cons]
      · have hnext : (index + 1).toNat = index.toNat + 1 := by
          rw [maxGroups] at hlt
          rw [UInt32.toNat_add]
          exact Nat.mod_eq_of_lt (by change index.toNat + 1 < 4294967296; omega)
        have hbound := toNat_joinGroup_lt hlt hvalue byte
        rw [← hnext] at hbound
        rw [takeGroups_of_high hhigh, groupCount_of_high hhigh, ih (by omega) hbound, hnext,
          groupSum_succ, ofNat_joinGroup hlt hvalue, List.length_cons, List.drop_succ_cons]
        simp only [Nat.add_le_add_iff_right]

/-- In front of other bytes, a number in groups is what its groups give. -/
theorem InGroups.append {bytes : List UInt8} {n : Nat} (h : InGroups bytes n) {limit : Nat}
    (hlimit : bytes.length ≤ limit) (rest : List UInt8) :
    groupCount limit (bytes ++ rest) = bytes.length ∧ groupSum bytes.length (bytes ++ rest) = n := by
  induction h generalizing limit with
  | @last byte low =>
    obtain ⟨limit, rfl⟩ : ∃ k, limit = k + 1 := ⟨limit - 1, by grind⟩
    refine ⟨groupCount_of_low low, ?_⟩
    rw [List.singleton_append, List.length_singleton, groupSum_succ, groupSum_zero]
    exact Nat.mod_eq_of_lt low
  | @more byte bytes n high _ ih =>
    obtain ⟨limit, rfl⟩ : ∃ k, limit = k + 1 := ⟨limit - 1, by grind⟩
    obtain ⟨hcount, hsum⟩ := ih (Nat.le_of_succ_le_succ hlimit)
    rw [List.cons_append, groupCount_of_high high, List.length_cons, groupSum_succ, hcount, hsum]
    exact ⟨rfl, rfl⟩

end ContractSchema.ValueReader

namespace ContractSchema

open ValueReader

/-- **An integer in groups is decoded** as the decimal form of what its groups give. -/
theorem decode_uLeb128 {maxBytes : UInt32} (h : maxBytes.toNat ≤ maxGroups) (data : List UInt8) :
    (SchemaType.uLeb128 maxBytes).decode data =
      if groupCount maxBytes.toNat data ≤ data.length then
        .ok (.string (toString (groupSum (groupCount maxBytes.toNat data) data % 2 ^ 128)),
          data.drop (groupCount maxBytes.toNat data))
      else .error .unexpectedEnd := by
  have hindex : (0 : UInt32).toNat + maxBytes.toNat ≤ maxGroups := by simpa using h
  have hvalue : (0 : BitVec 128).toNat < 128 ^ (0 : UInt32).toNat := by decide
  have hread := takeGroups_eq hindex hvalue data
  have hsum : ∀ n, (0 : BitVec 128).toNat + 128 ^ (0 : UInt32).toNat * n = n := by simp
  rw [hsum] at hread
  rw [SchemaType.decode]
  split at hread
  · next hall =>
    rw [step_bind_of_ok hread, if_pos hall, BitVec.toNat_ofNat]
    rfl
  · next hshort => rw [step_bind_of_error hread, if_neg hshort]

/-- **A number in groups is decoded** as its decimal form, if so many groups are allowed. -/
theorem accepts_uLeb128 {maxBytes : UInt32} (h : maxBytes.toNat ≤ maxGroups) {bytes : List UInt8}
    {n : Nat} (hgroups : InGroups bytes n) (hlength : bytes.length ≤ maxBytes.toNat)
    (hn : n < 2 ^ 128) : Accepts (SchemaType.uLeb128 maxBytes).decode bytes
      (.string (toString n)) := by
  rintro _ rest rfl
  obtain ⟨hcount, hsum⟩ := hgroups.append hlength rest
  have hall : bytes.length ≤ (bytes ++ rest).length := by simp
  rw [decode_uLeb128 h, hcount, hsum, if_pos hall, Nat.mod_eq_of_lt hn, List.drop_left]

end ContractSchema
