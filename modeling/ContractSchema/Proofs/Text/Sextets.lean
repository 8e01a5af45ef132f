import Mathlib.Algebra.Group.Nat.Defs

/-!
# Groups of six bits

The bits of bytes can be cut anew, into groups of six instead of eight, and four such groups
are three bytes. What is missing from the last group of six is filled up with zeros, and what
is missing from the last four groups is counted (`ContractSchema.Base64.Sextets`). This
leaves no choice: bytes are cut in one way only (`ContractSchema.Base64.Sextets.unique`).
-/

namespace ContractSchema.Base64

/-! ### Bits -/

/-- The given number of bits of a number, the highest first. -/
def bits : Nat → Nat → List Bool
  | 0, _ => []
  | width + 1, n => bits width (n / 2) ++ [decide (n % 2 = 1)]

@[simp] theorem length_bits (width n : Nat) : (bits width n).length = width := by
  induction width generalizing n with
  | zero => rfl
  | succ width ih => rw [bits, List.length_append, ih, List.length_singleton]

/-- **Bits of numbers side by side** are those of a single number. -/
theorem bits_append (high low : Nat) {m n : Nat} (h : n < 2 ^ low) :
    bits high m ++ bits low n = bits (high + low) (2 ^ low * m + n) := by
  induction low generalizing n with
  | zero =>
    obtain rfl : n = 0 := by simpa using h
    simp [bits]
  | succ low ih =>
    rw [Nat.pow_succ'] at h ⊢
    have hrest : n / 2 < 2 ^ low := by omega
    have hhalf : (2 * 2 ^ low * m + n) / 2 = 2 ^ low * m + n / 2 := by
      rw [Nat.mul_assoc, Nat.mul_add_div (by decide)]
    have hlast : (2 * 2 ^ low * m + n) % 2 = n % 2 := by
      rw [Nat.mul_assoc, Nat.mul_add_mod]
    rw [bits, ← Nat.add_assoc, bits, hhalf, hlast, ← ih hrest, List.append_assoc]

theorem bits_inj {width m n : Nat} (hm : m < 2 ^ width) (hn : n < 2 ^ width)
    (h : bits width m = bits width n) : m = n := by
  induction width generalizing m n with
  | zero => omega
  | succ width ih =>
    rw [Nat.pow_succ'] at hm hn
    rw [bits, bits] at h
    obtain ⟨hhigh, hlast⟩ := List.append_inj' h rfl
    have hhalf : m / 2 = n / 2 := ih (by omega) (by omega) hhigh
    have hparity : m % 2 = 1 ↔ n % 2 = 1 := decide_eq_decide.mp (List.singleton_inj.mp hlast)
    omega

theorem bits_zero (width : Nat) : bits width 0 = List.replicate width false := by
  induction width with
  | zero => rfl
  | succ width ih =>
    rw [bits, Nat.zero_div, ih, List.replicate_succ']
    rfl

theorem bits_append_append (high low : Nat) {m n : Nat} (h : n < 2 ^ low) (rest : List Bool) :
    bits high m ++ (bits low n ++ rest) = bits (high + low) (2 ^ low * m + n) ++ rest := by
  rw [← bits_append high low h, List.append_assoc]

theorem length_flatMap_bits (width : Nat) (numbers : List Nat) :
    (numbers.flatMap (bits width)).length = width * numbers.length := by
  induction numbers with
  | nil => rfl
  | cons n numbers ih =>
    rw [List.flatMap_cons, List.length_append, length_bits, ih, List.length_cons,
      Nat.mul_succ, Nat.add_comm]

theorem flatMap_bits_inj {width : Nat} {ms ns : List Nat} (hms : ∀ m ∈ ms, m < 2 ^ width)
    (hns : ∀ n ∈ ns, n < 2 ^ width) (hlength : ms.length = ns.length)
    (h : ms.flatMap (bits width) = ns.flatMap (bits width)) : ms = ns := by
  induction ms generalizing ns with
  | nil => exact (List.length_eq_zero_iff.mp hlength.symm).symm
  | cons m ms ih =>
    rcases ns with _ | ⟨n, ns⟩
    · simp at hlength
    · obtain ⟨hm, hms⟩ := List.forall_mem_cons.mp hms
      obtain ⟨hn, hns⟩ := List.forall_mem_cons.mp hns
      rw [List.flatMap_cons, List.flatMap_cons] at h
      obtain ⟨hfirst, hrest⟩ := List.append_inj h (by simp)
      rw [bits_inj hm hn hfirst, ih hms hns (Nat.succ.inj hlength) hrest]

/-! ### Groups of six bits -/

/-- **Bytes in groups of six bits.** The bits of the values are those of the bytes and zeros
that belong to no byte, two for each value that is missing from the last group of four. -/
structure Sextets (bytes : List UInt8) (values : List Nat) (pads : Nat) : Prop where
  /-- The values are of six bits. -/
  lt : ∀ value ∈ values, value < 64
  /-- At most two values are missing. -/
  pads_le : pads ≤ 2
  /-- With those that are missing the values are groups of four. -/
  groups : (values.length + pads) % 4 = 0
  /-- The bits are those of the bytes and zeros. -/
  bits_eq : values.flatMap (bits 6) =
    (bytes.map (·.toNat)).flatMap (bits 8) ++ List.replicate (2 * pads) false

/-- **There is only one way** to cut bytes into groups of six bits. -/
theorem Sextets.unique {bytes : List UInt8} {values values' : List Nat} {pads pads' : Nat}
    (h : Sextets bytes values pads) (h' : Sextets bytes values' pads') :
    values = values' ∧ pads = pads' := by
  have hlength := congrArg List.length h.bits_eq
  have hlength' := congrArg List.length h'.bits_eq
  rw [List.length_append, length_flatMap_bits, length_flatMap_bits, List.length_map,
    List.length_replicate] at hlength hlength'
  have hpads := h.pads_le
  have hpads' := h'.pads_le
  obtain rfl : pads = pads' := by omega
  refine ⟨@flatMap_bits_inj 6 _ _ h.lt h'.lt (by omega) ?_, rfl⟩
  rw [h.bits_eq, h'.bits_eq]

theorem sextets_nil : Sextets [] [] 0 :=
  ⟨by simp, by decide, rfl, rfl⟩

/-- One byte in twelve bits, of which four are zero. -/
theorem sextets_one (a : UInt8) : Sextets [a] [a.toNat / 4, a.toNat % 4 * 16] 2 := by
  have ha : a.toNat < 256 := a.toNat_lt
  refine ⟨?_, by decide, by simp, ?_⟩
  · simp only [List.forall_mem_cons]
    exact ⟨by omega, by omega, by simp⟩
  · have hbyte : bits 8 a.toNat ++ bits 4 0 = bits 12 (16 * a.toNat) :=
      bits_append 8 4 (by decide)
    have hvalues : bits 6 (a.toNat / 4) ++ bits 6 (a.toNat % 4 * 16) =
        bits 12 (16 * a.toNat) := by
      rw [bits_append 6 6 (by omega)]
      exact congrArg (bits 12) (by omega)
    simp only [List.map_cons, List.map_nil, List.flatMap_cons, List.flatMap_nil,
      List.append_nil]
    rw [hvalues, ← hbyte, bits_zero]

/-- Two bytes in eighteen bits, of which two are zero. -/
theorem sextets_two {a b : UInt8} {n : Nat} (hn : 256 * a.toNat + b.toNat = n) :
    Sextets [a, b] [n / 1024, n / 16 % 64, n % 16 * 4] 1 := by
  have ha : a.toNat < 256 := a.toNat_lt
  have hb : b.toNat < 256 := b.toNat_lt
  refine ⟨?_, by decide, by simp, ?_⟩
  · simp only [List.forall_mem_cons]
    exact ⟨by omega, by omega, by omega, by simp⟩
  · have hbytes : bits 8 a.toNat ++ (bits 8 b.toNat ++ bits 2 0) = bits 18 (4 * n) := by
      rw [bits_append_append 8 8 hb, bits_append 16 2 (by decide)]
      exact congrArg (bits 18) (by omega)
    have hvalues : bits 6 (n / 1024) ++ (bits 6 (n / 16 % 64) ++ bits 6 (n % 16 * 4)) =
        bits 18 (4 * n) := by
      rw [bits_append_append 6 6 (by omega), bits_append 12 6 (by omega)]
      exact congrArg (bits 18) (by omega)
    simp only [List.map_cons, List.map_nil, List.flatMap_cons, List.flatMap_nil,
      List.append_nil, List.append_assoc]
    rw [hvalues, ← hbytes, bits_zero]

/-- Three bytes more are four groups more. -/
theorem Sextets.cons {a b c : UInt8} {bytes : List UInt8} {values : List Nat} {pads n : Nat}
    (h : Sextets bytes values pads) (hn : 65536 * a.toNat + 256 * b.toNat + c.toNat = n) :
    Sextets (a :: b :: c :: bytes)
      (n / 262144 :: n / 4096 % 64 :: n / 64 % 64 :: n % 64 :: values) pads := by
  have ha : a.toNat < 256 := a.toNat_lt
  have hb : b.toNat < 256 := b.toNat_lt
  have hc : c.toNat < 256 := c.toNat_lt
  refine ⟨?_, h.pads_le, ?_, ?_⟩
  · simp only [List.forall_mem_cons]
    exact ⟨by omega, by omega, by omega, by omega, h.lt⟩
  · have hgroups := h.groups
    simp only [List.length_cons]
    omega
  · have hbytes : ∀ rest, bits 8 a.toNat ++ (bits 8 b.toNat ++ (bits 8 c.toNat ++ rest)) =
        bits 24 n ++ rest := by
      intro rest
      rw [bits_append_append 8 8 hb, bits_append_append 16 8 hc]
      exact congrArg (bits 24 · ++ rest) (by omega)
    have hvalues : ∀ rest, bits 6 (n / 262144) ++ (bits 6 (n / 4096 % 64) ++
        (bits 6 (n / 64 % 64) ++ (bits 6 (n % 64) ++ rest))) = bits 24 n ++ rest := by
      intro rest
      rw [bits_append_append 6 6 (by omega), bits_append_append 12 6 (by omega),
        bits_append_append 18 6 (by omega)]
      exact congrArg (bits 24 · ++ rest) (by omega)
    simp only [List.map_cons, List.flatMap_cons, List.append_assoc]
    rw [hvalues, hbytes, h.bits_eq]

theorem dvd_of_suffix_bits : ∀ pads ≤ 2, ∀ value < 64,
    List.replicate (2 * pads) false <:+ bits 6 value → 4 ^ pads ∣ value := by
  decide

theorem Sextets.dvd_last {bytes : List UInt8} {values : List Nat} {pads last : Nat}
    (h : Sextets bytes values pads) (hlast : last ∈ values.getLast?) : 4 ^ pads ∣ last := by
  obtain ⟨init, rfl⟩ := List.getLast?_eq_some_iff.mp hlast
  have hpads := h.pads_le
  refine dvd_of_suffix_bits pads hpads last (h.lt last (by simp)) ?_
  have hvalue : bits 6 last <:+ (init ++ [last]).flatMap (bits 6) := by
    rw [List.flatMap_append]
    simp
  have hzeros : List.replicate (2 * pads) false <:+ (init ++ [last]).flatMap (bits 6) := by
    rw [h.bits_eq]
    exact List.suffix_append ..
  refine List.suffix_of_suffix_length_le hzeros hvalue ?_
  rw [List.length_replicate, length_bits]
  omega

end ContractSchema.Base64
