import ContractSchema.Codec.Value
import ContractSchema.Proofs.Bytes
import ContractSchema.Proofs.Json.Members
import ContractSchema.Proofs.Text.Hex

/-!
# Numbers, amounts and addresses

The values without parts. Integers are bytes of a fixed width
(`ContractSchema.ValueReader.sound_takeNumber`,
`ContractSchema.ValueReader.accepts_takeNumber`), an amount is the decimal form of one
(`ContractSchema.amount?_toString`), and an address is the hexadecimal form of 32 bytes
(`ContractSchema.account?_eq_some_iff`).
-/

namespace ContractSchema

/-! ### Amounts -/

theorem foldlM_decimal {digits : List Char} (h : ∀ c ∈ digits, c.isDigit) (n : Nat) :
    digits.foldlM (fun n c => if c.isDigit then some (10 * n + (c.toNat - 48)) else none) n =
      some (Nat.ofDigitChars 10 digits n) := by
  induction digits generalizing n with
  | nil => rfl
  | cons c digits ih =>
    obtain ⟨hc, hdigits⟩ := List.forall_mem_cons.mp h
    rw [List.foldlM_cons, if_pos hc, Nat.ofDigitChars_cons, ← ih hdigits]
    rfl

theorem decimal?_toDigits (n : Nat) : decimal? (Nat.toDigits 10 n) = some n := by
  have hdigits : ∀ c ∈ Nat.toDigits 10 n, c.isDigit := fun c hc =>
    Nat.isDigit_of_mem_toDigits (by decide) (by decide) hc
  have hne : (Nat.toDigits 10 n).isEmpty = false := by
    rw [List.isEmpty_eq_false_iff]
    exact Nat.toDigits_ne_nil
  rw [decimal?, hne, if_neg Bool.false_ne_true, foldlM_decimal hdigits,
    Nat.ofDigitChars_ten_toDigits]

/-- **The decimal form of an amount** stands for it. -/
theorem amount?_toString {n : Nat} (h : n < 2 ^ 64) : amount? (toString n) = some n := by
  have htext : (toString n).toList = Nat.toDigits 10 n := by
    rw [Nat.toString_eq_repr, Nat.toList_repr]
  rw [amount?, htext]
  split
  · next digits heq =>
    have hplus : '+'.isDigit :=
      Nat.isDigit_of_mem_toDigits (by decide) (by decide) (heq ▸ List.mem_cons_self ..)
    exact absurd hplus (by decide)
  · rw [decimal?_toDigits]
    exact if_pos h

theorem amount?_lt {text : String} {n : Nat} (h : amount? text = some n) : n < 2 ^ 64 := by
  obtain ⟨m, -, hm⟩ := Option.bind_eq_some_iff.mp h
  split at hm
  · next hlt =>
    obtain rfl := Option.some.inj hm
    exact hlt
  · exact absurd hm (by simp)

/-! ### Addresses -/

theorem account?_eq_some_iff {text : String} {bytes : List UInt8} :
    account? text = some bytes ↔ Hex.decode text = .ok bytes ∧ bytes.length = 32 := by
  rw [account?]
  rcases Hex.decode text with error | read
  · simp
  · dsimp only
    constructor
    · intro h
      split at h
      · next hlength =>
        obtain rfl := Option.some.inj h
        exact ⟨rfl, hlength⟩
      · exact absurd h (by simp)
    · rintro ⟨hread, hlength⟩
      obtain rfl := Except.ok.inj hread
      exact if_pos hlength

namespace ValueReader

variable {α β : Type}

/-! ### Bytes -/

theorem sound_fail {L : Language α} (error : ValueError) : Sound (fail error) L := by
  intro s a s' hrun
  cases hrun

theorem accepts_take (bytes : List UInt8) : Accepts (take bytes.length) bytes bytes := by
  intro data rest halong
  obtain rfl : data = bytes ++ rest := halong
  rw [take, splitExact_append]

theorem sound_take (count : Nat) :
    Sound (take count) fun b bytes => b = bytes ∧ bytes.length = count := by
  intro data bytes rest hrun
  rcases hsplit : splitExact count data with _ | ⟨taken, rest'⟩
  · simp [take, hsplit] at hrun
  · obtain ⟨rfl, rfl⟩ : taken = bytes ∧ rest' = rest := by simpa [take, hsplit] using hrun
    obtain ⟨hdata, hlength⟩ := splitExact_eq_some_iff.mp hsplit
    exact ⟨taken, hdata, rfl, hlength⟩

theorem accepts_takeByte (byte : UInt8) : Accepts takeByte [byte] byte := by
  intro data rest halong
  obtain rfl : data = byte :: rest := halong
  rfl

theorem sound_takeByte : Sound takeByte fun b byte => b = [byte] := by
  intro data byte rest hrun
  rcases data with _ | ⟨first, data⟩
  · cases hrun
  · obtain ⟨rfl, rfl⟩ : first = byte ∧ data = rest := by simpa [takeByte] using hrun
    exact ⟨[first], rfl, rfl⟩

/-! ### Integers -/

theorem accepts_takeUnsigned {width n : Nat} (h : n < 256 ^ width) :
    Accepts (takeUnsigned width) (littleEndianBytes width n) n := by
  have htake := accepts_take (littleEndianBytes width n)
  rw [length_littleEndianBytes] at htake
  have hread := htake.bind_pure littleEndian
  rwa [littleEndian_littleEndianBytes_of_lt h] at hread

theorem sound_takeUnsigned (width : Nat) :
    Sound (takeUnsigned width) fun b n => b = littleEndianBytes width n ∧ n < 256 ^ width := by
  refine (sound_take width).bind_pure fun b bytes ⟨hb, hlength⟩ => ?_
  subst hlength
  rw [hb, littleEndianBytes_littleEndian]
  exact ⟨rfl, littleEndian_lt bytes⟩

theorem encodeUnsigned_eq_ok_iff {type : SchemaType} {width : Nat} {value : Json}
    {b : List UInt8} :
    encodeUnsigned type width value = .ok b ↔
      ∃ n : UInt64, value = .number (.natural n) ∧ b = littleEndianBytes width n.toNat := by
  rw [encodeUnsigned]
  constructor
  · intro h
    split at h
    · next n hn => exact ⟨n, Json.natural?_eq_some_iff.mp hn, (Except.ok.inj h).symm⟩
    · exact absurd h (by simp)
  · rintro ⟨n, rfl, rfl⟩
    rfl

theorem sound_takeNumber (type : SchemaType) {width : Nat} (hwidth : width ≤ 8) :
    Sound (takeNumber width) fun b value => encodeUnsigned type width value = .ok b := by
  refine (sound_takeUnsigned width).bind_pure fun b n ⟨hb, hn⟩ => ?_
  have hlt : n < 2 ^ 64 := Nat.lt_of_lt_of_le hn (Nat.pow_le_pow_right (by decide) hwidth)
  refine encodeUnsigned_eq_ok_iff.mpr ⟨UInt64.ofNat n, rfl, ?_⟩
  rw [UInt64.toNat_ofNat_of_lt' hlt, hb]

/-- A number is read back if it fits into its width. -/
theorem accepts_takeNumber {type : SchemaType} {width : Nat} {value : Json} {b : List UInt8}
    (h : encodeUnsigned type width value = .ok b)
    (hfits : ∀ n, value.natural? = some n → n.toNat < 256 ^ width) :
    Accepts (takeNumber width) b value := by
  obtain ⟨n, rfl, rfl⟩ := encodeUnsigned_eq_ok_iff.mp h
  have hread := (accepts_takeUnsigned (hfits n rfl)).bind_pure Json.ofNat
  rwa [Json.ofNat, UInt64.ofNat_toNat] at hread

theorem sound_takeHex (count : Nat) :
    Sound (takeHex count) fun b value => value = .string (Hex.encode b) ∧ b.length = count := by
  refine (sound_take count).bind_pure fun b bytes ⟨hb, hlength⟩ => ?_
  rw [hb]
  exact ⟨rfl, hlength⟩

theorem accepts_takeHex (bytes : List UInt8) :
    Accepts (takeHex bytes.length) bytes (.string (Hex.encode bytes)) :=
  (accepts_take bytes).bind_pure fun bytes => Json.string (Hex.encode bytes)

end ValueReader

end ContractSchema
