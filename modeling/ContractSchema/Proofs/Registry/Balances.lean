import ContractSchema.Proofs.Codec.Decoded
import ContractSchema.Proofs.Codec.Groups
import ContractSchema.Proofs.Schema.Blobs
import ContractSchema.Registry.MultiRoyalties

/-!
# Amounts of tokens

The multi-royalties contract answers how many tokens there are by a list of integers in
7-bit groups. What such an integer gives is known for any bytes
(`ContractSchema.decode_uLeb128`): the first byte without the high bit ends it, the last of
those allowed does so whatever it is, and where there are fewer bytes nothing is decoded. So
the balances of tokens come back from their bytes, if each of them has 128 bits and is
written in as few groups as possible
(`ContractSchema.MultiRoyalties.decode_uLeb128_outcome`).
-/

namespace ContractSchema.MultiRoyalties

open ValueReader

/-- **What the schema of balances describes.** -/
theorem parse_balanceOfResponse :
    balanceOfResponse.parse = .ok (.list .u16 (.uLeb128 37)) := rfl

theorem accepts_balances {parts : List (List UInt8)} {amounts : List Nat}
    (hcount : amounts.length < 2 ^ 16) (hbits : ∀ n ∈ amounts, n < 2 ^ 128)
    (h : List.Forall₂ InFewestGroups parts amounts) :
    Accepts (SchemaType.list .u16 (.uLeb128 37)).decode
      (littleEndianBytes 2 amounts.length ++ parts.flatten)
      (.array (amounts.map fun n => .string (toString n))) := by
  have hitem : ∀ bytes, ∀ n ∈ amounts, InFewestGroups bytes n →
      Accepts (SchemaType.uLeb128 37).decode bytes (.string (toString n)) := by
    intro bytes n hn hfewest
    have hlength : bytes.length ≤ 19 := hfewest.length_le (hbits n hn)
    exact accepts_uLeb128 (by decide) hfewest.1 (Nat.le_trans hlength (by decide)) (hbits n hn)
  have hitems := List.forall₂_map_right_iff.mpr (forall₂_imp_of_mem h hitem)
  have hmany : Accepts (takeMany (SchemaType.uLeb128 37).decode amounts.length) parts.flatten
      (amounts.map fun n => .string (toString n)) := by
    have hlength : (amounts.map fun n => Json.string (toString n)).length = amounts.length :=
      List.length_map _
    rw [← hlength]
    exact accepts_many rfl (fun _ => rfl) hitems
  rw [SchemaType.decode]
  exact (accepts_takeUnsigned hcount).bind (hmany.bind_pure Json.array)

/-- **Integers in groups are decoded exactly**, as long as the bits in front of a group are
counted in 32 bits. The bytes that belong to the integer are taken if they are there, and
their groups, each times its power of 128, give it as far as it has 128 bits; else the data
end too early. So balances of 128 bits in as few groups as possible come back. -/
theorem decode_uLeb128_outcome {maxBytes : UInt32} (h : maxBytes.toNat ≤ 613566757) :
    (∀ data : List UInt8, groupCount maxBytes.toNat data ≤ data.length →
      (SchemaType.uLeb128 maxBytes).decode data =
        .ok (.string (toString ((∑ i ∈ Finset.range (groupCount maxBytes.toNat data),
            (data.getD i 0).toNat % 128 * 128 ^ i) % 2 ^ 128)),
          data.drop (groupCount maxBytes.toNat data))) ∧
      (∀ data : List UInt8, data.length < groupCount maxBytes.toNat data →
        (SchemaType.uLeb128 maxBytes).decode data = .error .unexpectedEnd) ∧
      ∀ (parts : List (List UInt8)) (amounts : List Nat), amounts.length < 2 ^ 16 →
        (∀ n ∈ amounts, n < 2 ^ 128) → List.Forall₂ InFewestGroups parts amounts →
          ∃ method, bindings.method? "balanceOf" = some method ∧
            method.decodeResponse valueCodec
                (littleEndianBytes 2 amounts.length ++ parts.flatten) =
              .ok (.array (amounts.map fun n => .string (toString n))) := by
  refine ⟨fun data hall => ?_, fun data hshort => ?_, fun parts amounts hcount hbits hparts => ?_⟩
  · rw [decode_uLeb128 h, if_pos hall]
    rfl
  · rw [decode_uLeb128 h, if_neg (Nat.not_le.mpr hshort)]
  · have hread := accepts_balances hcount hbits hparts _ [] (List.append_nil _).symm
    refine ⟨_, rfl, (decodeResponse_eq_ok_iff rfl).mpr ?_⟩
    exact (valueCodec_decode_eq_ok_iff parse_balanceOfResponse).mpr hread

/-- Three bytes are allowed: all of them have the high bit, or there are only two of them; and
a balance of 300 and one of none. -/
theorem decode_uLeb128_outcome_three :
    (3 : UInt32).toNat ≤ 613566757 ∧
      (SchemaType.uLeb128 3).decode [0x81, 0x82, 0x83, 0x04] = .ok (.string "49409", [0x04]) ∧
      (SchemaType.uLeb128 3).decode [0x81, 0x82] = .error .unexpectedEnd ∧
      ∃ method, bindings.method? "balanceOf" = some method ∧
        method.decodeResponse valueCodec [2, 0, 172, 2, 0] =
          .ok (.array [.string "300", .string "0"]) := by
  have hmax : (3 : UInt32).toNat ≤ 613566757 := by decide
  have hgroups : groups 300 = [172, 2] := by
    rw [groups, if_neg (by decide), groups, if_pos (by decide)]
    rfl
  have hzero : groups 0 = [0] := by
    rw [groups, if_pos (by decide)]
    rfl
  have hparts : List.Forall₂ InFewestGroups [groups 300, groups 0] [300, 0] :=
    .cons (inFewestGroups_groups 300) (.cons (inFewestGroups_groups 0) .nil)
  rw [hgroups, hzero] at hparts
  obtain ⟨hall, hshort, hbalances⟩ := decode_uLeb128_outcome hmax
  exact ⟨hmax, hall [0x81, 0x82, 0x83, 0x04] (by decide), hshort [0x81, 0x82] (by decide),
    hbalances _ _ (by decide) (by decide) hparts⟩

end ContractSchema.MultiRoyalties
