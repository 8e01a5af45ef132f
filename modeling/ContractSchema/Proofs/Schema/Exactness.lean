import ContractSchema.Proofs.Schema.Order
import ContractSchema.Proofs.Schema.Writer

/-!
# Binary schemas are read exactly

Data is read as a type exactly if it is the bytes of the type, and if no more types are
nested inside each other than allowed (`ContractSchema.ofBytes_eq_ok_iff`). With what is
known about the grammar this says that every type that can be written at all comes back,
and that the types forget about the order of variants and about nothing else
(`ContractSchema.ofBytes_exact`).
-/

namespace ContractSchema

open SchemaReader

/-- **What is read as a type** is its bytes, unless it is nested too deeply. -/
theorem ofBytes_eq_ok_iff {data : List UInt8} {type : SchemaType} :
    SchemaType.ofBytes data = .ok type ↔ Encodes data type ∧ type.depth ≤ maxTypeDepth := by
  constructor
  · intro h
    obtain ⟨⟨read, cursor⟩, hread, hend⟩ := except_bind_eq_ok.mp h
    obtain ⟨bytes, ⟨hdata, -⟩, henc, hdepth⟩ := sound_readType maxTypeDepth _ _ _ hread
    obtain ⟨rest, offset⟩ := cursor
    rcases rest with _ | ⟨byte, rest⟩
    · obtain rfl : read = type := Except.ok.inj hend
      rw [List.append_nil] at hdata
      obtain rfl : data = bytes := hdata
      exact ⟨henc, hdepth⟩
    · exact absurd hend (by simp)
  · rintro ⟨henc, hdepth⟩
    have hread := accepts_readType henc hdepth ⟨data, 0⟩ ⟨[], 0 + data.length⟩
      ⟨(List.append_nil data).symm, rfl⟩
    exact except_bind_eq_ok.mpr ⟨_, hread, rfl⟩

/-- **Binary schemas are read exactly.** Data is read as a type if and only if it encodes
the type and the type has depth at most 64. So a type of such depth whose names and counts
fit comes back from its bytes, and whatever else is read as the same type differs from
them in the order of the variants of tagged enums. -/
theorem ofBytes_exact :
    (∀ data type, SchemaType.ofBytes data = .ok type ↔ Encodes data type ∧ type.depth ≤ 64) ∧
      (∀ type : SchemaType, type.Everywhere SchemaType.Fits → type.depth ≤ 64 →
        SchemaType.ofBytes type.toBytes = .ok type) ∧
      ∀ data data' type, SchemaType.ofBytes data = .ok type →
        (SchemaType.ofBytes data' = .ok type ↔ Relation.ReflTransGen Reordered data data') := by
  refine ⟨fun _ _ => ofBytes_eq_ok_iff, fun type fits hdepth => ?_, fun data data' type h => ?_⟩
  · exact ofBytes_eq_ok_iff.mpr ⟨encodes_toBytes fits, hdepth⟩
  · obtain ⟨henc, hdepth⟩ := ofBytes_eq_ok_iff.mp h
    rw [ofBytes_eq_ok_iff, ← henc.iff_reordered]
    exact and_iff_left hdepth

/-- A tagged enum with two variants: as it is written, by ascending tag, and the other way
round. -/
theorem ofBytes_two_orders :
    ∃ type : SchemaType, SchemaType.ofBytes type.toBytes = .ok type ∧
      SchemaType.ofBytes [0x1f, 2, 0, 0, 0, 0, 1, 0, 0, 0, 97, 2, 1, 1, 0, 0, 0, 98, 2] =
        .ok type ∧
      SchemaType.ofBytes [0x1f, 2, 0, 0, 0, 1, 1, 0, 0, 0, 98, 2, 0, 1, 0, 0, 0, 97, 2] =
        .ok type ∧
      Relation.ReflTransGen Reordered
        [0x1f, 2, 0, 0, 0, 0, 1, 0, 0, 0, 97, 2, 1, 1, 0, 0, 0, 98, 2]
        [0x1f, 2, 0, 0, 0, 1, 1, 0, 0, 0, 98, 2, 0, 1, 0, 0, 0, 97, 2] := by
  have hfirst : SchemaType.ofBytes [0x1f, 2, 0, 0, 0, 0, 1, 0, 0, 0, 97, 2, 1, 1, 0, 0, 0, 98, 2] =
      .ok (.taggedEnum (setEntry 1 ("b", .none) (setEntry 0 ("a", .none) noEntries))) := rfl
  have hsecond : SchemaType.ofBytes [0x1f, 2, 0, 0, 0, 1, 1, 0, 0, 0, 98, 2, 0, 1, 0, 0, 0, 97, 2] =
      .ok (.taggedEnum (setEntry 0 ("a", .none) (setEntry 1 ("b", .none) noEntries))) := rfl
  have hsame : setEntry 0 ("a", Fields.none) (setEntry 1 ("b", .none) noEntries) =
      setEntry 1 ("b", .none) (setEntry 0 ("a", .none) noEntries) := by
    funext tag
    rcases eq_or_ne tag 0 with rfl | hne
    · rfl
    · simp only [setEntry, if_neg hne]
  rw [hsame] at hsecond
  obtain ⟨henc, hdepth⟩ := (ofBytes_exact.1 _ _).mp hfirst
  have fits := exists_encodes_iff.mp ⟨_, henc⟩
  exact ⟨_, ofBytes_exact.2.1 _ fits hdepth, hfirst, hsecond,
    (ofBytes_exact.2.2 _ _ _ hfirst).mp hsecond⟩

end ContractSchema
