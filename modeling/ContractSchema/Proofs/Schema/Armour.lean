import ContractSchema.Proofs.Text.Base64
import ContractSchema.Schema.Blob

/-!
# Blobs as armour

A blob is a text, and a binary schema is bytes. The blob of a binary schema is its Base64
form, and no other text is (`ContractSchema.SchemaBlob.eq_ofBytes_iff`), so a blob that holds
anything holds one binary schema, and different blobs hold different ones. All other blobs
are refused with what is wrong about their text
(`ContractSchema.SchemaBlob.armours_binary_schemas`).
-/

namespace ContractSchema.SchemaBlob

variable {blob : SchemaBlob} {data : List UInt8}

/-- **The blob that holds a binary schema** is the one made from it. -/
theorem toBytes_eq_ok_iff : blob.toBytes = .ok data ↔ blob = ofBytes data := by
  rw [toBytes, mapError_eq_ok_iff, Base64.decode_eq_ok_iff]
  exact ⟨fun h => congrArg SchemaBlob.mk h, fun h => congrArg SchemaBlob.base64 h⟩

/-- The blob made from a binary schema is the one with its Base64 form. -/
theorem eq_ofBytes_iff : blob = ofBytes data ↔ Base64.Armours data blob.base64 := by
  rw [Base64.armours_iff]
  exact ⟨fun h => congrArg SchemaBlob.base64 h, fun h => congrArg SchemaBlob.mk h⟩

theorem toBytes_ofBytes (data : List UInt8) : (ofBytes data).toBytes = .ok data :=
  toBytes_eq_ok_iff.mpr rfl

theorem parse_of_toBytes (h : blob.toBytes = .ok data) :
    blob.parse = SchemaType.ofBytes data := by
  rw [parse, h]
  rfl

/-- **A blob is not looked into** any further if its text is at fault. -/
theorem error_of_not_wellPadded (h : ¬ Base64.WellPadded blob.base64) :
    ∃ fault, blob.toBytes = .error (.base64 fault) ∧ blob.parse = .error (.base64 fault) := by
  rcases hdecode : Base64.decode blob.base64 with fault | data
  · have hbytes : blob.toBytes = .error (.base64 fault) := by
      rw [toBytes, hdecode]
      rfl
    refine ⟨fault, hbytes, ?_⟩
    rw [parse, hbytes]
    rfl
  · have hform : Base64.Armours data blob.base64 :=
      Base64.armours_iff.mpr (Base64.decode_eq_ok_iff.mp hdecode)
    exact absurd (Base64.exists_armours_iff.mp ⟨data, hform⟩) h

/-- **Blobs are faithful armour of binary schemas.** The blob made from a binary schema has
its Base64 form as text, and it gives back the binary schema and the type in it. A blob that
gives a binary schema is the one made from it, so of blobs that do the same texts mean the
same binary schemas. A blob whose text is not the form of any bytes is refused; these are
the texts that are not letters and padding in groups of four, or whose last letter has bits
that belong to no byte. -/
theorem armours_binary_schemas :
    (∀ data, Base64.Armours data (ofBytes data).base64 ∧ (ofBytes data).toBytes = .ok data ∧
      (ofBytes data).parse = SchemaType.ofBytes data) ∧
    (∀ (blob : SchemaBlob) data, blob.toBytes = .ok data →
      (ofBytes data).base64 = blob.base64) ∧
    (∀ (blob blob' : SchemaBlob) data data', blob.toBytes = .ok data →
      blob'.toBytes = .ok data' → (blob = blob' ↔ data = data')) ∧
    (∀ blob : SchemaBlob, (¬ ∃ data, Base64.Armours data blob.base64) →
      ∃ fault, blob.toBytes = .error (.base64 fault) ∧ blob.parse = .error (.base64 fault)) ∧
    ∀ text, (∃ data, Base64.Armours data text) ↔ Base64.WellPadded text := by
  refine ⟨fun data => ?_, fun blob data h => ?_, fun blob blob' data data' h h' => ?_,
    fun blob h => ?_, fun text => Base64.exists_armours_iff⟩
  · exact ⟨eq_ofBytes_iff.mp rfl, toBytes_ofBytes data, parse_of_toBytes (toBytes_ofBytes data)⟩
  · rw [← toBytes_eq_ok_iff.mp h]
  · constructor
    · rintro rfl
      exact Except.ok.inj (h.symm.trans h')
    · rintro rfl
      rw [toBytes_eq_ok_iff.mp h, toBytes_eq_ok_iff.mp h']
  · exact error_of_not_wellPadded fun hform => h (Base64.exists_armours_iff.mpr hform)

/-- The pair of an unsigned byte and a truth value, the same without its last part, and a text
for this with bits too many. -/
theorem armours_binary_schemas_pair :
    (ofBytes [15, 2, 1]).base64 = "DwIB" ∧ (ofBytes [15, 2]).base64 = "DwI=" ∧
      SchemaBlob.mk "DwIB" ≠ SchemaBlob.mk "DwI=" ∧
        (ofBytes [15, 2, 1]).parse = .ok (.pair .u8 .bool) ∧
          ∃ fault, (SchemaBlob.mk "DwJ=").toBytes = .error (.base64 fault) ∧
            (SchemaBlob.mk "DwJ=").parse = .error (.base64 fault) := by
  obtain ⟨hmade, hback, hequal, hrefused, -⟩ := armours_binary_schemas
  have hpair : (SchemaBlob.mk "DwIB").toBytes = .ok [15, 2, 1] := rfl
  have hpart : (SchemaBlob.mk "DwI=").toBytes = .ok [15, 2] := rfl
  refine ⟨hback _ _ hpair, hback _ _ hpart, fun h => ?_, (hmade [15, 2, 1]).2.2,
    hrefused ⟨"DwJ="⟩ ?_⟩
  · exact absurd ((hequal _ _ _ _ hpair hpart).mp h) (by decide)
  · rintro ⟨data, hform⟩
    have hread := Base64.decode_eq_ok_iff.mpr (Base64.armours_iff.mp hform)
    have hfault : Base64.decode "DwJ=" = .error (.invalidLastSymbol 74 2) := rfl
    rw [hfault] at hread
    cases hread

end ContractSchema.SchemaBlob
