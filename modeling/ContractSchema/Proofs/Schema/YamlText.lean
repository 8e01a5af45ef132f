import ContractSchema.Proofs.Schema.JsonText
import ContractSchema.Proofs.Yaml.Layout

/-!
# Types are told by their YAML text

The document of a type tells the type, since the type can be read from it
(`ContractSchema.SchemaType.document_injective`). If all names in the type are words, the document
is one of words and numbers (`ContractSchema.SchemaType.plain_document`), and its YAML text tells
the document. So the YAML text tells the type, on its own as well as in what is put out for a blob
(`ContractSchema.SchemaType.yaml_injective`).
-/

namespace ContractSchema

open Yaml (Atom)

theorem plain_text {s : String} (h : IsWord s) : (Document.text s).Plain :=
  .atom (a := .word s) h

theorem plain_tags {entries : List (UInt8 × (String × Fields))}
    (h : ∀ entry ∈ entries, (taggedRow entry).2.Plain) :
    (Document.table (entries.map taggedRow)).Plain := by
  refine .table (List.forall_mem_map.mpr fun entry _ => ?_) (List.forall_mem_map.mpr h)
  exact Nat.lt_trans entry.1.toNat_lt (by decide)

/-- What is made of plain documents is plain. -/
theorem builds_plain : Document.Builds IsWord Document.Plain where
  text _ := plain_text
  size size := plain_text (by cases size <;> decide)
  number n hn := .atom (a := .number n) hn
  list _ := .list
  bare key label hkey hlabel :=
    .table (List.forall_mem_singleton.mpr hkey) (List.forall_mem_singleton.mpr (plain_text hlabel))
  labelled key label value hkey hlabel hvalue := by
    have hword : IsWord "value" := by decide
    refine .table (List.forall_mem_cons.mpr ⟨hkey, List.forall_mem_singleton.mpr hword⟩) ?_
    exact List.forall_mem_cons.mpr ⟨plain_text hlabel, List.forall_mem_singleton.mpr hvalue⟩
  tags _ := plain_tags

/-- What is put out for a blob ends with the type. -/
theorem exists_block_documentWith (blob : SchemaBlob) :
    ∃ front, ∀ type : SchemaType,
      Yaml.block 0 (blob.documentWith type) = front ++ Yaml.rowValue 0 type.document := by
  refine ⟨Yaml.keyScalar "base64" ++ ':' :: ' ' :: Yaml.scalar 2 blob.base64 ++
    Yaml.newline 0 ++ Yaml.keyScalar "type" ++ [':'], fun type => ?_⟩
  simp [SchemaBlob.documentWith, Document.record, Yaml.block, Yaml.rows, Yaml.stack, Yaml.key,
    Yaml.rowValue, Yaml.newline]

namespace SchemaType

/-- **The documents of types with words as names are plain.** -/
theorem plain_document {type : SchemaType} (h : type.Everywhere (NamedBy IsWord)) :
    type.document.Plain :=
  builds_plain.document h

/-- **A type is told by its document.** -/
theorem document_injective {type type' : SchemaType} (h : type.document = type'.document) :
    type = type' := by
  -- the tree that is written for both of them is read as either
  obtain ⟨source, hsource⟩ := type.written
  have hvalue := (hsource.value _).mpr (Nat.le_refl _)
  have harranged := hsource.arranged
  have hread := type.yields hvalue harranged
  rw [h] at harranged
  exact Option.some.inj (hread.symm.trans (type'.yields hvalue harranged))

/-- **A type is told by its YAML text**, if all names in it are words, be it the text of the type
alone or the one that is put out for a blob. -/
theorem yaml_injective {type type' : SchemaType} (h : type.Everywhere (NamedBy IsWord))
    (h' : type'.Everywhere (NamedBy IsWord)) :
    (type.document.yaml = type'.document.yaml → type = type') ∧
      ∀ blob : SchemaBlob, OutputFormat.yaml.write (blob.documentWith type) =
        OutputFormat.yaml.write (blob.documentWith type') → type = type' := by
  have hplain := plain_document h
  have hplain' := plain_document h'
  constructor
  · exact fun heq => document_injective (Yaml.eq_of_yaml_eq hplain hplain' heq)
  · intro blob heq
    obtain ⟨front, hfront⟩ := exists_block_documentWith blob
    have hblock := String.ofList_injective heq
    rw [hfront, hfront, List.append_assoc front, List.append_assoc front] at hblock
    have hvalue := List.append_cancel_left hblock
    have hclear := (Yaml.clear_document hplain 0).2
    exact document_injective (hclear _ hplain' _ _ (.inl (.inl rfl)) (.inl (.inl rfl)) hvalue).1

/-- A struct whose names are like values of another kind: a field `null` whose type has the variant
`true`, and a field `123`. The variant has no fields, or it has fields but none of them. -/
def valueLike (fields : Fields) : SchemaType :=
  .struct (.named [("null", .enum [("true", fields)]), ("123", .u8)])

/-- Where there are no fields, the text says so. -/
theorem yaml_injective_valueLike :
    ((valueLike .none).Everywhere (NamedBy IsWord) ∧
      (valueLike (.unnamed [])).Everywhere (NamedBy IsWord)) ∧
        (valueLike .none).document.yaml ≠ (valueLike (.unnamed [])).document.yaml := by
  have hwords : ∀ fields : Fields, fields.names = [] → fields.types = [] →
      (valueLike fields).Everywhere (NamedBy IsWord) := by
    intro fields hnames htypes
    have hu8 : SchemaType.u8.Everywhere (NamedBy IsWord) :=
      everywhere_of_depth_le_one (by decide) ⟨by decide, by rintro _ ⟨⟩⟩
    have henum : (enum [("true", fields)]).Everywhere (NamedBy IsWord) := by
      refine everywhere_enum_iff.mpr ⟨namedBy_enum_iff.mpr ?_, by simp [htypes]⟩
      simp only [List.forall_mem_singleton, hnames]
      decide
    have hkeys : ∀ s ∈ ["null", "123"], IsWord s := by decide
    exact everywhere_struct_iff.mpr ⟨namedBy_struct_iff.mpr hkeys,
      by simp [Fields.types, henum, hu8]⟩
  have hnone := hwords .none rfl rfl
  have hunnamed := hwords (.unnamed []) rfl rfl
  refine ⟨⟨hnone, hunnamed⟩, fun heq => ?_⟩
  exact absurd ((yaml_injective hnone hunnamed).1 heq) (by simp [valueLike])

end SchemaType

end ContractSchema
