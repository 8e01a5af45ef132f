import ContractSchema.OutputFormat
import ContractSchema.Proofs.Schema.JsonReading

/-!
# Types are read back from JSON

Both JSON texts of a type are texts of one tree, and this tree is an arrangement of the
document of the type: names come first, nothing is added and nothing is lost. A document is
**written** as such a tree (`ContractSchema.Document.Written`) if its parts are
(`ContractSchema.builds_written`), and those of types therefore are
(`ContractSchema.SchemaType.written`).

What is read from arrangements is known (`ContractSchema.SchemaType.yields`). Where the text of a
document is not nested deeper than allowed, the type is therefore what is read from it
(`ContractSchema.SchemaType.ofJson?_jsonTexts`).
-/

namespace ContractSchema

open Json (Source)
open Json.Source (unitsOf digitsOf string?_unitsOf)

/-! ### Written documents -/

/-- **A document is written as a tree**: both of its texts spell the tree, which is in order and
has a value. -/
structure Document.WrittenAs (document : Document) (source : Source) : Prop where
  /-- The texts spell the tree. -/
  reads : document.json.ReadsAs source
  /-- The tree is an arrangement in which nothing is lost. -/
  arranged : Arranged false document source false
  /-- It has a value where there are as many levels as in the document. -/
  value : ∀ depth, (source.value? depth).isSome ↔ document.json.nesting ≤ depth

/-- **A document is written** as some tree. -/
def Document.Written (document : Document) : Prop :=
  ∃ source, document.WrittenAs source

/-- A member of an object is written for a row of a table. -/
structure RowWrittenAs (row : Document.Key × Document)
    (member : List Json.StringUnit × Source) : Prop where
  /-- The key is that of the row. -/
  key : member.1 = unitsOf row.1.text
  /-- The value is written as the tree. -/
  value : row.2.WrittenAs member.2

theorem Document.jsonItems_eq_map (items : List Document) :
    Document.jsonItems items = items.map Document.json := by
  induction items with
  | nil => rfl
  | cons item items ih => rw [Document.jsonItems, ih, List.map_cons]

theorem Document.jsonMembers_eq_map (rows : List (Document.Key × Document)) :
    Document.jsonMembers rows = rows.map fun row => (row.1.text, row.2.json) := by
  induction rows with
  | nil => rfl
  | cons row rows ih => rw [Document.jsonMembers, ih, List.map_cons]

/-- What is around something nested takes a level. -/
theorem exists_level_iff {nesting depth : Nat} :
    (∃ inner, depth = inner + 1 ∧ nesting ≤ inner) ↔ nesting + 1 ≤ depth := by
  constructor
  · rintro ⟨inner, rfl, h⟩
    exact Nat.succ_le_succ h
  · intro h
    exact ⟨depth - 1, by omega, by omega⟩

theorem writtenAs_text (text : String) :
    (Document.text text).WrittenAs (.string (unitsOf text)) := by
  refine ⟨Json.readsAs_string text, .text text, fun depth => ?_⟩
  simp [Source.value?, string?_unitsOf, Document.json, Json.nesting]

theorem written_ofNat {n : Nat} (h : n < UInt64.size) : (Document.ofNat n).Written := by
  refine ⟨_, Json.readsAs_ofNat h, ?_, fun depth => ?_⟩
  · have hnumber : Arranged false (Document.ofNat n) _ false := .number (UInt64.ofNat n)
    rwa [UInt64.toNat_ofNat_of_lt' h] at hnumber
  · simp [Source.value?, Json.Source.value?_digitsOf h, Document.ofNat, Document.json, Json.nesting]

theorem written_list {items : List Document} (h : ∀ item ∈ items, item.Written) :
    (Document.list items).Written := by
  obtain ⟨sources, hsources⟩ := exists_forall₂ h
  refine ⟨.array sources, ?_, .list ?_, fun depth => ?_⟩
  · rw [Document.json, Document.jsonItems_eq_map]
    exact Json.readsAs_array (List.forall₂_map_left_iff.mpr (hsources.imp fun _ _ hi => hi.reads))
  · induction hsources with
    | nil => exact .nil
    | cons hitem _ ih =>
      exact .cons hitem.arranged (ih (List.forall_mem_cons.mp h).2)
  · have hitems : ∀ inner, (∀ source ∈ sources, (source.value? inner).isSome) ↔
        Json.nestingOfItems (items.map Document.json) ≤ inner := fun inner => by
      rw [Json.nestingOfItems_le_iff, List.forall_mem_map]
      exact forall_mem_iff_of_forall₂ hsources fun _ _ hi => hi.value inner
    rw [Json.Source.isSome_value?_array_iff, Document.json, Document.jsonItems_eq_map, Json.nesting]
    simp only [hitems, exists_level_iff]

/-- A table is written row by row. -/
theorem writtenAs_table {rows : List (Document.Key × Document)}
    {members : List (List Json.StringUnit × Source)} (h : List.Forall₂ RowWrittenAs rows members)
    (harranged : Arranged false (.table rows) (.object members) false) :
    (Document.table rows).WrittenAs (.object members) := by
  refine ⟨?_, harranged, fun depth => ?_⟩
  · rw [Document.json, Document.jsonMembers_eq_map]
    exact Json.readsAs_object (List.forall₂_map_left_iff.mpr
      (h.imp fun _ _ hrow => ⟨hrow.key, hrow.value.reads⟩))
  · have hmembers : ∀ inner, (∀ member ∈ members, (Source.string? member.1).isSome ∧
        (member.2.value? inner).isSome) ↔
          Json.nestingOfMembers (rows.map fun row => (row.1.text, row.2.json)) ≤ inner :=
      fun inner => by
        rw [Json.nestingOfMembers_le_iff, List.forall_mem_map]
        refine forall_mem_iff_of_forall₂ h fun row member hrow => ?_
        rw [hrow.key, string?_unitsOf, hrow.value.value inner]
        exact and_iff_right rfl
    rw [Json.Source.isSome_value?_object_iff, Document.json, Document.jsonMembers_eq_map,
      Json.nesting]
    simp only [hmembers, exists_level_iff]

theorem written_bare (key name : String) : (labelledTable key name none).Written :=
  ⟨_, writtenAs_table (.cons ⟨rfl, writtenAs_text name⟩ .nil) (.bare .bare rfl)⟩

theorem written_labelled (key name : String) {value : Document} (h : value.Written) :
    (labelledTable key name (some value)).Written := by
  obtain ⟨source, hsource⟩ := h
  exact ⟨_, writtenAs_table (.cons ⟨rfl, writtenAs_text name⟩ (.cons ⟨rfl, hsource⟩ .nil))
    (.labelled (.nameFirst source) hsource.arranged)⟩

theorem arrangedRows_of_written {entries : List (UInt8 × (String × Fields))}
    {members : List (List Json.StringUnit × Source)}
    (h : List.Forall₂ RowWrittenAs (entries.map taggedRow) members) :
    ArrangedRows false (entries.map taggedRow) members false := by
  induction entries generalizing members with
  | nil =>
    cases h
    exact .nil
  | cons entry entries ih =>
    rw [List.map_cons] at h
    cases h with
    | @cons _ member _ _ hfirst hothers =>
      obtain ⟨units, source⟩ := member
      cases hfirst.key
      exact .cons entry.1 hfirst.value.arranged (ih hothers)

theorem written_tags {entries : List (UInt8 × (String × Fields))}
    (h : ∀ entry ∈ entries, (taggedRow entry).2.Written) :
    (Document.table (entries.map taggedRow)).Written := by
  have hrow : ∀ row ∈ entries.map taggedRow, ∃ member, RowWrittenAs row member :=
    List.forall_mem_map.mpr fun entry hentry => by
      obtain ⟨source, hsource⟩ := h entry hentry
      exact ⟨(_, source), rfl, hsource⟩
  obtain ⟨members, hmembers⟩ := exists_forall₂ hrow
  -- nothing is put aside, so that the rows are not lost
  exact ⟨_, writtenAs_table hmembers (.tags (arrangedRows_of_written hmembers))⟩

/-! ### All types -/

/-- What is made of written documents is written. -/
theorem builds_written : Document.Builds (fun _ => True) Document.Written where
  text s _ := ⟨_, writtenAs_text s⟩
  size size := ⟨_, writtenAs_text size.text⟩
  number _ := written_ofNat
  list _ := written_list
  bare key label _ _ := written_bare key label
  labelled key label _ _ _ := written_labelled key label
  tags _ := written_tags

namespace SchemaType

/-- **The documents of types are written.** -/
theorem written (type : SchemaType) : type.document.Written :=
  builds_written.document fun _ _ => ⟨fun _ _ => trivial, fun _ _ _ _ => trivial⟩

/-- **Every type reads back**: it is read from both texts of its document, whenever there are as
many levels as the document has. -/
theorem readsBack (type : SchemaType) (depth : Nat) (hdepth : type.document.json.nesting ≤ depth) :
    type.document.json.Gives (SchemaType.ofSource? false depth) type := by
  obtain ⟨source, hsource⟩ := type.written
  exact ⟨source, hsource.reads, type.yields ((hsource.value depth).mpr hdepth) hsource.arranged⟩

end SchemaType

/-! ### Texts -/

namespace SchemaType

/-- **The JSON texts of a type**: the one without blanks, the one on several lines, and the
latter as it is put out, with the end of a line behind it. -/
def jsonTexts (type : SchemaType) : List String :=
  [type.document.json.compact, type.document.json.pretty,
    OutputFormat.json.write type.document]

theorem ofJson?_eq_some {type : SchemaType} (h : type.document.json.nesting ≤ Source.maxDepth)
    {text : String} (htext : text ∈ type.jsonTexts) : ofJson? text = some type := by
  obtain ⟨source, hsource, hread⟩ := type.readsBack Source.maxDepth h
  have hending : Json.Source.Blank "\n".toList := by simp [Json.Source.Blank, Json.Source.isBlank]
  have hof : Source.ofText? text = some source := by
    simp only [jsonTexts, List.mem_cons, List.not_mem_nil, or_false] at htext
    rcases htext with rfl | rfl | rfl
    · exact hsource.ofText?_compact
    · have hnone : Json.Source.Blank "".toList := Json.Source.blank_nil
      have hpretty := hsource.ofText?_pretty hnone
      rwa [String.append_empty] at hpretty
    · exact hsource.ofText?_pretty hending
  rw [ofJson?, hof]
  exact hread

/-- **A type is read back** from each of its JSON texts, if arrays and objects are not nested
too deeply in them. Two different types have no text in common. -/
theorem ofJson?_jsonTexts (type : SchemaType)
    (h : type.document.json.nesting ≤ Source.maxDepth) :
    (∀ text ∈ type.jsonTexts, ofJson? text = some type) ∧
      ∀ other : SchemaType, other.document.json.nesting ≤ Source.maxDepth → other ≠ type →
        ∀ text ∈ type.jsonTexts, text ∉ other.jsonTexts := by
  refine ⟨fun text htext => ofJson?_eq_some h htext, ?_⟩
  intro other hother hne text htext hcommon
  have hread : ofJson? text = some type := ofJson?_eq_some h htext
  have hread' : ofJson? text = some other := ofJson?_eq_some hother hcommon
  exact hne (Option.some.inj (hread'.symm.trans hread))

/-- A type with a repeated name of signs that are escaped, with the greatest length of an array,
with a tag and with no variants. -/
def awkward : SchemaType :=
  .struct (.named [("\"\\\n\x01é", .array 4294967295 .u8),
    ("\"\\\n\x01é", .taggedEnum (setEntry 255 ("", .unnamed []) noEntries)),
    ("", .pair (.enum []) (.string .u64))])

/-- Awkward names, lengths and tags are read back. -/
theorem ofJson?_jsonTexts_awkward :
    awkward.document.json.nesting ≤ Source.maxDepth ∧
      ofJson? awkward.document.json.compact = some awkward ∧
        ofJson? awkward.document.json.pretty = some awkward := by
  have hnesting : awkward.document.json.nesting ≤ Source.maxDepth := by decide
  have htexts := (ofJson?_jsonTexts awkward hnesting).1
  exact ⟨hnesting, htexts _ (by simp [jsonTexts]), htexts _ (by simp [jsonTexts])⟩

end SchemaType

end ContractSchema
