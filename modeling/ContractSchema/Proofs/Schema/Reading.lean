import ContractSchema.Proofs.Bytes
import ContractSchema.Proofs.Schema.Grammar
import ContractSchema.Proofs.Steps
import ContractSchema.Schema.Reader

/-!
# What the readers of schemas read

Every reader of schemas takes exactly the bytes of its language. The two halves, that it
takes these and that it takes no others, are proved reader by reader, and they meet the
grammar at one layer of it (`ContractSchema.SchemaReader.accepts_readTypeOf`,
`ContractSchema.SchemaReader.sound_readTypeOf`). The number of layers a reader may still
nest is the depth of the types it takes (`ContractSchema.SchemaReader.accepts_readType`,
`ContractSchema.SchemaReader.sound_readType`). As a reader gives one answer only, so does
the grammar (`ContractSchema.Encodes.unique`). And as nothing is written in no bytes, every
reader but that of a given number of bytes takes at least one
(`ContractSchema.SchemaReader.Advances`).
-/

namespace ContractSchema.SchemaReader

variable {α β : Type}

/-! ### Bytes, numbers and names -/

/-- A place in the data also knows how much is behind it. -/
instance : Moves Cursor where
  along s bytes s' := s.rest = bytes ++ s'.rest ∧ s'.offset = s.offset + bytes.length
  along_nil := by
    rintro ⟨rest, offset⟩ ⟨rest', offset'⟩
    simp [eq_comm]
  along_append := by
    intro s s'' b c
    rw [List.append_assoc, List.length_append, ← Nat.add_assoc]
    constructor
    · exact fun ⟨hrest, hoffset⟩ =>
        ⟨⟨c ++ s''.rest, s.offset + b.length⟩, ⟨hrest, rfl⟩, rfl, hoffset⟩
    · rintro ⟨s', ⟨hb, hoffset⟩, hc, hoffset'⟩
      rw [hb, hc, hoffset', hoffset]
      exact ⟨rfl, rfl⟩

theorem exists_of_along {s s' : Cursor} {bytes : List UInt8} (h : Moves.along s bytes s') :
    ∃ rest offset, s = ⟨bytes ++ rest, offset⟩ ∧ s' = ⟨rest, offset + bytes.length⟩ := by
  obtain ⟨rest, offset⟩ := s
  obtain ⟨rest', offset'⟩ := s'
  obtain ⟨hrest, hoffset⟩ : rest = bytes ++ rest' ∧ offset' = offset + bytes.length := h
  exact ⟨rest', offset, by rw [hrest], by rw [hoffset]⟩

theorem sound_fail {L : Language α} (error : SchemaError) : Sound (fail error) L := by
  intro s a s' hrun
  cases hrun

/-- Looking where reading has come to takes nothing. -/
theorem accepts_offset_bind {next : Nat → SchemaReader β} {b : List UInt8} {x : β}
    (h : ∀ start, Accepts (next start) b x) : Accepts (offset >>= next) b x := by
  intro s s' halong
  change next s.offset s = _
  exact h s.offset s s' halong

theorem sound_offset_bind {next : Nat → SchemaReader β} {M : Language β}
    (h : ∀ start, Sound (next start) M) : Sound (offset >>= next) M := by
  intro s x s' hrun
  change next s.offset s = _ at hrun
  exact h s.offset s x s' hrun

theorem accepts_readSlice (bytes : List UInt8) : Accepts (readSlice bytes.length) bytes bytes := by
  intro s s' halong
  obtain ⟨rest, offset, rfl, rfl⟩ := exists_of_along halong
  rw [readSlice, splitExact_append]

theorem sound_readSlice (count : Nat) :
    Sound (readSlice count) fun b bytes => b = bytes ∧ bytes.length = count := by
  intro s bytes s' hrun
  rcases hsplit : splitExact count s.rest with _ | ⟨taken, rest⟩
  · simp [readSlice, hsplit] at hrun
  · obtain ⟨rfl, rfl⟩ : taken = bytes ∧ ⟨rest, s.offset + count⟩ = s' := by
      simpa [readSlice, hsplit] using hrun
    obtain ⟨hrest, hlength⟩ := splitExact_eq_some_iff.mp hsplit
    exact ⟨taken, ⟨hrest, by rw [hlength]⟩, rfl, hlength⟩

theorem readSlice_eq_error_iff {count : Nat} {s : Cursor} {error : SchemaError} :
    readSlice count s = .error error ↔
      error = .unexpectedEnd s.offset ∧ s.rest.length < count := by
  rw [readSlice, ← splitExact_eq_none_iff]
  rcases splitExact count s.rest with _ | ⟨bytes, rest⟩
  · simp [eq_comm]
  · simp

theorem accepts_readU8 (byte : UInt8) : Accepts readU8 [byte] byte := by
  intro s s' halong
  obtain ⟨rest, offset, rfl, rfl⟩ := exists_of_along halong
  rfl

theorem sound_readU8 : Sound readU8 fun b byte => b = [byte] := by
  rintro ⟨rest, offset⟩ byte s' hrun
  rcases rest with _ | ⟨first, rest⟩
  · simp [readU8] at hrun
  · obtain ⟨rfl, rfl⟩ : first = byte ∧ ⟨rest, offset + 1⟩ = s' := by
      simpa [readU8] using hrun
    exact ⟨[first], ⟨rfl, rfl⟩, rfl⟩

theorem accepts_readU32 (n : UInt32) : Accepts readU32 (littleEndianBytes 4 n.toNat) n := by
  have hslice := accepts_readSlice (littleEndianBytes 4 n.toNat)
  rw [length_littleEndianBytes] at hslice
  have hread := hslice.bind_pure fun bytes => UInt32.ofNat (littleEndian bytes)
  rw [littleEndian_littleEndianBytes_of_lt n.toNat_lt, UInt32.ofNat_toNat] at hread
  exact hread

theorem sound_readU32 : Sound readU32 fun b n => b = littleEndianBytes 4 n.toNat := by
  refine (sound_readSlice 4).bind_pure fun b bytes ⟨hb, hlength⟩ => ?_
  have hlt : littleEndian bytes < 2 ^ 32 := by
    have h := littleEndian_lt bytes
    rw [hlength] at h
    exact h
  rw [UInt32.toNat_ofNat_of_lt' hlt, hb, ← hlength, littleEndianBytes_littleEndian]

theorem accepts_declaredCount {n : Nat} (h : n < 2 ^ 32) :
    Accepts declaredCount (littleEndianBytes 4 n) n := by
  have hread := (accepts_readU32 (UInt32.ofNat n)).bind_pure UInt32.toNat
  rw [UInt32.toNat_ofNat_of_lt' h] at hread
  exact hread

theorem sound_declaredCount :
    Sound declaredCount fun b n => b = littleEndianBytes 4 n ∧ n < 2 ^ 32 :=
  sound_readU32.bind_pure fun _ n hb => ⟨hb, n.toNat_lt⟩

theorem accepts_readString {name : String} (h : name.utf8ByteSize < 2 ^ 32) :
    Accepts readString (nameBytes name) name := by
  have hlength : (UInt32.ofNat name.utf8ByteSize).toNat = name.toByteArray.data.toList.length := by
    rw [UInt32.toNat_ofNat_of_lt' h, Array.length_toList]
    rfl
  have hnumber := accepts_readU32 (UInt32.ofNat name.utf8ByteSize)
  rw [UInt32.toNat_ofNat_of_lt' h] at hnumber
  have hslice := accepts_readSlice name.toByteArray.data.toList
  rw [← hlength] at hslice
  refine accepts_offset_bind fun start => hnumber.bind ?_
  rw [← List.append_nil name.toByteArray.data.toList]
  refine hslice.bind ?_
  rw [fromUTF8?_eq_some_iff.mpr rfl]
  exact accepts_pure name

theorem sound_readString :
    Sound readString fun b name => b = nameBytes name ∧ name.utf8ByteSize < 2 ^ 32 := by
  refine sound_offset_bind fun start => sound_readU32.bind fun b length hb => ?_
  refine (sound_readSlice length.toNat).bind fun c bytes ⟨hc, hlength⟩ => ?_
  split
  · next name hname =>
    have hbytes := fromUTF8?_eq_some_iff.mp hname
    have hsize : name.utf8ByteSize = length.toNat := by
      rw [← hlength, hbytes, Array.length_toList]
      rfl
    refine sound_pure ⟨?_, ?_⟩
    · rw [nameBytes, hsize, ← hbytes, hb, hc, List.append_nil]
    · rw [hsize]
      exact length.toNat_lt
  · exact sound_fail _

theorem ofTag?_tag (size : SizeLength) : SizeLength.ofTag? size.tag = some size := by
  cases size <;> rfl

theorem ofTag?_eq_some_iff {tag : UInt8} {size : SizeLength} :
    SizeLength.ofTag? tag = some size ↔ tag = size.tag := by
  constructor
  · intro h
    rw [← UInt8.ofNat_toNat (x := tag)]
    rw [SizeLength.ofTag?] at h
    split at h
    case h_5 => exact absurd h (by simp)
    all_goals
      next htag =>
        obtain rfl := Option.some.inj h
        rw [htag]
        rfl
  · rintro rfl
    exact ofTag?_tag size

theorem accepts_readSizeLength (size : SizeLength) : Accepts readSizeLength [size.tag] size := by
  refine accepts_offset_bind fun start => (accepts_readU8 size.tag).bind (c := []) ?_
  rw [ofTag?_eq_some_iff.mpr rfl]
  exact accepts_pure size

theorem sound_readSizeLength : Sound readSizeLength fun b size => b = [size.tag] := by
  refine sound_offset_bind fun start => sound_readU8.bind fun b tag hb => ?_
  split
  · next size hsize =>
    refine sound_pure ?_
    rw [hb, ofTag?_eq_some_iff.mp hsize]
    rfl
  · exact sound_fail _

/-! ### Lists -/

section Lists

variable {reader : SchemaReader α} {L : Language α}

theorem accepts_readMany (h : ∀ b a, L b a → Accepts reader b a) {parts : List (List UInt8)}
    {elements : List α} (hparts : List.Forall₂ L parts elements) :
    Accepts (readMany reader elements.length) parts.flatten elements :=
  accepts_many rfl (fun _ => rfl) (hparts.imp h)

theorem sound_readMany (h : Sound reader L) (count : Nat) :
    Sound (readMany reader count) fun b elements => ∃ parts : List (List UInt8),
      b = parts.flatten ∧ elements.length = count ∧ List.Forall₂ L parts elements :=
  sound_many rfl (fun _ => rfl) h count

theorem accepts_counted (h : ∀ b a, L b a → Accepts reader b a) {bytes : List UInt8}
    {elements : List α} (hcounted : CountedForm L bytes elements) (f : List α → β) :
    Accepts (declaredCount >>= fun n => readMany reader n >>= fun elements => pure (f elements))
      bytes (f elements) := by
  obtain ⟨fits, hparts⟩ := hcounted
  exact (accepts_declaredCount fits).bind ((accepts_readMany h hparts).bind_pure f)

theorem sound_counted (h : Sound reader L) {M : Language β} {f : List α → β}
    (himp : ∀ b elements, CountedForm L b elements → M b (f elements)) :
    Sound (declaredCount >>= fun n => readMany reader n >>= fun elements => pure (f elements))
      M := by
  refine sound_declaredCount.bind fun b n ⟨hb, hn⟩ => (sound_readMany h n).bind_pure ?_
  rintro _ elements ⟨parts, rfl, rfl, hparts⟩
  rw [hb]
  exact himp _ _ (.mk hn hparts)

theorem accepts_readNamed (h : ∀ b a, L b a → Accepts reader b a) {bytes : List UInt8}
    {named : String × α} (hnamed : NamedForm L bytes named) :
    Accepts (readNamed reader) bytes named := by
  obtain ⟨fits, hvalue⟩ := hnamed
  exact (accepts_readString fits).bind ((h _ _ hvalue).bind_pure fun a => (_, a))

theorem sound_readNamed (h : Sound reader L) : Sound (readNamed reader) (NamedForm L) := by
  refine sound_readString.bind fun b name ⟨hb, fits⟩ => h.bind_pure fun c a hca => ?_
  rw [hb]
  exact .mk fits hca

end Lists

/-! ### Variants with tags -/

section Tagged

/-- Putting an entry in makes no difference to what comes in front of it. -/
theorem lookup_or_setEntry {tag : UInt8} {variant : String × Fields}
    {variants : List (UInt8 × String × Fields)} {found : UInt8 → Option (String × Fields)}
    (h : tag ∉ variants.map (·.1)) :
    (fun t => (variants.lookup t).or (setEntry tag variant found t)) =
      fun t => (((tag, variant) :: variants).lookup t).or (found t) := by
  funext t
  rcases eq_or_ne t tag with rfl | hne
  · have hnone : variants.lookup t = none := by
      refine List.lookup_eq_none_iff.mpr fun entry hentry => ?_
      have hother : t ≠ entry.1 := fun heq => h (List.mem_map.mpr ⟨entry, hentry, heq.symm⟩)
      exact bne_iff_ne.mpr hother
    rw [hnone, setEntry, if_pos rfl, List.lookup_cons, beq_self_eq_true]
    rfl
  · rw [setEntry, if_neg hne, List.lookup_cons, beq_eq_false_iff_ne.mpr hne]

variable {fields : SchemaReader Fields} {L : Language Fields}

theorem accepts_readTagged (h : ∀ b a, L b a → Accepts fields b a) {parts : List (List UInt8)}
    {variants : List (UInt8 × String × Fields)}
    (hparts : List.Forall₂ (TaggedForm (NamedForm L)) parts variants)
    (distinct : (variants.map (·.1)).Nodup) {found : UInt8 → Option (String × Fields)}
    (hnew : ∀ tag ∈ variants.map (·.1), found tag = none) :
    Accepts (readTagged fields variants.length found) parts.flatten
      (fun tag => (variants.lookup tag).or (found tag)) := by
  -- on the entries to come, for whatever has been found under other tags before
  induction hparts generalizing found with
  | nil => exact accepts_pure found
  | @cons b entry parts variants hentry _ ih =>
    obtain ⟨tag, variant⟩ := entry
    obtain ⟨hvariant⟩ := hentry
    obtain ⟨hnotin, hdistinct⟩ := List.nodup_cons.mp distinct
    have hfound : found tag = none := hnew tag (List.mem_cons_self ..)
    have hrest : ∀ t ∈ variants.map (·.1), setEntry tag variant found t = none := by
      intro t ht
      have hne : t ≠ tag := fun heq => hnotin (heq ▸ ht)
      rw [setEntry, if_neg hne]
      exact hnew t (List.mem_cons_of_mem _ ht)
    have hothers := ih hdistinct hrest
    rw [lookup_or_setEntry hnotin] at hothers
    rw [List.flatten_cons, List.cons_append]
    refine accepts_offset_bind fun start => (accepts_readU8 tag).bind ?_
    refine (accepts_readNamed h hvariant).bind ?_
    rw [hfound]
    exact hothers

theorem sound_readTagged (h : Sound fields L) (count : Nat)
    (found : UInt8 → Option (String × Fields)) :
    Sound (readTagged fields count found) fun b all => ∃ (parts : List (List UInt8))
      (variants : List (UInt8 × String × Fields)),
      b = parts.flatten ∧ variants.length = count ∧
        List.Forall₂ (TaggedForm (NamedForm L)) parts variants ∧ (variants.map (·.1)).Nodup ∧
          (∀ tag ∈ variants.map (·.1), found tag = none) ∧
            all = fun tag => (variants.lookup tag).or (found tag) := by
  induction count generalizing found with
  | zero => exact sound_pure ⟨[], [], rfl, rfl, .nil, .nil, by simp, rfl⟩
  | succ count ih =>
    refine sound_offset_bind fun start => sound_readU8.bind fun b tag hb => ?_
    refine (sound_readNamed h).bind fun c variant hvariant => ?_
    split
    · exact sound_fail _
    · next hfound =>
      refine (ih (setEntry tag variant found)).imp ?_
      rintro _ _ ⟨parts, variants, rfl, rfl, hparts, hdistinct, hnew, rfl⟩
      -- the entries behind were read with this one among those found
      have hnotin : tag ∉ variants.map (·.1) := by
        intro htag
        have hnone := hnew tag htag
        rw [setEntry, if_pos rfl] at hnone
        exact absurd hnone (by simp)
      refine ⟨(tag :: c) :: parts, (tag, variant) :: variants, ?_, rfl, .cons (.mk hvariant) hparts,
        List.nodup_cons.mpr ⟨hnotin, hdistinct⟩, ?_, lookup_or_setEntry hnotin⟩
      · rw [hb]
        rfl
      · intro t ht
        rcases List.mem_cons.mp ht with rfl | ht
        · exact Option.not_isSome_iff_eq_none.mp hfound
        · have hne : t ≠ tag := fun heq => hnotin (heq ▸ ht)
          have hnone := hnew t ht
          rwa [setEntry, if_neg hne] at hnone

end Tagged

/-! ### One layer of the grammar -/

section Layers

variable {inner : SchemaReader SchemaType} {P : Language SchemaType}

theorem accepts_readFields (h : ∀ b type, P b type → Accepts inner b type) {bytes : List UInt8}
    {fields : Fields} (hform : FieldsForm P bytes fields) :
    Accepts (readFields declaredCount inner) bytes fields := by
  refine accepts_offset_bind fun start => ?_
  cases hform with
  | named hfields =>
    exact (accepts_readU8 0).bind
      (accepts_counted (fun _ _ => accepts_readNamed h) hfields Fields.named)
  | unnamed hfields =>
    exact (accepts_readU8 1).bind (accepts_counted h hfields Fields.unnamed)
  | none => exact (accepts_readU8 2).bind (accepts_pure Fields.none)

theorem sound_readFields (h : Sound inner P) :
    Sound (readFields declaredCount inner) (FieldsForm P) := by
  refine sound_offset_bind fun start => sound_readU8.bind fun b tag hb => ?_
  subst hb
  split
  · next htag =>
    obtain rfl : tag = 0 := UInt8.toNat.inj htag
    exact sound_counted (sound_readNamed h) fun _ _ => .named
  · next htag =>
    obtain rfl : tag = 1 := UInt8.toNat.inj htag
    exact sound_counted h fun _ _ => .unnamed
  · next htag =>
    obtain rfl : tag = 2 := UInt8.toNat.inj htag
    exact sound_pure .none
  · exact sound_fail _

theorem accepts_readTypeOf (h : ∀ b type, P b type → Accepts inner b type) {bytes : List UInt8}
    {type : SchemaType} (hform : TypeForm P bytes type) :
    Accepts (readTypeOf declaredCount inner) bytes type := by
  have hfields : ∀ b fields, FieldsForm P b fields →
      Accepts (readFields declaredCount inner) b fields := fun _ _ => accepts_readFields h
  refine accepts_offset_bind fun start => ?_
  cases hform with
  | pair hleft hright =>
    exact (accepts_readU8 0x0f).bind ((h _ _ hleft).bind ((h _ _ hright).bind_pure _))
  | list size hitem =>
    exact (accepts_readU8 0x10).bind
      ((accepts_readSizeLength size).bind ((h _ _ hitem).bind_pure _))
  | set size hitem =>
    exact (accepts_readU8 0x11).bind
      ((accepts_readSizeLength size).bind ((h _ _ hitem).bind_pure _))
  | map size hkey hvalue =>
    exact (accepts_readU8 0x12).bind
      ((accepts_readSizeLength size).bind ((h _ _ hkey).bind ((h _ _ hvalue).bind_pure _)))
  | array length hitem =>
    exact (accepts_readU8 0x13).bind ((accepts_readU32 length).bind ((h _ _ hitem).bind_pure _))
  | struct hf => exact (accepts_readU8 0x14).bind ((hfields _ _ hf).bind_pure SchemaType.struct)
  | enum hv =>
    exact (accepts_readU8 0x15).bind
      (accepts_counted (fun _ _ => accepts_readNamed hfields) hv SchemaType.enum)
  | string size =>
    exact (accepts_readU8 0x16).bind ((accepts_readSizeLength size).bind_pure SchemaType.string)
  | contractName size =>
    exact (accepts_readU8 0x19).bind
      ((accepts_readSizeLength size).bind_pure SchemaType.contractName)
  | receiveName size =>
    exact (accepts_readU8 0x1a).bind
      ((accepts_readSizeLength size).bind_pure SchemaType.receiveName)
  | uLeb128 maxBytes =>
    exact (accepts_readU8 0x1b).bind ((accepts_readU32 maxBytes).bind_pure SchemaType.uLeb128)
  | iLeb128 maxBytes =>
    exact (accepts_readU8 0x1c).bind ((accepts_readU32 maxBytes).bind_pure SchemaType.iLeb128)
  | byteList size =>
    exact (accepts_readU8 0x1d).bind ((accepts_readSizeLength size).bind_pure SchemaType.byteList)
  | byteArray length =>
    exact (accepts_readU8 0x1e).bind ((accepts_readU32 length).bind_pure SchemaType.byteArray)
  | @taggedEnum b variants hv distinct =>
    obtain ⟨fits, hparts⟩ := hv
    have hnew : ∀ tag ∈ variants.map (·.1), noEntries (α := String × Fields) tag = none :=
      fun _ _ => rfl
    have hread := accepts_readTagged hfields hparts distinct hnew
    simp only [noEntries, Option.or_none] at hread
    exact (accepts_readU8 0x1f).bind
      ((accepts_declaredCount fits).bind (hread.bind_pure SchemaType.taggedEnum))
  | _ => exact (accepts_readU8 _).bind (accepts_pure _)

theorem sound_readTypeOf (h : Sound inner P) :
    Sound (readTypeOf declaredCount inner) (TypeForm P) := by
  have hfields := sound_readFields h
  refine sound_offset_bind fun start => sound_readU8.bind fun b tag hb => ?_
  obtain rfl : b = [UInt8.ofNat tag.toNat] := by rw [UInt8.ofNat_toNat, hb]
  -- the branches are the entries of the table of tags, by ascending tag
  generalize tag.toNat = n
  split
  · exact sound_pure .unit
  · exact sound_pure .bool
  · exact sound_pure .u8
  · exact sound_pure .u16
  · exact sound_pure .u32
  · exact sound_pure .u64
  · exact sound_pure .i8
  · exact sound_pure .i16
  · exact sound_pure .i32
  · exact sound_pure .i64
  · exact sound_pure .amount
  · exact sound_pure .accountAddress
  · exact sound_pure .contractAddress
  · exact sound_pure .timestamp
  · exact sound_pure .duration
  · exact h.bind fun _ _ hleft => h.bind_pure fun _ _ hright => (TypeForm.pair hleft hright :)
  · refine sound_readSizeLength.bind fun _ size hsize => h.bind_pure fun _ _ hitem => ?_
    exact hsize ▸ .list size hitem
  · refine sound_readSizeLength.bind fun _ size hsize => h.bind_pure fun _ _ hitem => ?_
    exact hsize ▸ .set size hitem
  · refine sound_readSizeLength.bind fun _ size hsize => ?_
    refine h.bind fun _ _ hkey => h.bind_pure fun _ _ hvalue => ?_
    exact hsize ▸ (TypeForm.map size hkey hvalue :)
  · refine sound_readU32.bind fun _ length hlength => h.bind_pure fun _ _ hitem => ?_
    exact hlength ▸ .array length hitem
  · exact hfields.bind_pure fun _ _ => .struct
  · exact sound_counted (sound_readNamed hfields) fun _ _ => .enum
  · exact sound_readSizeLength.bind_pure fun _ size hsize => hsize ▸ .string size
  · exact sound_pure .u128
  · exact sound_pure .i128
  · exact sound_readSizeLength.bind_pure fun _ size hsize => hsize ▸ .contractName size
  · exact sound_readSizeLength.bind_pure fun _ size hsize => hsize ▸ .receiveName size
  · exact sound_readU32.bind_pure fun _ maxBytes hmax => hmax ▸ .uLeb128 maxBytes
  · exact sound_readU32.bind_pure fun _ maxBytes hmax => hmax ▸ .iLeb128 maxBytes
  · exact sound_readSizeLength.bind_pure fun _ size hsize => hsize ▸ .byteList size
  · exact sound_readU32.bind_pure fun _ length hlength => hlength ▸ .byteArray length
  · refine sound_declaredCount.bind fun c n ⟨hc, hn⟩ => ?_
    refine (sound_readTagged hfields n noEntries).bind_pure ?_
    rintro _ _ ⟨parts, variants, rfl, rfl, hparts, distinct, -, rfl⟩
    simp only [noEntries, Option.or_none]
    rw [hc]
    exact .taggedEnum (.mk hn hparts) distinct
  · exact sound_fail _

end Layers

/-! ### All layers -/

/-- **A reader takes every type it may nest.** -/
theorem accepts_readType {depth : Nat} {bytes : List UInt8} {type : SchemaType}
    (h : Encodes bytes type) (hdepth : type.depth ≤ depth) :
    Accepts (readType declaredCount depth) bytes type := by
  -- on what may still be nested: a reader of one level less is there for the parts
  induction depth generalizing bytes type with
  | zero => exact absurd type.depth_pos (Nat.not_lt.mpr hdepth)
  | succ depth ih =>
    obtain ⟨h⟩ := h
    exact accepts_readTypeOf (fun _ _ hpart => ih hpart.1 hpart.2)
      (typeForm_depth_iff.mpr ⟨h, hdepth⟩)

/-- **A reader takes nothing else.** -/
theorem sound_readType (depth : Nat) :
    Sound (readType declaredCount depth) fun bytes type =>
      Encodes bytes type ∧ type.depth ≤ depth := by
  induction depth with
  | zero => exact sound_fail _
  | succ depth ih =>
    refine (sound_readTypeOf ih).imp fun bytes type h => ?_
    obtain ⟨hform, hdepth⟩ := typeForm_depth_iff.mp h
    exact ⟨.mk hform, hdepth⟩

/-! ### Progress -/

/-- **The reader advances**: whenever it succeeds, it has taken at least one byte. -/
def Advances (reader : SchemaReader α) : Prop :=
  Sound reader fun b _ => b ≠ []

theorem Advances.length_lt {reader : SchemaReader α} (h : Advances reader) {s s' : Cursor} {a : α}
    (hrun : reader s = .ok (a, s')) : s'.rest.length < s.rest.length := by
  obtain ⟨b, ⟨hrest, -⟩, hne⟩ := h s a s' hrun
  have hpos : 0 < b.length := List.length_pos_iff.mpr hne
  rw [hrest, List.length_append]
  omega

theorem advances_readU8 : Advances readU8 :=
  sound_readU8.imp fun _ _ hb => hb ▸ List.cons_ne_nil _ _

theorem littleEndianBytes_four_ne_nil (n : Nat) : littleEndianBytes 4 n ≠ [] :=
  List.cons_ne_nil _ _

theorem advances_readU32 : Advances readU32 :=
  sound_readU32.imp fun _ _ hb => hb ▸ littleEndianBytes_four_ne_nil _

theorem advances_readString : Advances readString :=
  sound_readString.imp fun _ _ hb => hb.1 ▸ List.append_ne_nil_of_left_ne_nil
    (littleEndianBytes_four_ne_nil _) _

theorem advances_readSizeLength : Advances readSizeLength :=
  sound_readSizeLength.imp fun _ _ hb => hb ▸ List.cons_ne_nil _ _

theorem fieldsForm_ne_nil {part : Language SchemaType} {bytes : List UInt8} {fields : Fields}
    (h : FieldsForm part bytes fields) : bytes ≠ [] := by
  cases h <;> exact List.cons_ne_nil _ _

theorem typeForm_ne_nil {part : Language SchemaType} {bytes : List UInt8} {type : SchemaType}
    (h : TypeForm part bytes type) : bytes ≠ [] := by
  cases h <;> exact List.cons_ne_nil _ _

theorem advances_readType (depth : Nat) : Advances (readType declaredCount depth) :=
  (sound_readType depth).imp fun _ _ ⟨⟨h⟩, _⟩ => typeForm_ne_nil h

theorem advances_readFields (depth : Nat) :
    Advances (readFields declaredCount (readType declaredCount depth)) :=
  (sound_readFields (sound_readType depth)).imp fun _ _ => fieldsForm_ne_nil

theorem Advances.readNamed {reader : SchemaReader α} (h : Advances reader) :
    Advances (readNamed reader) :=
  (sound_readNamed h).imp fun _ _ ⟨_, hne⟩ => List.append_ne_nil_of_right_ne_nil _ hne

end ContractSchema.SchemaReader

namespace ContractSchema

open SchemaReader

/-- **Bytes stand for one type only.** -/
theorem Encodes.unique {bytes : List UInt8} {type type' : SchemaType} (h : Encodes bytes type)
    (h' : Encodes bytes type') : type = type' := by
  have halong : Moves.along (⟨bytes, 0⟩ : Cursor) bytes ⟨[], 0 + bytes.length⟩ :=
    ⟨(List.append_nil bytes).symm, rfl⟩
  -- a reader that may nest deep enough for both types reads each of them
  have hread := accepts_readType h (Nat.le_max_left type.depth type'.depth) _ _ halong
  have hread' := accepts_readType h' (Nat.le_max_right type.depth type'.depth) _ _ halong
  rw [hread] at hread'
  exact congrArg Prod.fst (Except.ok.inj hread')

end ContractSchema
