import ContractSchema.Proofs.Schema.Exactness
import ContractSchema.Proofs.Schema.Outlook
import ContractSchema.Proofs.Schema.Truncation

/-!
# Errors point at their causes

An error of the reader of schemas names a tag or an offset, and both are right: what the
error complains about stands at that place of the data
(`ContractSchema.SchemaError.PointsInto`), and it is the thing that was to come there.

A reader knows the place it has come to, but neither the beginning of the data nor what it
is a part of. So its errors are **faults** relative to where it has begun, of an outlook
that says what it goes on with (`ContractSchema.Fault`), and a fault behind some bytes is
one in front of them (`ContractSchema.Fault.behind`). A reader blames the data rightly if
all its errors are faults, and readers that do so are put together along the grammar
(`ContractSchema.SchemaReader.Blames`). The one error that tells of something read before is
the repeated tag, which is found out behind the variant that it belongs to. It is traced
back by what has been read of the enum (`ContractSchema.SchemaReader.VariantsRead`).
-/

namespace ContractSchema

/-- **A variant of a tagged enum** with a tag: the enum begins with the data, and the variant
stands at the offset from there. -/
inductive VariantAt (tag : UInt8) : List UInt8 → Nat → Prop
  /-- There are so many variants that one more comes behind those in front of it. -/
  | mk {count : Nat} {parts : List (List UInt8)} {variants : List (UInt8 × String × Fields)}
      {bytes rest : List UInt8} {variant : String × Fields} (more : variants.length < count)
      (before : List.Forall₂ (TaggedForm (NamedForm (FieldsForm Encodes))) parts variants)
      (h : NamedForm (FieldsForm Encodes) bytes variant) :
      VariantAt tag (0x1f :: (littleEndianBytes 4 count ++
        (parts.flatten ++ (tag :: (bytes ++ rest))))) (5 + parts.flatten.length)

/-- **What an error says** about the data behind a place, given what is awaited there. -/
inductive Fault (F : Outlook) (s : Cursor) : SchemaError → Prop
  /-- Too few bytes are left to tell what comes. -/
  | ended {bytes : List UInt8} {next : Awaited} {s' : Cursor} (along : Moves.along s bytes s')
      (awaits : F bytes next) (short : s'.rest.length < next.size) :
      Fault F s (.unexpectedEnd s'.offset)
  /-- Fewer bytes are left than the length of a name says. -/
  | endedName {bytes rest : List UInt8} {length : Nat} {s' : Cursor}
      (along : Moves.along s bytes s') (awaits : F bytes .name)
      (split : s'.rest = littleEndianBytes 4 length ++ rest) (fits : length < 2 ^ 32)
      (short : rest.length < length) : Fault F s (.unexpectedEnd (s'.offset + 4))
  /-- The bytes of a name are not those of a text. -/
  | invalidUtf8 {bytes text rest : List UInt8} {s' : Cursor} (along : Moves.along s bytes s')
      (awaits : F bytes .name) (split : s'.rest = littleEndianBytes 4 text.length ++ (text ++ rest))
      (fits : text.length < 2 ^ 32)
      (invalid : ∀ name : String, text ≠ name.toByteArray.data.toList) :
      Fault F s (.invalidUtf8 s'.offset)
  /-- No type has the tag. -/
  | unknownTypeTag {bytes rest : List UInt8} {levels : Nat} {tag : UInt8} {s' : Cursor}
      (along : Moves.along s bytes s') (awaits : F bytes (.type levels))
      (split : s'.rest = tag :: rest) (unknown : 0x20 ≤ tag.toNat) :
      Fault F s (.unknownTypeTag tag s'.offset)
  /-- No width has the tag. -/
  | unknownSizeLength {bytes rest : List UInt8} {tag : UInt8} {s' : Cursor}
      (along : Moves.along s bytes s') (awaits : F bytes .width) (split : s'.rest = tag :: rest)
      (unknown : 4 ≤ tag.toNat) : Fault F s (.unknownSizeLength tag s'.offset)
  /-- No fields have the tag. -/
  | unknownFieldsTag {bytes rest : List UInt8} {tag : UInt8} {s' : Cursor}
      (along : Moves.along s bytes s') (awaits : F bytes .fields) (split : s'.rest = tag :: rest)
      (unknown : 3 ≤ tag.toNat) : Fault F s (.unknownFieldsTag tag s'.offset)
  /-- A tagged enum has an earlier variant with the tag. -/
  | repeatedTag {bytes : List UInt8} {levels earlier later : Nat} {tag : UInt8} {s' : Cursor}
      (along : Moves.along s bytes s') (awaits : F bytes (.type levels)) (lt : earlier < later)
      (hearlier : VariantAt tag s'.rest earlier) (hlater : VariantAt tag s'.rest later) :
      Fault F s (.repeatedTag tag (s'.offset + later))
  /-- No type may be here. -/
  | tooDeep {bytes : List UInt8} {s' : Cursor} (along : Moves.along s bytes s')
      (awaits : F bytes (.type 0)) : Fault F s (.tooDeep maxTypeDepth)

variable {F G : Outlook} {s s' : Cursor} {error : SchemaError}

/-- A fault behind some bytes is one in front of them, of what is awaited with them. -/
theorem Fault.behind {b : List UInt8} (h : Fault G s' error) (hb : Moves.along s b s')
    (himp : ∀ c next, G c next → F (b ++ c) next) : Fault F s error := by
  have hall : ∀ {c s''}, Moves.along s' c s'' → Moves.along s (b ++ c) s'' := fun hc =>
    Moves.along_append.mpr ⟨s', hb, hc⟩
  cases h with
  | ended along awaits short => exact .ended (hall along) (himp _ _ awaits) short
  | endedName along awaits split fits short =>
    exact .endedName (hall along) (himp _ _ awaits) split fits short
  | invalidUtf8 along awaits split fits invalid =>
    exact .invalidUtf8 (hall along) (himp _ _ awaits) split fits invalid
  | unknownTypeTag along awaits split unknown =>
    exact .unknownTypeTag (hall along) (himp _ _ awaits) split unknown
  | unknownSizeLength along awaits split unknown =>
    exact .unknownSizeLength (hall along) (himp _ _ awaits) split unknown
  | unknownFieldsTag along awaits split unknown =>
    exact .unknownFieldsTag (hall along) (himp _ _ awaits) split unknown
  | repeatedTag along awaits lt hearlier hlater =>
    exact .repeatedTag (hall along) (himp _ _ awaits) lt hearlier hlater
  | tooDeep along awaits => exact .tooDeep (hall along) (himp _ _ awaits)

namespace SchemaReader

variable {α β : Type}

/-- **A reader blames the data rightly**: every error it ends with is a fault of them. -/
def Blames (reader : SchemaReader α) (F : Outlook) : Prop :=
  ∀ s error, reader s = .error error → Fault F s error

theorem blames_pure (a : α) : Blames (pure a) F := by
  intro s error hrun
  cases hrun

theorem Blames.imp {reader : SchemaReader α} (h : Blames reader G)
    (himp : ∀ c next, G c next → F c next) : Blames reader F := by
  intro s error hrun
  exact (h s error hrun).behind (Moves.along_nil.mpr rfl) himp

theorem Blames.bind {reader : SchemaReader α} {next : α → SchemaReader β} {L : Language α}
    (h : Blames reader F) (hsound : Sound reader L)
    (hnext : ∀ b a, L b a → Blames (next a) fun c awaited => F (b ++ c) awaited) :
    Blames (reader >>= next) F := by
  intro s error hrun
  rcases step_bind_eq_error.mp hrun with hfirst | ⟨a, s', hfirst, hsecond⟩
  · exact h s error hfirst
  · obtain ⟨b, hb, hL⟩ := hsound s a s' hfirst
    exact (hnext b a hL s' error hsecond).behind hb fun _ _ => id

theorem Blames.bind_pure {reader : SchemaReader α} (h : Blames reader F) (f : α → β) :
    Blames (reader >>= fun a => pure (f a)) F := by
  intro s error hrun
  rcases step_bind_eq_error.mp hrun with hfirst | ⟨a, s', -, hsecond⟩
  · exact h s error hfirst
  · cases hsecond

/-! ### Bytes, numbers and names -/

theorem along_self (s : Cursor) : Moves.along s [] s :=
  Moves.along_nil.mpr rfl

theorem blames_readSlice {next : Awaited} (h : F [] next) : Blames (readSlice next.size) F := by
  intro s error hrun
  obtain ⟨rfl, hshort⟩ := readSlice_eq_error_iff.mp hrun
  exact .ended (along_self s) h hshort

theorem blames_readU8 {next : Awaited} (h : F [] next) (hsize : next.size = 1) :
    Blames readU8 F := by
  rintro ⟨_ | ⟨byte, rest⟩, start⟩ error hrun
  · obtain rfl : .unexpectedEnd start = error := Except.error.inj hrun
    exact .ended (along_self _) h (hsize ▸ Nat.zero_lt_one)
  · cases hrun

theorem blames_readU32 {next : Awaited} (h : F [] next) (hsize : next.size = 4) :
    Blames readU32 F := by
  have hslice := blames_readSlice h
  rw [hsize] at hslice
  exact hslice.bind_pure fun bytes => UInt32.ofNat (littleEndian bytes)

theorem offset_bind (next : Nat → SchemaReader β) (s : Cursor) :
    (offset >>= next) s = next s.offset s := rfl

/-- A reader behind a tag blames the data rightly, the tag included. -/
def BlamesBehind (tag : UInt8) (rest : List UInt8) (start : Nat) (reader : SchemaReader α)
    (F : Outlook) : Prop :=
  ∀ error, reader ⟨rest, start + 1⟩ = .error error → Fault F ⟨tag :: rest, start⟩ error

theorem Blames.behind_tag {reader : SchemaReader α} {tag : UInt8} {rest : List UInt8} {start : Nat}
    (h : Blames reader fun c next => F (tag :: c) next) :
    BlamesBehind tag rest start reader F :=
  fun error hrun => (h _ error hrun).behind (b := [tag]) ⟨rfl, rfl⟩ fun _ _ => id

/-- **A reader of something with a tag** blames the data rightly if it does so behind each
tag. -/
theorem blames_tagged {next : Nat → UInt8 → SchemaReader β} {awaited : Awaited}
    (h : F [] awaited) (hsize : awaited.size = 1)
    (hnext : ∀ tag rest start, BlamesBehind tag rest start (next start tag) F) :
    Blames (offset >>= fun start => readU8 >>= fun tag => next start tag) F := by
  rintro ⟨_ | ⟨tag, rest⟩, start⟩ error hrun
  · obtain rfl : .unexpectedEnd start = error := Except.error.inj hrun
    exact blames_readU8 h hsize ⟨[], start⟩ _ rfl
  · exact hnext tag rest start error hrun

theorem blames_readSizeLength (h : F [] .width) : Blames readSizeLength F := by
  refine blames_tagged h rfl fun tag rest start => ?_
  split
  · exact (blames_pure _).behind_tag
  · next hnone =>
    rintro _ ⟨⟩
    refine .unknownSizeLength (along_self _) h rfl ?_
    rw [SizeLength.ofTag?] at hnone
    split at hnone
    case h_5 => grind
    all_goals exact absurd hnone (by simp)

theorem blames_readString (h : F [] .name) : Blames readString F := by
  intro s error hrun
  have hlength : Blames readU32 F := blames_readU32 h rfl
  rw [readString, offset_bind] at hrun
  rcases step_bind_eq_error.mp hrun with hfirst | ⟨length, s', hfirst, hrun⟩
  · exact hlength s error hfirst
  · obtain ⟨b, ⟨hrest, hoffset⟩, rfl⟩ := sound_readU32 s length s' hfirst
    rcases step_bind_eq_error.mp hrun with hslice | ⟨_, s'', hslice, hrun⟩
    · obtain ⟨rfl, hshort⟩ := readSlice_eq_error_iff.mp hslice
      rw [hoffset, length_littleEndianBytes]
      exact .endedName (along_self s) h hrest length.toNat_lt hshort
    · obtain ⟨text, ⟨hrest', -⟩, rfl, hcount⟩ := sound_readSlice _ s' _ s'' hslice
      rcases hname : String.fromUTF8? text.toByteArray with _ | name
      · rw [hname] at hrun
        obtain rfl := Except.error.inj hrun
        rw [hrest', ← hcount] at hrest
        refine .invalidUtf8 (along_self s) h hrest (hcount ▸ length.toNat_lt) fun name htext => ?_
        rw [fromUTF8?_eq_some_iff.mpr htext] at hname
        cases hname
      · rw [hname] at hrun
        cases hrun

/-! ### Lists -/

section Lists

variable {reader : SchemaReader α} {L : Language α}

theorem blames_readMany (h : Blames reader G) (hsound : Sound reader L) (count : Nat) :
    Blames (readMany reader count) fun bytes next => ∃ (parts : List (List UInt8))
      (elements : List α) (c : List UInt8), bytes = parts.flatten ++ c ∧
        elements.length < count ∧ List.Forall₂ L parts elements ∧ G c next := by
  induction count with
  | zero => exact blames_pure []
  | succ count ih =>
    have hfirst := h.imp (F := fun bytes next => ∃ (parts : List (List UInt8))
      (elements : List α) (c : List UInt8), bytes = parts.flatten ++ c ∧
        elements.length < count + 1 ∧ List.Forall₂ L parts elements ∧ G c next)
      fun c next hc => ⟨[], [], c, rfl, Nat.succ_pos count, .nil, hc⟩
    refine hfirst.bind hsound fun b a hba => Blames.bind_pure (ih.imp ?_) (a :: ·)
    rintro _ next ⟨parts, elements, c, rfl, hlt, hparts, hc⟩
    refine ⟨b :: parts, a :: elements, c, ?_, Nat.succ_lt_succ hlt, .cons hba hparts, hc⟩
    rw [List.flatten_cons, List.append_assoc]

theorem blames_counted (h : Blames reader G) (hsound : Sound reader L) (f : List α → β) :
    Blames (declaredCount >>= fun n => readMany reader n >>= fun elements => pure (f elements))
      (CountedOutlook L G) := by
  have hcount : Blames declaredCount (CountedOutlook L G) :=
    (blames_readU32 .count rfl).bind_pure UInt32.toNat
  refine hcount.bind sound_declaredCount fun b n ⟨hb, hn⟩ => ?_
  refine ((blames_readMany h hsound n).imp ?_).bind_pure f
  rintro _ next ⟨parts, elements, c, rfl, hlt, hparts, hc⟩
  rw [hb]
  exact .element hn hlt hparts hc

theorem blames_readNamed (h : Blames reader G) : Blames (readNamed reader) (NamedOutlook G) := by
  refine (blames_readString .name).bind sound_readString fun b name ⟨hb, fits⟩ => ?_
  refine Blames.bind_pure (h.imp fun c next hc => ?_) (name, ·)
  rw [hb]
  exact .value fits hc

end Lists

/-! ### Variants with tags -/

section Tagged

variable {fields : SchemaReader Fields} {P : Language SchemaType}

/-- **How far a tagged enum has been read**: it begins at `s`, and at `s'` so many of its
variants are still to come, behind those in `parts`. -/
structure VariantsRead (P : Language SchemaType) (s s' : Cursor) (total count : Nat)
    (parts : List (List UInt8)) (variants : List (UInt8 × String × Fields))
    (found : UInt8 → Option (String × Fields)) : Prop where
  /-- The number of all variants fits its bytes. -/
  fits : total < 2 ^ 32
  /-- So many variants are left. -/
  length : variants.length + count = total
  /-- The parts that have been read are those of variants. -/
  forms : List.Forall₂ (TaggedForm (NamedForm (FieldsForm P))) parts variants
  /-- What has been found belongs to these variants. -/
  known : ∀ tag, (found tag).isSome → tag ∈ variants.map (·.1)
  /-- The parts are behind the tag of the enum and the number of variants. -/
  along : Moves.along s (0x1f :: (littleEndianBytes 4 total ++ parts.flatten)) s'

section VariantsRead

variable {s'' : Cursor} {total count : Nat} {parts : List (List UInt8)}
  {variants : List (UInt8 × String × Fields)} {found : UInt8 → Option (String × Fields)}
  {tag : UInt8} {b : List UInt8} {variant : String × Fields}

theorem VariantsRead.imp {Q : Language SchemaType} (h : VariantsRead P s s' total count parts
    variants found) (himp : ∀ b type, P b type → Q b type) :
    VariantsRead Q s s' total count parts variants found :=
  { h with
    forms := h.forms.imp fun _ _ h => h.imp fun _ h => h.imp fun _ h => h.imp fun b type _ =>
      himp b type }

/-- One variant more has been read. -/
theorem VariantsRead.next (h : VariantsRead P s s' total (count + 1) parts variants found)
    (hmove : Moves.along s' (tag :: b) s'') (hvariant : NamedForm (FieldsForm P) b variant) :
    VariantsRead P s s'' total count (parts ++ [tag :: b]) (variants ++ [(tag, variant)])
      (setEntry tag variant found) where
  fits := h.fits
  length := by
    have hlength := h.length
    rw [List.length_append, List.length_singleton]
    omega
  forms := List.rel_append h.forms (.cons (.mk hvariant) .nil)
  known := by
    intro t ht
    rw [List.map_append, List.mem_append, List.map_singleton, List.mem_singleton]
    rw [setEntry] at ht
    split at ht
    · next heq => exact Or.inr heq
    · exact Or.inl (h.known t ht)
  along := by
    rw [List.flatten_append, List.flatten_singleton, ← List.append_assoc]
    exact Moves.along_append.mpr ⟨s', h.along, hmove⟩

/-- **A variant with the tag of an earlier one** is a fault of the enum. -/
theorem VariantsRead.fault_of_repeated {levels : Nat}
    (h : VariantsRead Encodes s s' total (count + 1) parts variants found)
    (hawaits : F [] (.type levels)) (hmove : Moves.along s' (tag :: b) s'')
    (hvariant : NamedForm (FieldsForm Encodes) b variant) (hrepeats : (found tag).isSome) :
    Fault F s (.repeatedTag tag s'.offset) := by
  have hlength := h.length
  have hs : s.rest = 0x1f :: (littleEndianBytes 4 total ++
      (parts.flatten ++ (tag :: (b ++ s''.rest)))) := by
    rw [h.along.1, hmove.1, List.cons_append, List.append_assoc]
    rfl
  have hoffset : s'.offset = s.offset + (5 + parts.flatten.length) := by
    rw [h.along.2, List.length_cons, List.length_append, length_littleEndianBytes]
    omega
  have hlater : VariantAt tag s.rest (5 + parts.flatten.length) := by
    rw [hs]
    exact .mk (by omega) h.forms hvariant
  -- the earlier variant is the one that has been found
  obtain ⟨⟨first, variant'⟩, hmem, heq⟩ := List.mem_map.mp (h.known tag hrepeats)
  obtain rfl : first = tag := heq
  obtain ⟨before, after, rfl⟩ := List.append_of_mem hmem
  obtain ⟨before', b', after', rfl, hbefore, ⟨hearlier⟩, -⟩ :=
    exists_append_of_forall₂ h.forms.flip
  have hfewer : before.length < total := by
    rw [List.length_append, List.length_cons] at hlength
    omega
  have hfirst : VariantAt first s.rest (5 + before'.flatten.length) := by
    rw [hs, List.flatten_append, List.flatten_cons, List.append_assoc, List.append_assoc,
      List.cons_append]
    exact .mk hfewer hbefore.flip hearlier
  rw [hoffset]
  refine .repeatedTag (along_self s) hawaits ?_ hfirst hlater
  rw [List.flatten_append, List.flatten_cons, List.length_append, List.length_append,
    List.length_cons]
  omega

/-- A variant that repeats a tag is read in full before it is found out. -/
theorem fault_of_readTagged {levels : Nat} (hfields : Blames fields (FieldsOutlook P G))
    (hsound : Sound fields (FieldsForm P)) (hP : ∀ b type, P b type → Encodes b type)
    (hF : ∀ b next, TypeOutlook levels P G b next → F b next)
    (h : VariantsRead P s s' total count parts variants found)
    (hrun : readTagged fields count found s' = .error error) : Fault F s error := by
  -- on the variants to come, for whatever variants have been read before
  induction count generalizing parts variants found s' with
  | zero => cases hrun
  | succ count ih =>
    have hinside : ∀ c next, TaggedOutlook (NamedOutlook (FieldsOutlook P G)) c next →
        F (0x1f :: (littleEndianBytes 4 total ++ parts.flatten) ++ c) next := by
      intro c next hc
      have hlength := h.length
      have hopen := hF _ _ (.taggedEnum (.element h.fits (by omega) h.forms hc))
      rwa [← List.append_assoc] at hopen
    rw [readTagged, offset_bind] at hrun
    rcases step_bind_eq_error.mp hrun with htag | ⟨tag, s₁, htag, hrun⟩
    · exact (blames_readU8 .tag rfl s' error htag).behind h.along hinside
    · obtain ⟨_, hmove, rfl⟩ := sound_readU8 s' tag s₁ htag
      rcases step_bind_eq_error.mp hrun with hvariant | ⟨variant, s₂, hvariant, hrun⟩
      · have hfault := (blames_readNamed hfields s₁ error hvariant).behind
          (F := TaggedOutlook (NamedOutlook (FieldsOutlook P G))) hmove fun _ _ => .value
        exact hfault.behind h.along hinside
      · obtain ⟨b, hmove', hnamed⟩ := sound_readNamed hsound s₁ variant s₂ hvariant
        have hmoves : Moves.along s' (tag :: b) s₂ :=
          Moves.along_append.mpr ⟨s₁, hmove, hmove'⟩
        split at hrun
        · next hrepeats =>
          obtain rfl : .repeatedTag tag s'.offset = error := Except.error.inj hrun
          exact (h.imp hP).fault_of_repeated (hF _ _ .tag) hmoves
            (hnamed.imp fun _ h => h.imp fun b type _ => hP b type) hrepeats
        · exact ih (h.next hmoves hnamed) hrun

end VariantsRead

end Tagged

/-! ### Types -/

section Types

variable {inner : SchemaReader SchemaType} {P : Language SchemaType}

theorem blames_readFields (h : Blames inner G) (hsound : Sound inner P) :
    Blames (readFields declaredCount inner) (FieldsOutlook P G) := by
  refine blames_tagged .tag rfl fun tag rest start => ?_
  split
  · next htag =>
    obtain rfl : tag = 0 := UInt8.toNat.inj htag
    have hcounted := blames_counted (blames_readNamed h) (sound_readNamed hsound) Fields.named
    exact (hcounted.imp fun _ _ => .named).behind_tag
  · next htag =>
    obtain rfl : tag = 1 := UInt8.toNat.inj htag
    exact ((blames_counted h hsound Fields.unnamed).imp fun _ _ => .unnamed).behind_tag
  · exact (blames_pure _).behind_tag
  · rintro _ ⟨⟩
    exact .unknownFieldsTag (along_self _) .tag rfl (by grind)

/-- A list, a set or a map goes on with a width and with a type. -/
theorem blames_sized {levels : Nat} {tag : UInt8} {next : SizeLength → SchemaType → SchemaReader β}
    (htag : tag ∈ [0x10, 0x11, (0x12 : UInt8)]) (h : Blames inner G) (hsound : Sound inner P)
    (hnext : ∀ size b item, P b item → Blames (next size item) fun c awaited =>
      TypeOutlook levels P G (tag :: size.tag :: (b ++ c)) awaited) :
    Blames (readSizeLength >>= fun size => inner >>= next size) fun c awaited =>
      TypeOutlook levels P G (tag :: c) awaited := by
  have hwidth : tag ∈ [0x10, 0x11, 0x12, 0x16, 0x19, 0x1a, (0x1d : UInt8)] :=
    List.mem_append_left [0x16, 0x19, 0x1a, (0x1d : UInt8)] htag
  refine (blames_readSizeLength (.width hwidth)).bind sound_readSizeLength fun _ size hsize => ?_
  subst hsize
  exact Blames.bind (h.imp fun _ _ => .item size htag) hsound (hnext size)

theorem blames_readTypeOf {levels : Nat} (h : Blames inner G) (hsound : Sound inner P)
    (hP : ∀ b type, P b type → Encodes b type) :
    Blames (readTypeOf declaredCount inner) (TypeOutlook levels P G) := by
  have hfields := blames_readFields h hsound
  have hsoundFields := sound_readFields hsound
  refine blames_tagged .tag rfl fun tag rest start => ?_
  -- the branches are the entries of the table of tags, by ascending tag
  obtain ⟨n, hn, rfl⟩ : ∃ n < 256, tag = UInt8.ofNat n := ⟨tag.toNat, tag.toNat_lt, by simp⟩
  rw [UInt8.toNat_ofNat_of_lt' hn]
  split
  all_goals try exact (blames_pure _).behind_tag
  all_goals try exact ((blames_readSizeLength (.width (by decide))).bind_pure _).behind_tag
  all_goals try exact ((blames_readU32 (.number (by decide)) rfl).bind_pure _).behind_tag
  case h_16 =>
    refine Blames.behind_tag (Blames.bind (h.imp fun _ _ => .left) hsound fun _ left hleft => ?_)
    exact Blames.bind_pure (h.imp fun _ _ => .right hleft) left.pair
  case h_17 => exact (blames_sized (by decide) h hsound fun _ _ _ _ => blames_pure _).behind_tag
  case h_18 => exact (blames_sized (by decide) h hsound fun _ _ _ _ => blames_pure _).behind_tag
  case h_19 =>
    refine (blames_sized (by decide) h hsound fun size _ key hkey => ?_).behind_tag
    exact Blames.bind_pure (h.imp fun _ _ => .value size hkey) (SchemaType.map size key)
  case h_20 =>
    refine Blames.behind_tag (Blames.bind (blames_readU32 (.number (by decide)) rfl)
      sound_readU32 fun _ length hlength => ?_)
    subst hlength
    exact Blames.bind_pure (h.imp fun _ _ => .arrayItem length) (SchemaType.array length)
  case h_21 =>
    exact ((hfields.imp fun _ _ => .struct).bind_pure SchemaType.struct).behind_tag
  case h_22 =>
    have hvariants := blames_counted (blames_readNamed hfields) (sound_readNamed hsoundFields)
      SchemaType.enum
    exact (hvariants.imp fun _ _ => .enum).behind_tag
  case h_32 =>
    intro error hrun
    rcases step_bind_eq_error.mp hrun with hcount | ⟨total, s₁, hcount, hrun⟩
    · have hnumber := blames_readU32 (F := fun c next => TypeOutlook levels P G (0x1f :: c) next)
        (.taggedEnum .count) rfl
      exact (hnumber.bind_pure UInt32.toNat).behind_tag error hcount
    · obtain ⟨_, hmove, rfl, htotal⟩ := sound_declaredCount _ _ _ hcount
      rcases step_bind_eq_error.mp hrun with hvariants | ⟨variants, s₂, -, hpure⟩
      · have hstart : Moves.along ⟨UInt8.ofNat 0x1f :: rest, start⟩
            (0x1f :: (littleEndianBytes 4 total ++ [].flatten)) s₁ := by
          rw [List.flatten_nil, List.append_nil]
          exact Moves.along_append (b := [0x1f]).mpr ⟨_, ⟨rfl, rfl⟩, hmove⟩
        exact fault_of_readTagged hfields hsoundFields hP (fun _ _ => id)
          ⟨htotal, Nat.zero_add total, .nil, by rintro tag ⟨⟩, hstart⟩ hvariants
      · cases hpure
  case h_33 =>
    rintro _ ⟨⟩
    refine .unknownTypeTag (along_self _) .tag rfl ?_
    rw [UInt8.toNat_ofNat_of_lt' hn]
    grind

/-- **Reading a type blames the data rightly.** -/
theorem blames_readType (levels : Nat) :
    Blames (readType declaredCount levels) (typeOutlook levels) := by
  induction levels with
  | zero =>
    rintro s _ ⟨⟩
    exact .tooDeep (along_self s) ⟨rfl, rfl⟩
  | succ levels ih => exact blames_readTypeOf ih (sound_readType levels) fun _ _ => And.left

end Types

end SchemaReader

open SchemaReader

/-! ### Whole schemas -/

/-- **What is awaited at an offset** of data that begin with a schema. -/
def AwaitedAt (data : List UInt8) (offset : Nat) (next : Awaited) : Prop :=
  offset ≤ data.length ∧ typeOutlook maxTypeDepth (data.take offset) next

/-- The number of four bytes at an offset. -/
def numberAt (data : List UInt8) (offset : Nat) : Nat :=
  littleEndian ((data.drop offset).take 4)

/-- **An error points at the bytes** that have caused it. -/
def SchemaError.PointsInto (data : List UInt8) : SchemaError → Prop
  | .base64 _ => False
  -- too few bytes for what is awaited, or fewer than the length of a name says
  | .unexpectedEnd offset => offset ≤ data.length ∧
      ((∃ next, AwaitedAt data offset next ∧ data.length < offset + next.size) ∨
        (4 ≤ offset ∧ AwaitedAt data (offset - 4) .name ∧
          data.length < offset + numberAt data (offset - 4)))
  | .unknownTypeTag tag offset => data[offset]? = some tag ∧ 0x20 ≤ tag.toNat ∧
      ∃ levels, AwaitedAt data offset (.type levels)
  | .unknownSizeLength tag offset => data[offset]? = some tag ∧ 4 ≤ tag.toNat ∧
      AwaitedAt data offset .width
  | .unknownFieldsTag tag offset => data[offset]? = some tag ∧ 3 ≤ tag.toNat ∧
      AwaitedAt data offset .fields
  -- two variants of the tagged enum that begins at `start`
  | .repeatedTag tag offset => data[offset]? = some tag ∧
      ∃ start earlier later levels, AwaitedAt data start (.type levels) ∧ earlier < later ∧
        offset = start + later ∧ data[start + earlier]? = some tag ∧
        VariantAt tag (data.drop start) earlier ∧ VariantAt tag (data.drop start) later
  | .invalidUtf8 offset => AwaitedAt data offset .name ∧
      offset + 4 + numberAt data offset ≤ data.length ∧
      ∀ name : String, (data.drop (offset + 4)).take (numberAt data offset) ≠
        name.toByteArray.data.toList
  | .trailingData count => 0 < count ∧ count < data.length ∧
      ∃ type, SchemaType.ofBytes (data.take (data.length - count)) = .ok type
  | .tooDeep limit => limit = 64 ∧ 64 ≤ data.length ∧ ∃ offset, AwaitedAt data offset (.type 0)

section Whole

variable {data : List UInt8} {error : SchemaError}

/-- Behind the bytes that have been read there are those that are left. -/
theorem awaitedAt_of_along {bytes : List UInt8} {next : Awaited} {s : Cursor}
    (along : Moves.along ⟨data, 0⟩ bytes s) (awaits : typeOutlook maxTypeDepth bytes next) :
    AwaitedAt data s.offset next ∧ data.drop s.offset = s.rest ∧
      data.length = s.offset + s.rest.length := by
  obtain ⟨rest, start⟩ := s
  obtain ⟨rfl, rfl⟩ : data = bytes ++ rest ∧ start = bytes.length :=
    ⟨along.1, along.2.trans (Nat.zero_add _)⟩
  refine ⟨⟨?_, ?_⟩, List.drop_left, List.length_append⟩
  · rw [List.length_append]
    exact Nat.le_add_right ..
  · rw [List.take_left]
    exact awaits

theorem getElem?_of_drop {offset : Nat} {byte : UInt8} {rest : List UInt8}
    (h : data.drop offset = byte :: rest) : data[offset]? = some byte := by
  rw [← Nat.add_zero offset, ← List.getElem?_drop, h]
  rfl

theorem numberAt_of_drop {offset n : Nat} {rest : List UInt8} (fits : n < 2 ^ 32)
    (h : data.drop offset = littleEndianBytes 4 n ++ rest) : numberAt data offset = n := by
  rw [numberAt, h, List.take_left' (length_littleEndianBytes 4 n)]
  exact littleEndian_littleEndianBytes_of_lt fits

theorem VariantAt.getElem? {tag : UInt8} {bytes : List UInt8} {offset : Nat}
    (h : VariantAt tag bytes offset) : bytes[offset]? = some tag := by
  obtain @⟨count, parts, variants, b, rest, variant, -, -, -⟩ := h
  have hfront : (0x1f :: (littleEndianBytes 4 count ++ parts.flatten)).length =
      5 + parts.flatten.length := by
    rw [List.length_cons, List.length_append, length_littleEndianBytes]
    omega
  have hdrop : (0x1f :: (littleEndianBytes 4 count ++
      (parts.flatten ++ (tag :: (b ++ rest))))).drop (5 + parts.flatten.length) =
        tag :: (b ++ rest) := by
    rw [← List.append_assoc, ← List.cons_append, List.drop_left' hfront]
  exact getElem?_of_drop hdrop

/-- A fault of whole data is one at an offset from their beginning. -/
theorem pointsInto_of_fault (h : Fault (typeOutlook maxTypeDepth) ⟨data, 0⟩ error) :
    error.PointsInto data := by
  cases h with
  | ended along awaits short =>
    obtain ⟨hawaited, -, hlength⟩ := awaitedAt_of_along along awaits
    exact ⟨hawaited.1, .inl ⟨_, hawaited, by omega⟩⟩
  | @endedName _ rest length s' along awaits split fits short =>
    obtain ⟨hawaited, hdrop, hlength⟩ := awaitedAt_of_along along awaits
    have hnumber : numberAt data s'.offset = length :=
      numberAt_of_drop fits (hdrop.trans split)
    rw [split, List.length_append, length_littleEndianBytes] at hlength
    refine ⟨by omega, .inr ⟨Nat.le_add_left 4 _, ?_⟩⟩
    rw [Nat.add_sub_cancel]
    exact ⟨hawaited, by omega⟩
  | @invalidUtf8 _ text rest s' along awaits split fits invalid =>
    obtain ⟨hawaited, hdrop, hlength⟩ := awaitedAt_of_along along awaits
    have hnumber : numberAt data s'.offset = text.length :=
      numberAt_of_drop fits (hdrop.trans split)
    have htext : (data.drop (s'.offset + 4)).take text.length = text := by
      rw [← List.drop_drop, hdrop, split, List.drop_left' (length_littleEndianBytes 4 _),
        List.take_left]
    rw [split, List.length_append, length_littleEndianBytes, List.length_append] at hlength
    refine ⟨hawaited, ?_, fun name => ?_⟩
    · rw [hnumber]
      omega
    · rw [hnumber, htext]
      exact invalid name
  | unknownTypeTag along awaits split unknown =>
    obtain ⟨hawaited, hdrop, -⟩ := awaitedAt_of_along along awaits
    exact ⟨getElem?_of_drop (hdrop.trans split), unknown, _, hawaited⟩
  | unknownSizeLength along awaits split unknown =>
    obtain ⟨hawaited, hdrop, -⟩ := awaitedAt_of_along along awaits
    exact ⟨getElem?_of_drop (hdrop.trans split), unknown, hawaited⟩
  | unknownFieldsTag along awaits split unknown =>
    obtain ⟨hawaited, hdrop, -⟩ := awaitedAt_of_along along awaits
    exact ⟨getElem?_of_drop (hdrop.trans split), unknown, hawaited⟩
  | repeatedTag along awaits lt hearlier hlater =>
    obtain ⟨hawaited, hdrop, -⟩ := awaitedAt_of_along along awaits
    rw [← hdrop] at hearlier hlater
    refine ⟨?_, _, _, _, _, hawaited, lt, rfl, ?_, hearlier, hlater⟩
    · rw [← List.getElem?_drop]
      exact hlater.getElem?
    · rw [← List.getElem?_drop]
      exact hearlier.getElem?
  | tooDeep along awaits =>
    obtain ⟨hawaited, -, hlength⟩ := awaitedAt_of_along along awaits
    have hdeep : 64 ≤ (data.take _).length := length_of_awaits_too_deep hawaited.2
    rw [List.length_take] at hdeep
    exact ⟨rfl, by omega, _, hawaited⟩

/-- **Every error points at the bytes that have caused it.** -/
theorem ofBytes_error_pointsInto (h : SchemaType.ofBytes data = .error error) :
    error.PointsInto data := by
  rcases hread : readType declaredCount maxTypeDepth ⟨data, 0⟩ with e | ⟨type, s⟩
  · rw [ofBytes_of_readType_error hread] at h
    obtain rfl := Except.error.inj h
    exact pointsInto_of_fault (blames_readType maxTypeDepth _ _ hread)
  · rw [ofBytes_of_readType_ok hread] at h
    obtain ⟨bytes, ⟨hdata, -⟩, hencodes⟩ := sound_readType maxTypeDepth _ _ _ hread
    obtain rfl : data = bytes ++ s.rest := hdata
    have hok : SchemaType.ofBytes bytes = .ok type := ofBytes_eq_ok_iff.mpr hencodes
    split at h
    · cases h
    · next hleft =>
      obtain rfl : .trailingData s.rest.length = error := Except.error.inj h
      have hbytes : bytes ≠ [] := by
        rintro rfl
        cases hok
      refine ⟨List.length_pos_iff.mpr fun hnil => hleft (by rw [hnil]; rfl), ?_, type, ?_⟩
      · rw [List.length_append]
        exact Nat.lt_add_of_pos_left (List.length_pos_iff.mpr hbytes)
      · rwa [List.length_append, Nat.add_sub_cancel, List.take_left]

/-- A tagged enum whose second variant has the tag of the first: the error points at the
second tag, at the offset 11, and there is an enum with two variants of that tag. -/
theorem repeatedTag_pointsInto :
    SchemaType.ofBytes [0x1f, 2, 0, 0, 0, 5, 0, 0, 0, 0, 2, 5, 0, 0, 0, 0, 2] =
        .error (.repeatedTag 5 11) ∧
      (SchemaError.repeatedTag 5 11).PointsInto
        [0x1f, 2, 0, 0, 0, 5, 0, 0, 0, 0, 2, 5, 0, 0, 0, 0, 2] :=
  have h : SchemaType.ofBytes [0x1f, 2, 0, 0, 0, 5, 0, 0, 0, 0, 2, 5, 0, 0, 0, 0, 2] =
      .error (.repeatedTag 5 11) := rfl
  ⟨h, ofBytes_error_pointsInto h⟩

end Whole

end ContractSchema
