import ContractSchema.Proofs.Schema.Reading

/-!
# Schemas cut short and schemas that go on

No reader of schemas looks ahead, so none can tell how much data there is until it has
come to the end. All of them are local
(`ContractSchema.SchemaReader.local_readType`), whichever way counts are read, and where the
data of a local reader end too early, the offset it reports lies within them.

What this means for whole schemas is that there are three cases
(`ContractSchema.ofBytes_append`). Bytes behind a schema are counted as left
over, together with those that were left over before. An error at some byte stays as it is,
for nothing behind that byte matters. Only an error at the end of the data may become
something else, and so it is the one error of every schema that has been cut short.
-/

namespace ContractSchema.SchemaReader

variable {α : Type}

/-! ### Bytes, numbers and names -/

/-- More bytes come behind what is left. An offset where data have ended is at most the
number of all bytes. How many bytes are left over is said by no reader of types. -/
instance : Extensible Cursor SchemaError where
  extend s more := ⟨s.rest ++ more, s.offset⟩
  EndsEarly s e := ∃ offset ≤ s.offset + s.rest.length, e = .unexpectedEnd offset
  AtByte e := ∀ count, e ≠ .trailingData count
  endsEarly_of_along := by
    rintro s bytes s' e ⟨hrest, hoffset⟩ ⟨offset, hle, rfl⟩
    refine ⟨offset, ?_, rfl⟩
    rw [hrest, List.length_append]
    omega

theorem local_offset : Local offset where
  moves := by
    intro s a s' hrun
    obtain ⟨-, rfl⟩ := Prod.mk.inj (Except.ok.inj hrun)
    exact ⟨[], Moves.along_nil.mpr rfl⟩
  ok := by
    intro s a s' hrun more
    obtain ⟨rfl, rfl⟩ := Prod.mk.inj (Except.ok.inj hrun)
    rfl
  error := by
    intro s e hrun
    cases hrun

theorem local_fail {error : SchemaError} (h : ∀ count, error ≠ .trailingData count) :
    Local (fail error : SchemaReader α) where
  moves := by
    intro s a s' hrun
    cases hrun
  ok := by
    intro s a s' hrun
    cases hrun
  error := by
    intro s e hrun
    obtain rfl := Except.error.inj hrun
    exact Or.inr ⟨h, fun more => rfl⟩

/-- Bytes that have been there are not taken from what comes later. -/
theorem local_readSlice (count : Nat) : Local (readSlice count) where
  moves := by
    intro s bytes s' hrun
    obtain ⟨taken, halong, -⟩ := sound_readSlice count s bytes s' hrun
    exact ⟨taken, halong⟩
  ok := by
    intro s bytes s' hrun more
    obtain ⟨taken, ⟨hrest, hoffset⟩, rfl, rfl⟩ := sound_readSlice count s bytes s' hrun
    refine accepts_readSlice taken _ _ ⟨?_, hoffset⟩
    change s.rest ++ more = taken ++ (s'.rest ++ more)
    rw [hrest, List.append_assoc]
  error := by
    intro s e hrun
    rcases hsplit : splitExact count s.rest with _ | ⟨taken, rest⟩
    · obtain rfl : .unexpectedEnd s.offset = e := by simpa [readSlice, hsplit] using hrun
      exact Or.inl ⟨s.offset, Nat.le_add_right .., rfl⟩
    · simp [readSlice, hsplit] at hrun

theorem local_readU8 : Local readU8 where
  moves := by
    intro s byte s' hrun
    obtain ⟨bytes, halong, -⟩ := sound_readU8 s byte s' hrun
    exact ⟨bytes, halong⟩
  ok := by
    intro s byte s' hrun more
    obtain ⟨bytes, ⟨hrest, hoffset⟩, rfl⟩ := sound_readU8 s byte s' hrun
    refine accepts_readU8 byte _ _ ⟨?_, hoffset⟩
    change s.rest ++ more = [byte] ++ (s'.rest ++ more)
    rw [hrest, List.append_assoc]
  error := by
    rintro ⟨_ | ⟨byte, rest⟩, offset⟩ e hrun
    · obtain rfl : .unexpectedEnd offset = e := Except.error.inj hrun
      exact Or.inl ⟨offset, Nat.le_add_right .., rfl⟩
    · cases hrun

theorem local_readU32 : Local readU32 :=
  (local_readSlice 4).bind_pure fun bytes => UInt32.ofNat (littleEndian bytes)

theorem local_declaredCount : Local declaredCount :=
  local_readU32.bind_pure UInt32.toNat

theorem local_readString : Local readString := by
  refine local_offset.bind fun start => local_readU32.bind fun length => ?_
  refine (local_readSlice length.toNat).bind fun bytes => ?_
  split
  · exact local_pure _
  · exact local_fail (by simp)

theorem local_readSizeLength : Local readSizeLength := by
  refine local_offset.bind fun start => local_readU8.bind fun tag => ?_
  split
  · exact local_pure _
  · exact local_fail (by simp)

/-! ### Lists -/

theorem local_readMany {element : SchemaReader α} (h : Local element) (count : Nat) :
    Local (readMany element count) := by
  induction count with
  | zero => exact local_pure []
  | succ count ih => exact h.bind fun first => ih.bind_pure (first :: ·)

theorem local_readNamed {element : SchemaReader α} (h : Local element) :
    Local (readNamed element) :=
  local_readString.bind fun name => h.bind_pure (name, ·)

theorem local_readTagged {fields : SchemaReader Fields} (h : Local fields) (count : Nat)
    (found : UInt8 → Option (String × Fields)) : Local (readTagged fields count found) := by
  induction count generalizing found with
  | zero => exact local_pure found
  | succ count ih =>
    refine local_offset.bind fun start => local_readU8.bind fun tag => ?_
    refine (local_readNamed h).bind fun variant => ?_
    split
    · exact local_fail (by simp)
    · exact ih _

/-! ### Types -/

section Types

variable {count : SchemaReader Nat} {inner : SchemaReader SchemaType}

theorem local_readFields (hcount : Local count) (h : Local inner) :
    Local (readFields count inner) := by
  refine local_offset.bind fun start => local_readU8.bind fun tag => ?_
  split
  · exact hcount.bind fun n => (local_readMany (local_readNamed h) n).bind_pure Fields.named
  · exact hcount.bind fun n => (local_readMany h n).bind_pure Fields.unnamed
  · exact local_pure _
  · exact local_fail (by simp)

theorem local_readTypeOf (hcount : Local count) (h : Local inner) :
    Local (readTypeOf count inner) := by
  have hfields := local_readFields hcount h
  refine local_offset.bind fun start => local_readU8.bind fun tag => ?_
  -- the branches by what follows the tag, beginning with those where nothing does
  split
  all_goals try exact local_pure _
  all_goals try exact local_readSizeLength.bind_pure _
  all_goals try exact local_readU32.bind_pure _
  case h_16 => exact h.bind fun left => h.bind_pure fun right => left.pair right
  case h_17 => exact local_readSizeLength.bind fun size => h.bind_pure (SchemaType.list size)
  case h_18 => exact local_readSizeLength.bind fun size => h.bind_pure (SchemaType.set size)
  case h_19 =>
    refine local_readSizeLength.bind fun size => h.bind fun key => ?_
    exact h.bind_pure (SchemaType.map size key)
  case h_20 => exact local_readU32.bind fun length => h.bind_pure (SchemaType.array length)
  case h_21 => exact hfields.bind_pure SchemaType.struct
  case h_22 =>
    refine hcount.bind fun n => ?_
    exact (local_readMany (local_readNamed hfields) n).bind_pure SchemaType.enum
  case h_32 =>
    refine hcount.bind fun n => ?_
    exact (local_readTagged hfields n noEntries).bind_pure SchemaType.taggedEnum
  case h_33 => exact local_fail (by simp)

/-- **No reader of types looks ahead.** -/
theorem local_readType (hcount : Local count) (depth : Nat) : Local (readType count depth) := by
  induction depth with
  | zero => exact local_fail (by simp)
  | succ depth ih => exact local_readTypeOf hcount ih

end Types

end ContractSchema.SchemaReader

namespace ContractSchema

open SchemaReader

/-! ### Whole schemas -/

theorem ofBytes_of_readType_ok {data : List UInt8} {type : SchemaType} {s : Cursor}
    (h : readType declaredCount maxTypeDepth ⟨data, 0⟩ = .ok (type, s)) :
    SchemaType.ofBytes data =
      if s.rest.isEmpty then .ok type else .error (.trailingData s.rest.length) := by
  rw [SchemaType.ofBytes, readWhole, h]
  rfl

theorem ofBytes_of_readType_error {data : List UInt8} {error : SchemaError}
    (h : readType declaredCount maxTypeDepth ⟨data, 0⟩ = .error error) :
    SchemaType.ofBytes data = .error error := by
  rw [SchemaType.ofBytes, readWhole, h]
  rfl

/-- Bytes behind data that begin with a type are left over, with whatever has been. -/
theorem ofBytes_append_of_readType_ok {data more : List UInt8} {type : SchemaType} {s : Cursor}
    (h : readType declaredCount maxTypeDepth ⟨data, 0⟩ = .ok (type, s)) (hmore : more ≠ []) :
    SchemaType.ofBytes (data ++ more) = .error (.trailingData (s.rest.length + more.length)) := by
  have hlonger : readType declaredCount maxTypeDepth ⟨data ++ more, 0⟩ =
      .ok (type, ⟨s.rest ++ more, s.offset⟩) :=
    (local_readType local_declaredCount maxTypeDepth).ok h more
  have hleft : (s.rest ++ more).isEmpty = false :=
    List.isEmpty_eq_false_iff.mpr (List.append_ne_nil_of_right_ne_nil s.rest hmore)
  rw [ofBytes_of_readType_ok hlonger, hleft, List.length_append]
  rfl

/-- Data that do not begin with a type end too early, or they have an error which stays. -/
theorem readType_error_cases {data : List UInt8} {error : SchemaError}
    (h : readType declaredCount maxTypeDepth ⟨data, 0⟩ = .error error) :
    (∃ offset ≤ data.length, error = .unexpectedEnd offset) ∨
      (∀ count, error ≠ .trailingData count) ∧
        ∀ more, SchemaType.ofBytes (data ++ more) = .error error := by
  rcases (local_readType local_declaredCount maxTypeDepth).error h with hend | ⟨hbyte, hmore⟩
  · obtain ⟨offset, hle, rfl⟩ := hend
    exact Or.inl ⟨offset, by rwa [Nat.zero_add] at hle, rfl⟩
  · exact Or.inr ⟨hbyte, fun more => ofBytes_of_readType_error (hmore more)⟩

/-- **How schemas take more bytes.** Behind a type they are left over, and they are added to
what has been left over before. Any other error stays the same, with its offset, unless it
says that the data end too early. So a schema that has been cut short always ends too
early, and at an offset within what there is. -/
theorem ofBytes_append {data more : List UInt8} (hmore : more ≠ []) :
    (∀ type, SchemaType.ofBytes data = .ok type →
      SchemaType.ofBytes (data ++ more) = .error (.trailingData more.length)) ∧
    (∀ count, SchemaType.ofBytes data = .error (.trailingData count) →
      SchemaType.ofBytes (data ++ more) = .error (.trailingData (count + more.length))) ∧
    (∀ error, SchemaType.ofBytes data = .error error →
      (∀ count, error ≠ .trailingData count) → (∀ offset, error ≠ .unexpectedEnd offset) →
        SchemaType.ofBytes (data ++ more) = .error error) ∧
    ∀ type, SchemaType.ofBytes (data ++ more) = .ok type →
      ∃ offset ≤ data.length, SchemaType.ofBytes data = .error (.unexpectedEnd offset) := by
  rcases hread : readType declaredCount maxTypeDepth ⟨data, 0⟩ with error | ⟨type, s⟩
  · rw [ofBytes_of_readType_error hread]
    rcases readType_error_cases hread with ⟨offset, hle, rfl⟩ | ⟨hbyte, hlonger⟩
    · refine ⟨by simp, by simp, fun error herror _ hend => ?_, fun _ _ => ⟨offset, hle, rfl⟩⟩
      exact absurd (Except.error.inj herror).symm (hend offset)
    · rw [hlonger more]
      refine ⟨by simp, fun count hcount => ?_, fun _ herror _ _ => herror, by simp⟩
      exact absurd (Except.error.inj hcount) (hbyte count)
  · have hlonger := ofBytes_append_of_readType_ok hread hmore
    rw [hlonger, ofBytes_of_readType_ok hread]
    rcases hrest : s.rest with _ | ⟨byte, rest⟩
    · simp
    · refine ⟨by simp, fun count hcount => ?_, fun error herror hcount _ => ?_, by simp⟩
      · obtain rfl : (byte :: rest).length = count := by simpa using hcount
        rfl
      · exact absurd (Except.error.inj herror).symm (hcount _)

/-- A pair of two types without parts, with a byte too many, with an unknown tag, and cut
short. -/
theorem ofBytes_append_pair :
    SchemaType.ofBytes ([0x0f, 0x00, 0x01] ++ [0x02]) = .error (.trailingData 1) ∧
      SchemaType.ofBytes ([0x0f, 0x00, 0x01, 0x02] ++ [0x03]) = .error (.trailingData 2) ∧
      SchemaType.ofBytes ([0x0f, 0x00, 0xff] ++ [0x01]) = .error (.unknownTypeTag 0xff 2) ∧
      ∃ offset ≤ 2, SchemaType.ofBytes [0x0f, 0x00] = .error (.unexpectedEnd offset) := by
  have hpair : SchemaType.ofBytes ([0x0f, 0x00] ++ [0x01]) = .ok (.pair .unit .bool) := rfl
  refine ⟨?_, ?_, ?_, ?_⟩
  · exact (ofBytes_append (by simp)).1 _ hpair
  · exact (ofBytes_append (by simp)).2.1 1 rfl
  · exact (ofBytes_append (by simp)).2.2.1 _ rfl (by simp) (by simp)
  · exact (ofBytes_append (by simp)).2.2.2 _ hpair

end ContractSchema
