import ContractSchema.Proofs.Schema.Truncation

/-!
# Types nested too deeply

A reader of types counts how many more of them may be nested inside each other. Whoever
counts further reads the same, as far as that goes: a reader **gives up or agrees** with a
deeper one (`ContractSchema.SchemaReader.GivesUpOrAgrees`). This is a matter of steps again
(`ContractSchema.SchemaReader.GivesUpOrAgrees.bind`), so it holds of every reader whose parts
are read by such readers, wherever the parts stand and whatever is complete in front of
them (`ContractSchema.SchemaReader.givesUpOrAgrees_readType`).

For the bytes of a type there is a reader deep enough. The usual one cannot agree with it if
the type has more levels than it counts, so it gives up, and that is what it reports
(`ContractSchema.ofBytes_tooDeep`).
-/

namespace ContractSchema.SchemaReader

variable {α β : Type}

/-! ### Shallow and deep readers -/

/-- **A reader gives up or agrees** with a deeper one: unless it finds too many types inside
each other, it does the same. -/
def GivesUpOrAgrees (reader deeper : SchemaReader α) : Prop :=
  ∀ s, reader s = .error (.tooDeep maxTypeDepth) ∨ reader s = deeper s

theorem givesUpOrAgrees_refl (reader : SchemaReader α) : GivesUpOrAgrees reader reader :=
  fun _ => Or.inr rfl

theorem GivesUpOrAgrees.bind {reader deeper : SchemaReader α} {next next' : α → SchemaReader β}
    (h : GivesUpOrAgrees reader deeper) (hnext : ∀ a, GivesUpOrAgrees (next a) (next' a)) :
    GivesUpOrAgrees (reader >>= next) (deeper >>= next') := by
  intro s
  rcases h s with hdeep | hsame
  · exact Or.inl (step_bind_of_error hdeep)
  · rcases hfirst : deeper s with error | ⟨a, s'⟩
    · rw [hfirst] at hsame
      exact Or.inr (by rw [step_bind_of_error hsame, step_bind_of_error hfirst])
    · rw [hfirst] at hsame
      rw [step_bind_of_ok hsame, step_bind_of_ok hfirst]
      exact hnext a s'

theorem GivesUpOrAgrees.bind_pure {reader deeper : SchemaReader α}
    (h : GivesUpOrAgrees reader deeper) (f : α → β) :
    GivesUpOrAgrees (reader >>= fun a => pure (f a)) (deeper >>= fun a => pure (f a)) :=
  h.bind fun _ => givesUpOrAgrees_refl _

/-- Something without types inside is read in front of what may be nested. -/
theorem GivesUpOrAgrees.behind {next next' : α → SchemaReader β}
    (hnext : ∀ a, GivesUpOrAgrees (next a) (next' a)) (reader : SchemaReader α) :
    GivesUpOrAgrees (reader >>= next) (reader >>= next') :=
  (givesUpOrAgrees_refl reader).bind hnext

/-! ### Lists -/

theorem givesUpOrAgrees_readMany {element deeper : SchemaReader α}
    (h : GivesUpOrAgrees element deeper) (count : Nat) :
    GivesUpOrAgrees (readMany element count) (readMany deeper count) := by
  induction count with
  | zero => exact givesUpOrAgrees_refl _
  | succ count ih => exact h.bind fun first => ih.bind_pure (first :: ·)

theorem givesUpOrAgrees_readNamed {element deeper : SchemaReader α}
    (h : GivesUpOrAgrees element deeper) :
    GivesUpOrAgrees (readNamed element) (readNamed deeper) :=
  .behind (fun name => h.bind_pure (name, ·)) readString

theorem givesUpOrAgrees_readTagged {fields deeper : SchemaReader Fields}
    (h : GivesUpOrAgrees fields deeper) (count : Nat)
    (found : UInt8 → Option (String × Fields)) :
    GivesUpOrAgrees (readTagged fields count found) (readTagged deeper count found) := by
  induction count generalizing found with
  | zero => exact givesUpOrAgrees_refl _
  | succ count ih =>
    refine .behind (fun start => .behind (fun tag => ?_) readU8) offset
    refine (givesUpOrAgrees_readNamed h).bind fun variant => ?_
    split
    · exact givesUpOrAgrees_refl _
    · exact ih _

/-! ### Types -/

section Types

variable (count : SchemaReader Nat) {inner deeper : SchemaReader SchemaType}

theorem givesUpOrAgrees_readFields (h : GivesUpOrAgrees inner deeper) :
    GivesUpOrAgrees (readFields count inner) (readFields count deeper) := by
  refine .behind (fun start => .behind (fun tag => ?_) readU8) offset
  split
  · refine .behind (fun n => ?_) count
    exact (givesUpOrAgrees_readMany (givesUpOrAgrees_readNamed h) n).bind_pure Fields.named
  · refine .behind (fun n => ?_) count
    exact (givesUpOrAgrees_readMany h n).bind_pure Fields.unnamed
  · exact givesUpOrAgrees_refl _
  · exact givesUpOrAgrees_refl _

theorem givesUpOrAgrees_readTypeOf (h : GivesUpOrAgrees inner deeper) :
    GivesUpOrAgrees (readTypeOf count inner) (readTypeOf count deeper) := by
  have hfields := givesUpOrAgrees_readFields count h
  refine .behind (fun start => .behind (fun tag => ?_) readU8) offset
  -- the branches by what is inside, beginning with those where no types are
  split
  all_goals try exact givesUpOrAgrees_refl _
  case h_16 => exact h.bind fun left => h.bind_pure fun right => left.pair right
  case h_17 => exact .behind (fun size => h.bind_pure (SchemaType.list size)) readSizeLength
  case h_18 => exact .behind (fun size => h.bind_pure (SchemaType.set size)) readSizeLength
  case h_19 =>
    refine .behind (fun size => h.bind fun key => ?_) readSizeLength
    exact h.bind_pure (SchemaType.map size key)
  case h_20 => exact .behind (fun length => h.bind_pure (SchemaType.array length)) readU32
  case h_21 => exact hfields.bind_pure SchemaType.struct
  case h_22 =>
    refine .behind (fun n => ?_) count
    exact (givesUpOrAgrees_readMany (givesUpOrAgrees_readNamed hfields) n).bind_pure
      SchemaType.enum
  case h_32 =>
    refine .behind (fun n => ?_) count
    exact (givesUpOrAgrees_readTagged hfields n noEntries).bind_pure SchemaType.taggedEnum

/-- **A reader that may nest less gives up or agrees** with one that may nest more. -/
theorem givesUpOrAgrees_readType {depth depth' : Nat} (h : depth ≤ depth') :
    GivesUpOrAgrees (readType count depth) (readType count depth') := by
  induction depth generalizing depth' with
  | zero => exact fun s => Or.inl rfl
  | succ depth ih =>
    obtain ⟨depth', rfl⟩ : ∃ d, depth' = d + 1 := ⟨depth' - 1, by omega⟩
    exact givesUpOrAgrees_readTypeOf count (ih (Nat.le_of_succ_le_succ h))

end Types

end ContractSchema.SchemaReader

namespace ContractSchema

open SchemaReader

/-! ### Whole schemas -/

/-- **Types nested too deeply are reported as such.** Where data begin with the bytes of a type
that has more than 64 levels, this is the error, whatever is read before the place that is
too deep and whatever follows the type. -/
theorem ofBytes_tooDeep {data : List UInt8} {type : SchemaType} (h : Encodes data type)
    (hdepth : 64 < type.depth) (more : List UInt8) :
    SchemaType.ofBytes (data ++ more) = .error (.tooDeep 64) := by
  -- a reader that may nest as deep as the type reads it
  have hread := accepts_readType h (Nat.le_refl type.depth) ⟨data ++ more, 0⟩
    ⟨more, 0 + data.length⟩ ⟨rfl, rfl⟩
  have hlevels : maxTypeDepth ≤ type.depth := Nat.le_of_lt hdepth
  rcases givesUpOrAgrees_readType declaredCount hlevels ⟨data ++ more, 0⟩ with hdeep | hsame
  · exact ofBytes_of_readType_error hdeep
  · rw [hread] at hsame
    obtain ⟨-, -, -, hle⟩ := sound_readType maxTypeDepth _ _ _ hsame
    exact absurd hle (Nat.not_le.mpr hdepth)

/-- Lists of lists, and truth values in the innermost. -/
def nestedLists : Nat → SchemaType
  | 0 => .bool
  | levels + 1 => .list .u8 (nestedLists levels)

theorem encodes_nestedLists (levels : Nat) :
    Encodes ((List.replicate levels [0x10, 0x00]).flatten ++ [0x01]) (nestedLists levels) := by
  induction levels with
  | zero => exact .mk .bool
  | succ levels ih =>
    rw [List.replicate_succ, List.flatten_cons, List.append_assoc]
    exact .mk (.list .u8 ih)

theorem depth_nestedLists (levels : Nat) : (nestedLists levels).depth = levels + 1 := by
  induction levels with
  | zero => rfl
  | succ levels ih => rw [nestedLists, SchemaType.depth, ih]

/-- A pair whose right half is nested too deeply, with an unknown tag behind it. -/
theorem ofBytes_tooDeep_pair :
    64 < (SchemaType.pair .unit (nestedLists 63)).depth ∧
      SchemaType.ofBytes
          (0x0f :: ([0x00] ++ ((List.replicate 63 [0x10, 0x00]).flatten ++ [0x01])) ++ [0xff]) =
        .error (.tooDeep 64) := by
  have hdepth : 64 < (SchemaType.pair .unit (nestedLists 63)).depth := by
    rw [SchemaType.depth, depth_nestedLists]
    decide
  exact ⟨hdepth, ofBytes_tooDeep (.mk (.pair (.mk .unit) (encodes_nestedLists 63))) hdepth [0xff]⟩

end ContractSchema
