import ContractSchema.Proofs.Schema.Reading

/-!
# Counts that promise too much

The number of fields or variants is declared in the data, and it may be far more than the data
could hold. Yet the readers come to an end soon: every field and every variant takes at least a
byte (`ContractSchema.SchemaReader.Advances`), so a loop over more of them than there are bytes
left fails, and it fails in the same place with the same error whatever the count is
(`ContractSchema.SchemaReader.Exhausts`).

One round of such a loop either fails by itself or goes on with fewer bytes
(`ContractSchema.SchemaReader.exhausts_of_rounds`); nothing else is asked of the loops. A reader
that reads a count and does that many rounds therefore does not change if the count is bounded by
the bytes left and one (`ContractSchema.SchemaReader.Exhausts.capped`), and neither does the
reader of schemas (`ContractSchema.cappedCount_suffices`).
-/

namespace ContractSchema.SchemaReader

variable {α β : Type}

/-! ### Loops -/

/-- **The loop exhausts the data**: from any place there is one error with which it ends for all
counts that are more than what is left. -/
def Exhausts (loop : Nat → SchemaReader α) : Prop :=
  ∀ s : Cursor, ∃ error, ∀ count, s.rest.length < count → loop count s = .error error

/-- **Loops exhaust the data** if each round fails or goes on with fewer bytes. -/
theorem exhausts_of_rounds {ι : Type} (loop : ι → Nat → SchemaReader α)
    (hround : ∀ i s, (∃ error, ∀ count, loop i (count + 1) s = .error error) ∨
      ∃ i' s', s'.rest.length < s.rest.length ∧ ∀ count error,
        loop i' count s' = .error error → loop i (count + 1) s = .error error) (i : ι) :
    Exhausts (loop i) := by
  intro s
  -- on the number of bytes left, whatever the loop has come to
  induction hlength : s.rest.length using Nat.strongRecOn generalizing i s with
  | ind length ih =>
    subst hlength
    rcases hround i s with ⟨error, herror⟩ | ⟨i', s', hlt, hnext⟩
    · refine ⟨error, fun count hcount => ?_⟩
      cases count with
      | zero => exact absurd hcount (Nat.not_lt_zero _)
      | succ count => exact herror count
    · obtain ⟨error, herror⟩ := ih _ hlt i' s' rfl
      refine ⟨error, fun count hcount => ?_⟩
      cases count with
      | zero => exact absurd hcount (Nat.not_lt_zero _)
      | succ count => exact hnext count error (herror count (by omega))

theorem exhausts_readMany {element : SchemaReader α} (h : Advances element) :
    Exhausts (readMany element) := by
  refine exhausts_of_rounds (fun _ : Unit => readMany element) (fun _ s => ?_) ()
  rcases hfirst : element s with error | ⟨first, s'⟩
  · exact Or.inl ⟨error, fun count => step_bind_of_error hfirst⟩
  · refine Or.inr ⟨(), s', h.length_lt hfirst, fun count error hothers => ?_⟩
    exact (step_bind_of_ok hfirst).trans (step_bind_of_error hothers)

theorem readTagged_cons (fields : SchemaReader Fields) (count : Nat)
    (found : UInt8 → Option (String × Fields)) (tag : UInt8) (rest : List UInt8) (start : Nat) :
    readTagged fields (count + 1) found ⟨tag :: rest, start⟩ =
      (readNamed fields >>= fun variant =>
        if (found tag).isSome then fail (.repeatedTag tag start)
        else readTagged fields count (setEntry tag variant found)) ⟨rest, start + 1⟩ := rfl

theorem exhausts_readTagged {fields : SchemaReader Fields} (h : Advances fields)
    (found : UInt8 → Option (String × Fields)) :
    Exhausts fun count => readTagged fields count found := by
  refine exhausts_of_rounds (fun found count => readTagged fields count found)
    (fun found s => ?_) found
  obtain ⟨rest, start⟩ := s
  rcases rest with _ | ⟨tag, rest⟩
  · exact Or.inl ⟨.unexpectedEnd start, fun count => rfl⟩
  · simp only [readTagged_cons]
    rcases hvariant : readNamed fields ⟨rest, start + 1⟩ with error | ⟨variant, s'⟩
    · exact Or.inl ⟨error, fun count => step_bind_of_error hvariant⟩
    · simp only [step_bind_of_ok hvariant]
      split
      · exact Or.inl ⟨.repeatedTag tag start, fun count => rfl⟩
      · have hlt : s'.rest.length < rest.length := h.readNamed.length_lt hvariant
        exact Or.inr ⟨setEntry tag variant found, s', Nat.lt_succ_of_lt hlt, fun _ _ => id⟩

section Exhausting

variable {loop : Nat → SchemaReader α}

/-- As long as a loop goes well, it has not done more rounds than there are bytes. -/
theorem Exhausts.le_length (h : Exhausts loop) {count : Nat} {s s' : Cursor} {a : α}
    (hrun : loop count s = .ok (a, s')) : count ≤ s.rest.length := by
  obtain ⟨error, herror⟩ := h s
  refine Nat.le_of_not_lt fun hlt => ?_
  rw [herror count hlt] at hrun
  cases hrun

theorem Exhausts.bind_pure (h : Exhausts loop) (f : α → β) :
    Exhausts fun count => loop count >>= fun a => pure (f a) := by
  intro s
  obtain ⟨error, herror⟩ := h s
  exact ⟨error, fun count hcount => step_bind_of_error (herror count hcount)⟩

/-- Such a loop does not do more than one round beyond the bytes that are left. -/
theorem Exhausts.eq_min (h : Exhausts loop) (count : Nat) (s : Cursor) :
    loop count s = loop (min count (s.rest.length + 1)) s := by
  rcases Nat.le_total count (s.rest.length + 1) with hle | hge
  · rw [Nat.min_eq_left hle]
  · obtain ⟨error, herror⟩ := h s
    rw [Nat.min_eq_right hge, herror count hge, herror _ (Nat.lt_succ_self _)]

/-- **The count may be capped** in front of such a loop. -/
theorem Exhausts.capped (h : Exhausts loop) : cappedCount >>= loop = declaredCount >>= loop := by
  funext s
  rcases hcount : declaredCount s with error | ⟨count, s'⟩
  · have hcapped : cappedCount s = .error error := step_bind_of_error hcount
    rw [step_bind_of_error hcapped, step_bind_of_error hcount]
  · have hcapped : cappedCount s = .ok (min count (s'.rest.length + 1), s') :=
      step_bind_of_ok hcount
    rw [step_bind_of_ok hcapped, step_bind_of_ok hcount, ← h.eq_min]

end Exhausting

/-! ### Types -/

section Types

variable {inner : SchemaReader SchemaType}

theorem readFields_cappedCount (h : Advances inner) :
    readFields cappedCount inner = readFields declaredCount inner := by
  refine congrArg (offset >>= ·) (funext fun start => ?_)
  refine congrArg (readU8 >>= ·) (funext fun tag => ?_)
  split
  · exact ((exhausts_readMany h.readNamed).bind_pure Fields.named).capped
  · exact ((exhausts_readMany h).bind_pure Fields.unnamed).capped
  · rfl
  · rfl

/-- The three readers of elements whose number is declared: fields, and variants of both sorts. -/
theorem readTypeOf_cappedCount (h : Advances inner)
    (hfields : Advances (readFields declaredCount inner)) :
    readTypeOf cappedCount inner = readTypeOf declaredCount inner := by
  rw [readTypeOf, readTypeOf, readFields_cappedCount h]
  refine congrArg (offset >>= ·) (funext fun start => ?_)
  refine congrArg (readU8 >>= ·) (funext fun tag => ?_)
  split
  case h_22 => exact ((exhausts_readMany hfields.readNamed).bind_pure SchemaType.enum).capped
  case h_32 =>
    exact ((exhausts_readTagged hfields noEntries).bind_pure SchemaType.taggedEnum).capped
  all_goals rfl

/-- **Capping the counts changes nothing**, at any depth. -/
theorem readType_cappedCount (depth : Nat) :
    readType cappedCount depth = readType declaredCount depth := by
  induction depth with
  | zero => rfl
  | succ depth ih =>
    rw [readType, ih]
    exact readTypeOf_cappedCount (advances_readType depth) (advances_readFields depth)

end Types

/-- **The loops over elements** whose number is declared in the data, for types of which so many
more may be nested. -/
inductive ElementLoop : {α : Type} → (Nat → SchemaReader α) → Prop
  /-- Over fields with names. -/
  | namedFields (depth : Nat) : ElementLoop (readMany (readNamed (readType declaredCount depth)))
  /-- Over fields without names. -/
  | unnamedFields (depth : Nat) : ElementLoop (readMany (readType declaredCount depth))
  /-- Over the variants of an enum. -/
  | variants (depth : Nat) : ElementLoop
      (readMany (readNamed (readFields declaredCount (readType declaredCount depth))))
  /-- Over variants with tags. -/
  | taggedVariants (depth : Nat) : ElementLoop fun count =>
      readTagged (readFields declaredCount (readType declaredCount depth)) count noEntries

theorem ElementLoop.exhausts {loop : Nat → SchemaReader α} (h : ElementLoop loop) :
    Exhausts loop := by
  cases h with
  | namedFields depth => exact exhausts_readMany (advances_readType depth).readNamed
  | unnamedFields depth => exact exhausts_readMany (advances_readType depth)
  | variants depth => exact exhausts_readMany (advances_readFields depth).readNamed
  | taggedVariants depth => exact exhausts_readTagged (advances_readFields depth) noEntries

end ContractSchema.SchemaReader

namespace ContractSchema

open SchemaReader

/-- **Capped counts suffice.** A reader that takes no count for more than the number of bytes left
behind it, and one, reads the same from all data, and where it fails it does so with the same
error. A loop over elements, whatever its count is, does at most one round more than there are
bytes left, and it succeeds with no more rounds than bytes. -/
theorem cappedCount_suffices :
    (∀ data, readWhole cappedCount data = SchemaType.ofBytes data) ∧
      ∀ {α : Type} {loop : Nat → SchemaReader α}, ElementLoop loop → ∀ count s,
        loop count s = loop (min count (s.rest.length + 1)) s ∧
          ∀ result, loop count s = .ok result → count ≤ s.rest.length := by
  refine ⟨fun data => ?_, fun h count s => ⟨h.exhausts.eq_min count s, fun _ hrun => ?_⟩⟩
  · rw [SchemaType.ofBytes, readWhole, readWhole, readType_cappedCount]
  · exact h.exhausts.le_length hrun

/-- An enum that claims to have as many variants as can be declared, but has one, and a loop over
as many fields, but there are three. -/
theorem cappedCount_suffices_boundless :
    readWhole cappedCount [0x15, 0xff, 0xff, 0xff, 0xff, 1, 0, 0, 0, 97, 2] =
        .error (.unexpectedEnd 11) ∧
      readMany (readType declaredCount 1) 0xffffffff ⟨[0x00, 0x01, 0x02], 0⟩ =
        .error (.unexpectedEnd 3) ∧
      ∃ result, readMany (readType declaredCount 1) 3 ⟨[0x00, 0x01, 0x02], 0⟩ = .ok result ∧
        3 ≤ [0x00, 0x01, 0x02].length := by
  obtain ⟨hsame, hloop⟩ := cappedCount_suffices
  have hread : SchemaType.ofBytes [0x15, 0xff, 0xff, 0xff, 0xff, 1, 0, 0, 0, 97, 2] =
      .error (.unexpectedEnd 11) := rfl
  have hfour : readMany (readType declaredCount 1) 4 ⟨[0x00, 0x01, 0x02], 0⟩ =
      .error (.unexpectedEnd 3) := rfl
  have hthree : readMany (readType declaredCount 1) 3 ⟨[0x00, 0x01, 0x02], 0⟩ =
      .ok ([.unit, .bool, .u8], ⟨[], 3⟩) := rfl
  refine ⟨(hsame _).trans hread, ?_, _, hthree, (hloop (.unnamedFields 1) 3 _).2 _ hthree⟩
  exact (hloop (.unnamedFields 1) 0xffffffff _).1.trans hfour

end ContractSchema
