import Mathlib.Data.List.Forall2

/-!
# Steps that read

Readers are steps on what is left of the data, and a step may fail. To take such a
program apart one needs to know a single thing: two steps in a row succeed exactly if
the first one does and the second one does where the first has stopped
(`ContractSchema.step_bind_eq_ok`). The same holds of computations that only may fail
(`ContractSchema.except_bind_eq_ok`).

Whatever the places in the data are, a step moves from one of them over some bytes to
another (`ContractSchema.Moves`). A **language** tells which bytes stand for which things,
and a reader and a language belong together if the reader takes off the data, in front of
whatever follows, exactly the bytes of the language. This has two halves:

* `ContractSchema.Accepts` – the reader takes given bytes for a given thing, whatever
  follows them;
* `ContractSchema.Sound` – whatever the reader takes belongs to a language.

Both go through a program step by step (`ContractSchema.Accepts.bind`,
`ContractSchema.Sound.bind`); for soundness the language of what is still to be read is
what the steps before have left of the whole language.

A reader knows only the bytes it has taken. If more bytes are put behind the data it does
what it did before, unless it had come to the end and missed something there: it is
**local** (`ContractSchema.Local`). This too is a matter of steps
(`ContractSchema.Local.bind`), and no language is needed for it.
-/

namespace ContractSchema

section Failing

variable {ε α β : Type}

theorem except_bind_eq_ok {x : Except ε α} {f : α → Except ε β} {b : β} :
    (x >>= f) = .ok b ↔ ∃ a, x = .ok a ∧ f a = .ok b := by
  cases x with
  | error e =>
    have herror : (Except.error e >>= f) = .error e := rfl
    rw [herror]
    constructor
    · intro h
      exact absurd h (by simp)
    · rintro ⟨a, ha, -⟩
      exact absurd ha (by simp)
  | ok a =>
    constructor
    · exact fun h => ⟨a, rfl, h⟩
    · rintro ⟨a', ha, h⟩
      obtain rfl := Except.ok.inj ha
      exact h

theorem mapError_eq_ok_iff {ε' : Type} {x : Except ε α} {f : ε → ε'} {a : α} :
    x.mapError f = .ok a ↔ x = .ok a := by
  cases x with
  | error e => simp [Except.mapError]
  | ok b => exact ⟨fun h => congrArg Except.ok (Except.ok.inj h), fun h => h ▸ rfl⟩

theorem mapError_eq_error_iff {ε' : Type} {x : Except ε α} {f : ε → ε'} {e' : ε'} :
    x.mapError f = .error e' ↔ ∃ e, x = .error e ∧ f e = e' := by
  cases x with
  | error e =>
    constructor
    · exact fun h => ⟨e, rfl, Except.error.inj h⟩
    · rintro ⟨d, hd, rfl⟩
      rw [Except.error.inj hd]
      rfl
  | ok a => simp [Except.mapError]

theorem mapOk_eq_error_iff {x : Except ε α} {f : α → β} {e : ε} :
    x.map f = .error e ↔ x = .error e := by
  cases x with
  | error e' => exact ⟨fun h => congrArg Except.error (Except.error.inj h), fun h => h ▸ rfl⟩
  | ok a => simp [Except.map]

/-- Doing something with every item succeeds if it does with each of them. -/
theorem mapM_eq_ok_iff {f : α → Except ε β} {xs : List α} {ys : List β} :
    xs.mapM f = .ok ys ↔ List.Forall₂ (fun y x => f x = .ok y) ys xs := by
  induction xs generalizing ys with
  | nil =>
    rw [List.forall₂_nil_right_iff]
    exact ⟨fun h => (Except.ok.inj h).symm, fun h => h ▸ rfl⟩
  | cons x xs ih =>
    rw [List.mapM_cons, List.forall₂_cons_right_iff]
    constructor
    · intro h
      obtain ⟨y, hy, h⟩ := except_bind_eq_ok.mp h
      obtain ⟨rest, hrest, h⟩ := except_bind_eq_ok.mp h
      exact ⟨y, rest, hy, ih.mp hrest, (Except.ok.inj h).symm⟩
    · rintro ⟨y, rest, hy, hrest, rfl⟩
      exact except_bind_eq_ok.mpr ⟨y, hy, except_bind_eq_ok.mpr ⟨rest, ih.mpr hrest, rfl⟩⟩

end Failing

section Steps

variable {σ ε α β : Type} {first : StateT σ (Except ε) α} {next : α → StateT σ (Except ε) β}

/-- After a step that succeeds the next one goes on where it has stopped. -/
theorem step_bind_of_ok {s s' : σ} {a : α} (h : first s = .ok (a, s')) :
    (first >>= next) s = next a s' := by
  change (first s >>= fun p => next p.1 p.2) = next a s'
  rw [h]
  rfl

/-- **Two steps in a row** succeed if both do. -/
theorem step_bind_eq_ok {s : σ} {result : β × σ} :
    (first >>= next) s = .ok result ↔
      ∃ a s', first s = .ok (a, s') ∧ next a s' = .ok result := by
  constructor
  · intro h
    obtain ⟨⟨a, s'⟩, hfirst, hnext⟩ := except_bind_eq_ok.mp h
    exact ⟨a, s', hfirst, hnext⟩
  · rintro ⟨a, s', hfirst, hnext⟩
    rw [step_bind_of_ok hfirst, hnext]

/-- After a step that fails there is no next one. -/
theorem step_bind_of_error {s : σ} {e : ε} (h : first s = .error e) :
    (first >>= next) s = .error e := by
  change (first s >>= fun p => next p.1 p.2) = .error e
  rw [h]
  rfl

/-- Two steps in a row fail if one of them does. -/
theorem step_bind_eq_error {s : σ} {e : ε} :
    (first >>= next) s = .error e ↔
      first s = .error e ∨ ∃ a s', first s = .ok (a, s') ∧ next a s' = .error e := by
  rcases hfirst : first s with e' | ⟨a, s'⟩
  · rw [step_bind_of_error hfirst]
    simp
  · rw [step_bind_of_ok hfirst]
    constructor
    · exact fun hnext => Or.inr ⟨a, s', rfl, hnext⟩
    · rintro (h | ⟨a', s'', h, hnext⟩)
      · exact absurd h (by simp)
      · obtain ⟨rfl, rfl⟩ := Prod.mk.inj (Except.ok.inj h)
        exact hnext

theorem step_pure_eq_ok {s s' : σ} {a a' : α} :
    (pure a : StateT σ (Except ε) α) s = .ok (a', s') ↔ a = a' ∧ s = s' := by
  change (Except.ok (a, s) : Except ε (α × σ)) = .ok (a', s') ↔ a = a' ∧ s = s'
  rw [Except.ok.injEq, Prod.mk.injEq]

end Steps

/-! ### Bytes read -/

/-- **Which bytes stand for which things.** -/
abbrev Language (α : Type) : Type :=
  List UInt8 → α → Prop

/-- **Places in data**: one gets from a place to another over the bytes between them. -/
class Moves (σ : Type) where
  /-- The bytes lie between the two places. -/
  along : σ → List UInt8 → σ → Prop
  /-- There is nothing between a place and itself. -/
  along_nil : ∀ {s s'}, along s [] s' ↔ s = s'
  /-- Bytes in a row lie between places in a row. -/
  along_append : ∀ {s s'' b c}, along s (b ++ c) s'' ↔ ∃ s', along s b s' ∧ along s' c s''

/-- What is left of the data is a place in it. -/
instance : Moves (List UInt8) where
  along data bytes rest := data = bytes ++ rest
  along_nil := Iff.rfl
  along_append := by
    intro s s'' b c
    rw [List.append_assoc]
    constructor
    · exact fun h => ⟨c ++ s'', h, rfl⟩
    · rintro ⟨s', rfl, rfl⟩
      rfl

section Reading

variable {σ ε α β : Type} [Moves σ]

/-- **The reader takes the bytes** for a thing, whatever follows them, and goes on behind
them. -/
def Accepts (reader : StateT σ (Except ε) α) (bytes : List UInt8) (a : α) : Prop :=
  ∀ s s', Moves.along s bytes s' → reader s = .ok (a, s')

/-- **The reader takes only bytes of a language**: what it has moved over stands for what it
returns. -/
def Sound (reader : StateT σ (Except ε) α) (L : Language α) : Prop :=
  ∀ s a s', reader s = .ok (a, s') → ∃ bytes, Moves.along s bytes s' ∧ L bytes a

theorem accepts_pure (a : α) : Accepts (pure a : StateT σ (Except ε) α) [] a := by
  intro s s' h
  obtain rfl := Moves.along_nil.mp h
  rfl

variable {reader : StateT σ (Except ε) α} {next : α → StateT σ (Except ε) β}

theorem Accepts.bind {b c : List UInt8} {a : α} {x : β} (h : Accepts reader b a)
    (hnext : Accepts (next a) c x) : Accepts (reader >>= next) (b ++ c) x := by
  intro s s'' halong
  obtain ⟨s', hb, hc⟩ := Moves.along_append.mp halong
  rw [step_bind_of_ok (h s s' hb), hnext s' s'' hc]

/-- What is done with a thing that has been read takes no more bytes. -/
theorem Accepts.bind_pure {b : List UInt8} {a : α} (h : Accepts reader b a) (f : α → β) :
    Accepts (reader >>= fun a => pure (f a)) b (f a) := by
  have hbind : Accepts (reader >>= fun a => pure (f a)) (b ++ []) (f a) :=
    h.bind (accepts_pure (f a))
  rwa [List.append_nil] at hbind

variable {L : Language α} {M : Language β}

theorem sound_pure {a : α} (h : L [] a) : Sound (pure a : StateT σ (Except ε) α) L := by
  intro s a' s' hrun
  obtain ⟨rfl, rfl⟩ := step_pure_eq_ok.mp hrun
  exact ⟨[], Moves.along_nil.mpr rfl, h⟩

theorem Sound.bind (h : Sound reader L)
    (hnext : ∀ b a, L b a → Sound (next a) fun c => M (b ++ c)) : Sound (reader >>= next) M := by
  intro s x s'' hrun
  obtain ⟨a, s', hfirst, hsecond⟩ := step_bind_eq_ok.mp hrun
  obtain ⟨b, hb, hL⟩ := h s a s' hfirst
  obtain ⟨c, hc, hM⟩ := hnext b a hL s' x s'' hsecond
  exact ⟨b ++ c, Moves.along_append.mpr ⟨s', hb, hc⟩, hM⟩

theorem Sound.bind_pure (h : Sound reader L) {f : α → β} (himp : ∀ b a, L b a → M b (f a)) :
    Sound (reader >>= fun a => pure (f a)) M := by
  refine h.bind fun b a hL => sound_pure ?_
  rw [List.append_nil]
  exact himp b a hL

theorem Sound.imp {L' : Language α} (h : Sound reader L) (himp : ∀ b a, L b a → L' b a) :
    Sound reader L' := by
  intro s a s' hrun
  obtain ⟨b, hb, hL⟩ := h s a s' hrun
  exact ⟨b, hb, himp b a hL⟩

/-! ### Things in a row -/

section Row

/- A reader of so many things in a row, one after the other. -/
variable {many : Nat → StateT σ (Except ε) (List α)} (hzero : many 0 = pure [])
  (hsucc : ∀ count, many (count + 1) = reader >>= fun first =>
    many count >>= fun others => pure (first :: others))

include hzero hsucc

theorem accepts_many {parts : List (List UInt8)} {elements : List α}
    (h : List.Forall₂ (fun b a => Accepts reader b a) parts elements) :
    Accepts (many elements.length) parts.flatten elements := by
  induction h with
  | nil =>
    rw [List.length_nil, hzero]
    exact accepts_pure []
  | @cons b a parts elements hba _ ih =>
    rw [List.flatten_cons, List.length_cons, hsucc]
    exact hba.bind (ih.bind_pure (a :: ·))

theorem sound_many (h : Sound reader L) (count : Nat) :
    Sound (many count) fun b elements => ∃ parts : List (List UInt8),
      b = parts.flatten ∧ elements.length = count ∧ List.Forall₂ L parts elements := by
  induction count with
  | zero =>
    rw [hzero]
    exact sound_pure ⟨[], rfl, rfl, .nil⟩
  | succ count ih =>
    rw [hsucc]
    refine h.bind fun b a hba => ih.bind_pure fun c elements => ?_
    rintro ⟨parts, rfl, rfl, hparts⟩
    exact ⟨b :: parts, List.flatten_cons.symm, rfl, .cons hba hparts⟩

end Row

end Reading

/-! ### Longer data -/

/-- **Data behind which more may be put.** Some errors say that data end too early; what ends
too early behind a place does so behind every place from which one gets there. Other errors
are about a byte that has been read, and how many bytes there are makes no difference. -/
class Extensible (σ : Type) (ε : outParam Type) [Moves σ] where
  /-- The place in data that go on with the given bytes. -/
  extend : σ → List UInt8 → σ
  /-- The error says that the data behind the place end too early. -/
  EndsEarly : σ → ε → Prop
  /-- The error is about a byte that has been read. -/
  AtByte : ε → Prop
  /-- The end of the data is the same from all places. -/
  endsEarly_of_along : ∀ {s bytes s' e}, Moves.along s bytes s' → EndsEarly s' e → EndsEarly s e

section Longer

variable {σ ε α β : Type} [Moves σ] [Extensible σ ε]

/-- **The reader knows only what it has taken**: on longer data it does the same, unless it
has missed something at the end. -/
structure Local (reader : StateT σ (Except ε) α) : Prop where
  /-- The reader moves over bytes. -/
  moves : ∀ {s a s'}, reader s = .ok (a, s') → ∃ bytes, Moves.along s bytes s'
  /-- What has been read is read from longer data too. -/
  ok : ∀ {s a s'}, reader s = .ok (a, s') → ∀ more,
    reader (Extensible.extend s more) = .ok (a, Extensible.extend s' more)
  /-- So is an error about a byte; the others say that the data end too early. -/
  error : ∀ {s e}, reader s = .error e → Extensible.EndsEarly s e ∨
    Extensible.AtByte σ e ∧ ∀ more, reader (Extensible.extend s more) = .error e

theorem local_pure (a : α) : Local (pure a : StateT σ (Except ε) α) where
  moves := by
    intro s a' s' hrun
    exact ⟨[], Moves.along_nil.mpr (step_pure_eq_ok.mp hrun).2⟩
  ok := by
    intro s a' s' hrun more
    obtain ⟨rfl, rfl⟩ := step_pure_eq_ok.mp hrun
    rfl
  error := by
    intro s e hrun
    cases hrun

variable {reader : StateT σ (Except ε) α} {next : α → StateT σ (Except ε) β}

theorem Local.bind (h : Local reader) (hnext : ∀ a, Local (next a)) :
    Local (reader >>= next) where
  moves := by
    intro s x s'' hrun
    obtain ⟨a, s', hfirst, hsecond⟩ := step_bind_eq_ok.mp hrun
    obtain ⟨b, hb⟩ := h.moves hfirst
    obtain ⟨c, hc⟩ := (hnext a).moves hsecond
    exact ⟨b ++ c, Moves.along_append.mpr ⟨s', hb, hc⟩⟩
  ok := by
    intro s x s'' hrun more
    obtain ⟨a, s', hfirst, hsecond⟩ := step_bind_eq_ok.mp hrun
    rw [step_bind_of_ok (h.ok hfirst more), (hnext a).ok hsecond more]
  error := by
    intro s e hrun
    rcases step_bind_eq_error.mp hrun with hfirst | ⟨a, s', hfirst, hsecond⟩
    · rcases h.error hfirst with hend | ⟨hbyte, hmore⟩
      · exact Or.inl hend
      · exact Or.inr ⟨hbyte, fun more => step_bind_of_error (hmore more)⟩
    · obtain ⟨b, hb⟩ := h.moves hfirst
      rcases (hnext a).error hsecond with hend | ⟨hbyte, hmore⟩
      · exact Or.inl (Extensible.endsEarly_of_along hb hend)
      · refine Or.inr ⟨hbyte, fun more => ?_⟩
        rw [step_bind_of_ok (h.ok hfirst more), hmore more]

theorem Local.bind_pure (h : Local reader) (f : α → β) :
    Local (reader >>= fun a => pure (f a)) :=
  h.bind fun a => local_pure (f a)

end Longer

end ContractSchema
