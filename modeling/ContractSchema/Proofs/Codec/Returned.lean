import ContractSchema.Proofs.Codec.Atoms
import ContractSchema.Proofs.Codec.Written
import ContractSchema.Proofs.Lists

/-!
# What readers of values return

Often it does not matter which bytes a value has been read from, but only what sort
of value it is (`ContractSchema.ValueReader.Returns`). A reader of a list returns arrays of
what the reader of items returns (`ContractSchema.returns_list`), and a reader of a struct
objects which have exactly the members that there are fields for
(`ContractSchema.returns_struct`). A struct with a field that cannot be read returns nothing
at all (`ContractSchema.unreadable_struct`).
-/

namespace ContractSchema

namespace ValueReader

variable {α β : Type} {reader : ValueReader α} {P Q : α → Prop}

/-- **Whatever the reader returns has a property.** -/
def Returns (reader : ValueReader α) (P : α → Prop) : Prop :=
  ∀ data a rest, reader data = .ok (a, rest) → P a

theorem Returns.imp (h : Returns reader P) (himp : ∀ a, P a → Q a) : Returns reader Q :=
  fun data a rest hrun => himp a (h data a rest hrun)

theorem Returns.bind {next : α → ValueReader β} {Q : β → Prop} (h : Returns reader P)
    (hnext : ∀ a, P a → Returns (next a) Q) : Returns (reader >>= next) Q := by
  intro data b rest hrun
  obtain ⟨a, rest', hfirst, hsecond⟩ := step_bind_eq_ok.mp hrun
  exact hnext a (h data a rest' hfirst) rest' b rest hsecond

theorem returns_pure {a : α} (h : P a) : Returns (pure a) P := by
  intro data a' rest hrun
  obtain ⟨rfl, -⟩ := step_pure_eq_ok.mp hrun
  exact h

theorem Returns.bind_pure {f : α → β} {Q : β → Prop} (h : Returns reader P)
    (himp : ∀ a, P a → Q (f a)) : Returns (reader >>= fun a => pure (f a)) Q :=
  h.bind fun a ha => returns_pure (himp a ha)

theorem returns_of_sound {L : Language α} (h : Sound reader L) (himp : ∀ b a, L b a → P a) :
    Returns reader P := by
  intro data a rest hrun
  obtain ⟨b, -, hL⟩ := h data a rest hrun
  exact himp b a hL

/-! ### Numbers, and values in a row -/

theorem returns_takeMany (h : Returns reader P) (count : Nat) :
    Returns (takeMany reader count) fun items => ∀ a ∈ items, P a := by
  induction count with
  | zero => exact returns_pure fun a ha => absurd ha List.not_mem_nil
  | succ count ih =>
    refine h.bind fun a ha => ih.bind_pure fun items hitems => ?_
    exact List.forall_mem_cons.mpr ⟨ha, hitems⟩

theorem returns_takeNumber {width : Nat} (hwidth : width ≤ 8) :
    Returns (takeNumber width) fun value => ∃ n : UInt64, value = .number (.natural n) ∧
      n.toNat < 256 ^ width := by
  have htake : Returns (takeUnsigned width) fun n => n < 256 ^ width :=
    returns_of_sound (sound_takeUnsigned width) fun _ _ => And.right
  refine htake.bind_pure fun n hn => ?_
  have hlt : n < 2 ^ 64 := Nat.lt_of_lt_of_le hn (Nat.pow_le_pow_right (by decide) hwidth)
  refine ⟨UInt64.ofNat n, rfl, ?_⟩
  rwa [UInt64.toNat_ofNat_of_lt' hlt]

end ValueReader

open ValueReader

/-! ### Values of types -/

theorem returns_amount : Returns SchemaType.amount.decode fun value => ∃ s, value = .string s := by
  rw [SchemaType.decode]
  have htake : Returns (takeUnsigned 8) fun _ => True := fun _ _ _ _ => trivial
  exact htake.bind_pure fun n _ => ⟨toString n, rfl⟩

theorem returns_accountAddress :
    Returns SchemaType.accountAddress.decode fun value => ∃ s, value = .string s := by
  rw [SchemaType.decode]
  exact returns_of_sound (sound_takeHex 32) fun b _ ⟨hvalue, _⟩ => ⟨Hex.encode b, hvalue⟩

theorem returns_list {size : SizeLength} {item : SchemaType} {P : Json → Prop}
    (h : Returns item.decode P) :
    Returns (SchemaType.list size item).decode fun value =>
      ∃ items, value = .array items ∧ ∀ x ∈ items, P x := by
  rw [SchemaType.decode]
  have hlength : Returns (takeUnsigned size.byteCount) fun _ => True := fun _ _ _ _ => trivial
  refine hlength.bind fun length _ => ?_
  exact (returns_takeMany h length).bind_pure fun items hitems => ⟨items, rfl, hitems⟩

/-- Each field has its member, and they are in the same order. -/
theorem returns_decodeNamed {fields : List (String × SchemaType)}
    {P : String × SchemaType → Json → Prop}
    (h : ∀ field ∈ fields, Returns field.2.decode (P field)) :
    Returns (decodeNamed fields)
      (List.Forall₂ (fun field member => field.1 = member.1 ∧ P field member.2) fields) := by
  induction fields with
  | nil =>
    rw [decodeNamed]
    exact returns_pure .nil
  | cons field fields ih =>
    obtain ⟨hfield, hfields⟩ := List.forall_mem_cons.mp h
    rw [decodeNamed]
    refine hfield.bind fun value hvalue => (ih hfields).bind_pure fun members hmembers => ?_
    exact .cons ⟨rfl, hvalue⟩ hmembers

/-- **The values of a struct** are objects that have a member for each field and no other. -/
theorem returns_struct {fields : List (String × SchemaType)} (distinct : (fields.map (·.1)).Nodup)
    {P : String × SchemaType → Json → Prop}
    (h : ∀ field ∈ fields, Returns field.2.decode (P field)) :
    Returns (SchemaType.struct (.named fields)).decode fun value =>
      (∃ members, value = .object members) ∧
      (∀ field ∈ fields, ∃ member, value.get? field.1 = some member ∧ P field member) ∧
      ∀ name member, value.get? name = some member → ∃ field ∈ fields, field.1 = name ∧
        P field member := by
  rw [SchemaType.decode, Fields.decode]
  refine (returns_decodeNamed h).bind_pure fun members hmembers => ⟨⟨_, rfl⟩, ?_⟩
  have hnames : fields.map (·.1) = members.map (·.1) := by
    refine List.forall₂_eq_eq_eq ▸ ?_
    rw [List.forall₂_map_left_iff, List.forall₂_map_right_iff]
    exact hmembers.imp fun _ _ => And.left
  have hget : ∀ name member, (Json.ofMembers members).get? name = some member ↔
      (name, member) ∈ members := fun _ _ => Json.get?_ofMembers_eq_some_iff (hnames ▸ distinct)
  refine ⟨fun field hfield => ?_, fun name member hmember => ?_⟩
  · obtain ⟨before, after, rfl⟩ := List.append_of_mem hfield
    obtain ⟨before', ⟨name, member⟩, after', rfl, -, ⟨hname, hP⟩, -⟩ :=
      exists_append_of_forall₂ hmembers
    refine ⟨member, (hget _ _).mpr ?_, hP⟩
    rw [hname]
    exact List.mem_append_right _ (List.mem_cons_self ..)
  · obtain ⟨before, after, rfl⟩ := List.append_of_mem ((hget name member).mp hmember)
    obtain ⟨before', field, after', rfl, -, ⟨hname, hP⟩, -⟩ :=
      exists_append_of_forall₂ hmembers.flip
    exact ⟨field, List.mem_append_right _ (List.mem_cons_self ..), hname, hP⟩

/-! ### Types without readable values -/

/-- **No value of the type can be read.** -/
def SchemaType.Unreadable (type : SchemaType) : Prop :=
  Returns type.decode fun _ => False

theorem unreadable_string (size : SizeLength) : (SchemaType.string size).Unreadable := by
  intro data value rest hrun
  cases hrun

/-- Fields cannot be read if one of them cannot. -/
theorem returns_nothing_of_field {fields : List (String × SchemaType)}
    {field : String × SchemaType} (hfield : field ∈ fields) (h : field.2.Unreadable) :
    Returns (Fields.named fields).decode fun _ => False := by
  have hother : ∀ other ∈ fields, Returns other.2.decode fun _ => other ≠ field := by
    rintro other - data value rest hrun rfl
    exact h data value rest hrun
  rw [Fields.decode]
  refine (returns_decodeNamed hother).bind_pure fun members hmembers => ?_
  obtain ⟨before, after, rfl⟩ := List.append_of_mem hfield
  obtain ⟨_, _, _, -, -, ⟨-, hne⟩, -⟩ := exists_append_of_forall₂ hmembers
  exact hne rfl

theorem unreadable_struct {fields : List (String × SchemaType)} {field : String × SchemaType}
    (hfield : field ∈ fields) (h : field.2.Unreadable) :
    (SchemaType.struct (.named fields)).Unreadable := by
  rw [SchemaType.Unreadable, SchemaType.decode]
  exact returns_nothing_of_field hfield h

end ContractSchema
