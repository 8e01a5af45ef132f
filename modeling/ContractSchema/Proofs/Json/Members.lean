import ContractSchema.Json.Basic
import ContractSchema.Proofs.Lists

/-!
# Looking into JSON values

What a value is found to be it has been built as. Objects are looked into by key, and what
an object built from given members holds under a key is the last of them with this key
(`ContractSchema.Json.get?_ofMembers`). Members in the order of their keys are determined by
what they hold (`ContractSchema.Json.eq_of_lookup_eq`).
-/

namespace ContractSchema.Json

/-! ### Kinds of values -/

theorem bool?_eq_some_iff {value : Json} {b : Bool} : value.bool? = some b ↔ value = .bool b := by
  cases value <;> simp [bool?]

theorem natural?_eq_some_iff {value : Json} {n : UInt64} :
    value.natural? = some n ↔ value = .number (.natural n) := by
  rcases value with _ | _ | n | _ | _ | _
  case number => cases n <;> simp [natural?, Number.natural?]
  all_goals simp [natural?]

theorem string?_eq_some_iff {value : Json} {s : String} :
    value.string? = some s ↔ value = .string s := by
  cases value <;> simp [string?]

theorem array?_eq_some_iff {value : Json} {items : List Json} :
    value.array? = some items ↔ value = .array items := by
  cases value <;> simp [array?]

/-! ### Looking up -/

theorem lookup_insertMember (key k : String) (value : Json) (members : List (String × Json)) :
    (insertMember key value members).lookup k =
      if k = key then some value else members.lookup k := by
  have hbeq : ∀ other : String, (k == other) = decide (k = other) := fun _ => rfl
  induction members with
  | nil => by_cases hk : k = key <;> simp [insertMember, List.lookup_cons, hbeq, hk]
  | cons member members ih =>
    obtain ⟨other, v⟩ := member
    rw [insertMember]
    split
    · by_cases hk : k = key <;> simp [List.lookup_cons, hbeq, hk]
    · split
      · next heq =>
        subst heq
        by_cases hk : k = key <;> simp [List.lookup_cons, hbeq, hk]
      · next hne =>
        rw [List.lookup_cons, List.lookup_cons, ih]
        by_cases hk : k = key
        · have hother : (k == other) = false := beq_eq_false_iff_ne.mpr (hk ▸ hne)
          rw [hother, if_pos hk]
        · simp only [if_neg hk]

theorem lookup_foldl_insertMember (key : String) (members ordered : List (String × Json)) :
    (members.foldl (fun ordered member => insertMember member.1 member.2 ordered) ordered).lookup
        key = (members.reverse.lookup key).or (ordered.lookup key) := by
  induction members generalizing ordered with
  | nil => rfl
  | cons member members ih =>
    rw [List.foldl_cons, ih, lookup_insertMember, List.reverse_cons, List.lookup_append,
      Option.or_assoc]
    congr 1
    by_cases hk : key = member.1
    · rw [if_pos hk, List.lookup_cons, hk, beq_self_eq_true]
      rfl
    · rw [if_neg hk, List.lookup_cons, beq_eq_false_iff_ne.mpr hk]
      rfl

/-- **What an object holds** under a key is the last of its members with this key. -/
theorem get?_ofMembers (members : List (String × Json)) (key : String) :
    (ofMembers members).get? key = members.reverse.lookup key := by
  change (orderMembers members).lookup key = _
  rw [orderMembers, lookup_foldl_insertMember, List.lookup_nil, Option.or_none]

/-- Members with different keys are all held. -/
theorem get?_ofMembers_eq_some_iff {members : List (String × Json)}
    (distinct : (members.map (·.1)).Nodup) {key : String} {value : Json} :
    (ofMembers members).get? key = some value ↔ (key, value) ∈ members := by
  have hreverse : (members.reverse.map (·.1)).Nodup := by
    rw [List.map_reverse]
    exact List.nodup_reverse.mpr distinct
  rw [get?_ofMembers, lookup_eq_some_iff_mem hreverse, List.mem_reverse]

/-! ### Members in order -/

/-- **Members ordered by key**, with different keys. -/
def InOrder (members : List (String × Json)) : Prop :=
  members.Pairwise fun member next => member.1 < next.1

theorem mem_insertMember {key : String} {value : Json} {members : List (String × Json)}
    {member : String × Json} (h : member ∈ insertMember key value members) :
    member = (key, value) ∨ member ∈ members := by
  induction members with
  | nil => exact Or.inl (List.mem_singleton.mp h)
  | cons first members ih =>
    obtain ⟨k, v⟩ := first
    rw [insertMember] at h
    split at h
    · exact List.mem_cons.mp h
    · split at h
      · exact (List.mem_cons.mp h).imp_right (List.mem_cons_of_mem _)
      · rcases List.mem_cons.mp h with rfl | h
        · exact Or.inr (List.mem_cons_self ..)
        · exact (ih h).imp_right (List.mem_cons_of_mem _)

theorem inOrder_insertMember (key : String) (value : Json) {members : List (String × Json)}
    (h : InOrder members) : InOrder (insertMember key value members) := by
  induction members with
  | nil => exact List.pairwise_singleton _ _
  | cons first members ih =>
    obtain ⟨k, v⟩ := first
    obtain ⟨hfirst, hmembers⟩ := List.pairwise_cons.mp h
    rw [insertMember]
    split
    · next hlt =>
      refine List.pairwise_cons.mpr ⟨fun member hmember => ?_, h⟩
      rcases List.mem_cons.mp hmember with rfl | hmember
      · exact hlt
      · exact String.lt_trans hlt (hfirst member hmember)
    · next hnlt =>
      split
      · next heq =>
        subst heq
        exact List.pairwise_cons.mpr ⟨hfirst, hmembers⟩
      · next hne =>
        -- what is put in further back stays behind the first member
        have hlt : k < key :=
          Decidable.byContradiction fun hge => hne (String.le_antisymm hge hnlt)
        refine List.pairwise_cons.mpr ⟨fun member hmember => ?_, ih hmembers⟩
        rcases mem_insertMember hmember with rfl | hmember
        · exact hlt
        · exact hfirst member hmember

theorem inOrder_orderMembers (members : List (String × Json)) : InOrder (orderMembers members) := by
  have hfold : ∀ ordered : List (String × Json), InOrder ordered →
      InOrder (members.foldl (fun ordered member => insertMember member.1 member.2 ordered)
        ordered) := by
    induction members with
    | nil => exact fun _ h => h
    | cons member members ih => exact fun _ h => ih _ (inOrder_insertMember _ _ h)
  exact hfold [] .nil

theorem InOrder.distinct {members : List (String × Json)} (h : InOrder members) :
    (members.map (·.1)).Nodup := by
  refine List.pairwise_map.mpr (h.imp ?_)
  intro member next hlt heq
  exact String.lt_irrefl next.1 (heq ▸ hlt)

/-- **Members in order are determined by what they hold.** -/
theorem eq_of_lookup_eq {members members' : List (String × Json)} (h : InOrder members)
    (h' : InOrder members') (hlookup : ∀ key, members.lookup key = members'.lookup key) :
    members = members' := by
  refine List.Perm.eq_of_pairwise (fun a b _ _ hab hba => ?_) h h'
    (perm_of_lookup_eq h.distinct h'.distinct hlookup)
  exact absurd hba (String.lt_asymm hab)

end ContractSchema.Json
