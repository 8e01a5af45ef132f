import Mathlib.Data.List.Forall2
import Mathlib.Data.List.Nodup

/-!
# Entries and pairs of lists

Entries with different keys are what is looked up under their keys
(`ContractSchema.lookup_eq_some_iff_mem`), which does not depend on their order and
determines them up to it (`ContractSchema.perm_of_lookup_eq`). Where two lists are related
item by item, what is known about the items of one of them may be used
(`ContractSchema.forall₂_imp_of_mem`).
-/

namespace ContractSchema

variable {α β : Type}

/-- What a list of entries with different keys looks up is what it contains. -/
theorem lookup_eq_some_iff_mem [BEq β] [LawfulBEq β] {entries : List (β × α)}
    (distinct : (entries.map (·.1)).Nodup) {key : β} {b : α} :
    entries.lookup key = some b ↔ (key, b) ∈ entries := by
  induction entries with
  | nil => simp
  | cons entry entries ih =>
    obtain ⟨hnotin, hdistinct⟩ := List.nodup_cons.mp distinct
    rcases eq_or_ne key entry.1 with rfl | hne
    · have hother : (entry.1, b) ∉ entries := fun hmem =>
        hnotin (List.mem_map.mpr ⟨(entry.1, b), hmem, rfl⟩)
      rw [List.lookup_cons, beq_self_eq_true, List.mem_cons]
      constructor
      · intro h
        exact Or.inl (Prod.ext rfl (Option.some.inj h).symm)
      · rintro (h | h)
        · exact congrArg some (congrArg Prod.snd h).symm
        · exact absurd h hother
    · have hbeq : (key == entry.1) = false := beq_eq_false_iff_ne.mpr hne
      rw [List.lookup_cons, hbeq, ih hdistinct, List.mem_cons]
      constructor
      · exact Or.inr
      · rintro (h | h)
        · exact absurd (congrArg Prod.fst h) hne
        · exact h

/-- There is one entry for a key where the keys are different. -/
theorem eq_of_mem_of_nodup [BEq β] [LawfulBEq β] {entries : List (β × α)}
    (distinct : (entries.map (·.1)).Nodup) {key : β} {b b' : α} (hb : (key, b) ∈ entries)
    (hb' : (key, b') ∈ entries) : b = b' := by
  rw [← lookup_eq_some_iff_mem distinct] at hb hb'
  exact Option.some.inj (hb.symm.trans hb')

/-- Looking up a key among the entries whose keys are kept. -/
theorem lookup_filter [BEq β] [LawfulBEq β] (p : β → Bool) (entries : List (β × α)) (key : β) :
    (entries.filter fun entry => p entry.1).lookup key =
      if p key then entries.lookup key else none := by
  induction entries with
  | nil => simp
  | cons entry entries ih =>
    rcases entry with ⟨first, b⟩
    rcases eq_or_ne key first with rfl | hne
    · rcases hkeep : p key with _ | _
      · rw [List.filter_cons_of_neg (by simp [hkeep]), ih, hkeep]
        rfl
      · rw [List.filter_cons_of_pos (by exact hkeep), List.lookup_cons_self, List.lookup_cons_self]
        rfl
    · have hbeq : (key == first) = false := beq_eq_false_iff_ne.mpr hne
      rcases hkeep : p first with _ | _
      · rw [List.filter_cons_of_neg (by simp [hkeep]), ih, List.lookup_cons, hbeq]
      · rw [List.filter_cons_of_pos (by exact hkeep), List.lookup_cons, List.lookup_cons, hbeq]
        exact ih

theorem lookup_eq_of_perm [BEq β] [LawfulBEq β] {entries entries' : List (β × α)}
    (perm : entries.Perm entries') (distinct : (entries.map (·.1)).Nodup) (key : β) :
    entries.lookup key = entries'.lookup key := by
  have distinct' : (entries'.map (·.1)).Nodup := (perm.map _).nodup_iff.mp distinct
  refine Option.ext fun b => ?_
  rw [lookup_eq_some_iff_mem distinct, lookup_eq_some_iff_mem distinct']
  exact perm.mem_iff

/-- **Entries which look up the same** are rearrangements of each other. -/
theorem perm_of_lookup_eq [BEq β] [LawfulBEq β] {entries entries' : List (β × α)}
    (distinct : (entries.map (·.1)).Nodup) (distinct' : (entries'.map (·.1)).Nodup)
    (h : ∀ key, entries.lookup key = entries'.lookup key) : entries.Perm entries' := by
  have hnodup : entries.Nodup := List.Nodup.of_map _ distinct
  have hnodup' : entries'.Nodup := List.Nodup.of_map _ distinct'
  refine (List.perm_ext_iff_of_nodup hnodup hnodup').mpr fun entry => ?_
  rw [← lookup_eq_some_iff_mem distinct, ← lookup_eq_some_iff_mem distinct']
  exact Eq.congr_left (h entry.1)

theorem forall₂_imp_of_mem {R S : β → α → Prop} {xs : List β} {ys : List α}
    (h : List.Forall₂ R xs ys) (himp : ∀ x, ∀ y ∈ ys, R x y → S x y) : List.Forall₂ S xs ys := by
  induction h with
  | nil => exact .nil
  | cons hxy _ ih =>
    exact .cons (himp _ _ (List.mem_cons_self ..) hxy)
      (ih fun x y hy => himp x y (List.mem_cons_of_mem _ hy))

theorem exists_of_forall₂ {R : β → α → Prop} {xs : List β} {ys : List α}
    (h : List.Forall₂ R xs ys) {y : α} (hy : y ∈ ys) : ∃ x, R x y := by
  induction h with
  | nil => exact absurd hy List.not_mem_nil
  | cons hxy _ ih =>
    rcases List.mem_cons.mp hy with rfl | hy
    · exact ⟨_, hxy⟩
    · exact ih hy

/-- Entries which are related under the same keys are found together. -/
theorem rel_lookup [BEq β] {R : α → α → Prop} {entries entries' : List (β × α)}
    (h : List.Forall₂ (fun entry entry' => entry.1 = entry'.1 ∧ R entry.2 entry'.2)
      entries entries')
    (key : β) : Option.Rel R (entries.lookup key) (entries'.lookup key) := by
  induction h with
  | nil => exact .none
  | @cons entry entry' _ _ hentry _ ih =>
    obtain ⟨hkey, hrel⟩ := hentry
    rw [List.lookup_cons, List.lookup_cons, ← hkey]
    cases key == entry.1 with
    | true => exact .some hrel
    | false => exact ih

theorem forall_mem_iff_of_forall₂ {R : α → β → Prop} {P : α → Prop} {Q : β → Prop} {xs : List α}
    {ys : List β} (h : List.Forall₂ R xs ys) (hiff : ∀ x y, R x y → (Q y ↔ P x)) :
    (∀ y ∈ ys, Q y) ↔ ∀ x ∈ xs, P x := by
  induction h with
  | nil => simp
  | cons hxy _ ih => rw [List.forall_mem_cons, List.forall_mem_cons, hiff _ _ hxy, ih]

theorem exists_append_of_forall₂ {R : α → β → Prop} {before after : List α} {x : α} {ys : List β}
    (h : List.Forall₂ R (before ++ x :: after) ys) :
    ∃ before' y after', ys = before' ++ y :: after' ∧ List.Forall₂ R before before' ∧ R x y ∧
      List.Forall₂ R after after' := by
  induction before generalizing ys with
  | nil =>
    rcases h with _ | ⟨hxy, hafter⟩
    exact ⟨[], _, _, rfl, .nil, hxy, hafter⟩
  | cons first before ih =>
    rcases h with _ | ⟨hfirst, hrest⟩
    obtain ⟨before', y, after', rfl, hbefore, hxy, hafter⟩ := ih hrest
    exact ⟨_ :: before', y, after', rfl, .cons hfirst hbefore, hxy, hafter⟩

theorem exists_forall₂ {R : α → β → Prop} {xs : List α} (h : ∀ x ∈ xs, ∃ y, R x y) :
    ∃ ys, List.Forall₂ R xs ys := by
  induction xs with
  | nil => exact ⟨[], .nil⟩
  | cons x xs ih =>
    obtain ⟨⟨y, hy⟩, hothers⟩ := List.forall_mem_cons.mp h
    obtain ⟨ys, hys⟩ := ih hothers
    exact ⟨y :: ys, .cons hy hys⟩

/-- Lists with a mark in between: each one but the first stands behind the mark. -/
theorem intercalate_cons_eq (mark first : List α) (others : List (List α)) :
    mark.intercalate (first :: others) = first ++ others.flatMap fun other => mark ++ other := by
  induction others generalizing first with
  | nil => simp
  | cons other others ih =>
    rw [List.intercalate_cons_cons, ih, List.flatMap_cons, List.append_assoc, List.append_assoc]

end ContractSchema
