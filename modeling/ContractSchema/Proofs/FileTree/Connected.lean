import ContractSchema.Proofs.FileTree
import ContractSchema.Proofs.Lists
import Mathlib.Data.List.Infix
import Mathlib.Data.List.Induction

/-!
# Trees that hang together

In a tree that hangs together everything is in a directory of the tree
(`ContractSchema.FileTree.Connected`), so that nothing is below what is missing. The empty
tree hangs together, and whatever is done to a tree leaves it so: things are only put
into directories that are there, and what is removed is removed with all that is below it.

* `ContractSchema.FileTree.Grown` – a tree comes from another one by putting things where
  there was nothing, into directories that were there.
* `ContractSchema.FileTree.makeDirectories_grown`, `ContractSchema.FileTree.createFile_grown` –
  making directories and creating files do nothing else, whether they succeed or not.
* `ContractSchema.FileTree.removeAll_connected` – removing a directory leaves no loose ends.
-/

namespace ContractSchema.FileTree

variable {tree tree' : FileTree} {place path parent next : Path} {name text : String}

/-! ### Taking away -/

theorem node?_erase (hplace : place ≠ []) (path : Path) :
    (tree.erase place).node? path = if place <+: path then none else tree.node? path := by
  rw [node?, node?, erase]
  by_cases hpath : path = []
  · rw [if_pos hpath, if_pos hpath, if_neg (by rw [hpath, List.prefix_nil]; exact hplace)]
  · rw [if_neg hpath, if_neg hpath]
    rw [lookup_filter fun path => decide ¬place.isPrefixOf path]
    simp only [List.isPrefixOf_iff_prefix, decide_not, Bool.not_eq_true', decide_eq_false_iff_not]
    split_ifs <;> rfl

theorem node?_clear (tree : FileTree) (place path : Path) :
    (tree.clear place).node? path =
      if place <+: path ∧ path ≠ place then none else tree.node? path := by
  rw [node?, node?, clear]
  by_cases hpath : path = []
  · rw [if_pos hpath, if_pos hpath, if_neg]
    rintro ⟨hunder, hne⟩
    rw [hpath, List.prefix_nil] at hunder
    exact hne (hpath.trans hunder.symm)
  · rw [if_neg hpath, if_neg hpath]
    rw [lookup_filter fun path => decide ¬(place.isPrefixOf path ∧ path ≠ place)]
    simp only [List.isPrefixOf_iff_prefix, decide_not, Bool.not_eq_true', decide_eq_false_iff_not]
    split_ifs <;> rfl

/-! ### Hanging together -/

/-- **A tree hangs together**: everything in it is in a directory of it. -/
def Connected (tree : FileTree) : Prop :=
  ∀ path name, tree.node? (path ++ [name]) ≠ none → tree.node? path = some .directory

theorem connected_empty : empty.Connected := by
  intro path name h
  exact absurd (by simp [node?, empty]) h

/-- All that is on the way to something is a directory. -/
theorem Connected.directory_above (h : tree.Connected) (hunder : place <+: path)
    (hne : place ≠ path) (hpath : tree.node? path ≠ none) :
    tree.node? place = some .directory := by
  induction path using List.reverseRecOn with
  | nil => exact absurd (List.prefix_nil.mp hunder) hne
  | append_singleton path name ih =>
    have hdirectory := h path name hpath
    rcases List.prefix_concat_iff.mp hunder with heq | hunder
    · exact absurd heq hne
    · by_cases heq : place = path
      · rw [heq, hdirectory]
      · exact ih hunder heq (by rw [hdirectory]; simp)

/-- Nothing is below what is missing. -/
theorem Connected.none_below (h : tree.Connected) (hplace : tree.node? place = none)
    (hunder : place <+: path) : tree.node? path = none := by
  by_contra hpath
  by_cases heq : place = path
  · exact hpath (heq ▸ hplace)
  · rw [h.directory_above hunder heq hpath] at hplace
    cases hplace

/-- **A place is in a directory** of a tree, unless it is the root. -/
def InDirectory (tree : FileTree) (place : Path) : Prop :=
  ∀ parent name, place = parent ++ [name] → tree.node? parent = some .directory

theorem inDirectory_concat (h : tree.node? place = some .directory) (name : String) :
    tree.InDirectory (place ++ [name]) := by
  intro parent other heq
  rw [← (List.append_inj' heq rfl).1]
  exact h

theorem Connected.inDirectory (h : tree.Connected) (hplace : tree.node? place ≠ none) :
    tree.InDirectory place := by
  rintro parent name rfl
  exact h parent name hplace

theorem Connected.add (h : tree.Connected) (hplace : tree.InDirectory place) (node : FileNode) :
    (tree.add place node).Connected := by
  intro path name hnode
  refine within_add tree place node path .directory ?_
  by_cases heq : path ++ [name] = place
  · exact hplace path name heq.symm
  · rw [node?_add_of_ne heq] at hnode
    exact h path name hnode

theorem Connected.erase (h : tree.Connected) (hplace : place ≠ []) :
    (tree.erase place).Connected := by
  intro path name hnode
  rw [node?_erase hplace] at hnode ⊢
  obtain ⟨hbelow, hnode⟩ := ite_ne_left_iff.mp hnode
  rw [if_neg fun hunder => hbelow (hunder.trans (List.prefix_append _ _))]
  exact h path name (Ne.symm hnode)

theorem Connected.clear (h : tree.Connected) (place : Path) : (tree.clear place).Connected := by
  intro path name hnode
  rw [node?_clear] at hnode ⊢
  obtain ⟨hbelow, hnode⟩ := ite_ne_left_iff.mp hnode
  rw [if_neg]
  · exact h path name (Ne.symm hnode)
  · rintro ⟨hunder, -⟩
    refine hbelow ⟨hunder.trans (List.prefix_append _ _), fun heq => ?_⟩
    have hlength := hunder.length_le
    rw [← heq, List.length_append, List.length_singleton] at hlength
    omega

/-! ### Following paths -/

/-- One name more leads to a place that is in a directory. -/
theorem Connected.inDirectory_of_enter (h : tree.Connected)
    (henter : tree.enter place name = .ok next) : tree.InDirectory next := by
  obtain ⟨hplace, -, rfl⟩ := enter_eq_ok_iff.mp henter
  split
  · -- the directory above is there, and so is the one above that
    intro parent other heq
    have hunder : parent ++ [other] <+: place := heq ▸ List.dropLast_prefix place
    refine h.directory_above ((List.prefix_append _ _).trans hunder) ?_ (by rw [hplace]; simp)
    intro hparent
    have hlength := hunder.length_le
    rw [← hparent, List.length_append, List.length_singleton] at hlength
    omega
  · exact inDirectory_concat hplace name

theorem Connected.inDirectory_of_followFrom (h : tree.Connected) (hplace : tree.InDirectory place)
    (hfollow : tree.followFrom place path = .ok next) : tree.InDirectory next := by
  induction path generalizing place with
  | nil => exact Except.ok.inj hfollow ▸ hplace
  | cons name path ih =>
    rw [followFrom] at hfollow
    obtain ⟨between, henter, hfollow⟩ := except_bind_eq_ok.mp hfollow
    exact ih (h.inDirectory_of_enter henter) hfollow

/-- **A path leads to a place in a directory.** -/
theorem Connected.inDirectory_of_follow (h : tree.Connected)
    (hfollow : tree.follow path = .ok next) : tree.InDirectory next :=
  h.inDirectory_of_followFrom (h.inDirectory (by simp)) (follow_eq_ok_iff.mp hfollow).2

/-! ### Growth -/

/-- **A tree has grown** from another one: things have been put where there was nothing, into
directories that were there. -/
inductive Grown (tree : FileTree) : FileTree → Prop
  /-- Nothing has been put. -/
  | refl : Grown tree tree
  /-- One thing more has been put. -/
  | add {tree' : FileTree} {place : Path} (grown : Grown tree tree')
      (free : tree'.node? place = none) (inside : tree'.InDirectory place) (node : FileNode) :
      Grown tree (tree'.add place node)

theorem Grown.trans {tree'' : FileTree} (h : tree.Grown tree') (h' : tree'.Grown tree'') :
    tree.Grown tree'' := by
  induction h' with
  | refl => exact h
  | add _ free inside node ih => exact ih.add free inside node

/-- **What has been there is there still.** -/
theorem Grown.within (h : tree.Grown tree') : tree.Within tree' := by
  induction h with
  | refl => exact Within.refl tree
  | add _ _ _ node ih => exact ih.trans (within_add _ _ node)

/-- **A tree goes on hanging together** when it grows. -/
theorem Grown.connected (h : tree.Grown tree') (hconnected : tree.Connected) :
    tree'.Connected := by
  induction h with
  | refl => exact hconnected
  | add _ _ inside node ih => exact ih.add inside node

theorem makeDirectoriesFrom_grown (h : tree.Connected) (place path : Path) :
    tree.Grown (tree.makeDirectoriesFrom place path).1 := by
  induction path generalizing tree place with
  | nil => exact .refl
  | cons name path ih =>
    rw [makeDirectoriesFrom]
    rcases henter : tree.enter place name with error | next
    · exact .refl
    · dsimp only
      rcases hnext : tree.node? next with _ | ⟨text⟩ | _
      · have hadded : tree.Grown (tree.add next .directory) :=
          .add .refl hnext (h.inDirectory_of_enter henter) .directory
        exact hadded.trans (ih (hadded.connected h) next)
      · exact .refl
      · exact ih h next

/-- **Making directories** puts things where there was nothing, even if it fails. -/
theorem makeDirectories_grown (h : tree.Connected) (path : Path) :
    tree.Grown (tree.makeDirectories path).1 := by
  rw [makeDirectories]
  split
  · exact .refl
  · exact makeDirectoriesFrom_grown h [] path

/-- **Creating a file** puts it where there was nothing. -/
theorem createFile_grown (h : tree.Connected) (hok : tree.createFile path text = .ok tree') :
    tree.Grown tree' := by
  rw [createFile] at hok
  obtain ⟨place, hfollow, hok⟩ := except_bind_eq_ok.mp hok
  rcases hplace : tree.node? place with _ | node
  · rw [hplace] at hok
    obtain rfl := Except.ok.inj hok
    exact .add .refl hplace (h.inDirectory_of_follow hfollow) (.file text)
  · rw [hplace] at hok
    cases hok

/-! ### Removing directories -/

/-- **Removing a directory** leaves no loose ends. -/
theorem removeAll_connected (h : tree.Connected) (path : Path) :
    (tree.removeAll path).1.Connected := by
  rw [removeAll]
  rcases tree.follow path with error | place
  · exact h
  · dsimp only
    rcases tree.node? place with _ | ⟨text⟩ | _
    · exact h
    · exact h
    · dsimp only
      split
      · exact h.clear place
      · exact h.erase ‹_›

end ContractSchema.FileTree
