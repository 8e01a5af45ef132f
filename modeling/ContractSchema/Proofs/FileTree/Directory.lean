import ContractSchema.Proofs.FileTree.Connected

/-!
# A directory made anew

A path that goes straight down leads to the place with the same names, if no file is in
the way (`ContractSchema.FileTree.Ready`). Then the place can be cleared and a directory made
there, and it does not matter what has been below the place before
(`ContractSchema.FileTree.FilesOnly.unique`).

* `ContractSchema.FileTree.FilesOnly` – a place has some files and nothing else, the way to
  it consists of directories, and beside it everything is as in another tree.
* `ContractSchema.FileTree.AgreeBeside` – two trees are the same beside a place.
* `ContractSchema.FileTree.makeDirectories_filesOnly` – a directory made where there was nothing
  is empty, and nothing changes beside it.
* `ContractSchema.FileTree.removeAll_of_ready` – removing a directory fails for no other reason
  than that it is missing.
-/

namespace ContractSchema

/-- **A path goes straight down**: the names on it are those of files and directories. -/
def Path.Straight (path : Path) : Prop :=
  ∀ name ∈ path, IsFileName name

theorem Path.Straight.hasNul_eq_false {path : Path} (h : path.Straight) :
    FileTree.hasNul path = false := by
  rw [FileTree.hasNul, List.any_eq_false]
  intro name hname
  simp [(h name hname).nul]

namespace FileTree

variable {tree tree' tree₁ tree₂ : FileTree} {place path : Path} {name : String}
  {files : List (String × String)}

/-! ### The way to a place -/

/-- **A tree is ready** for a directory at a place: it hangs together, and nothing on the way to
the place is a file, nor is there a file at the place itself. -/
structure Ready (tree : FileTree) (place : Path) : Prop where
  /-- The tree hangs together. -/
  connected : tree.Connected
  /-- There is no file on the way. -/
  passable : ∀ path text, path <+: place → tree.node? path ≠ some (.file text)

theorem ready_empty (place : Path) : empty.Ready place := by
  refine ⟨connected_empty, fun path text _ => ?_⟩
  rw [node?, empty, List.lookup_nil]
  split <;> simp

theorem enter_of_isFileName (hname : IsFileName name)
    (hplace : tree.node? place = some .directory) :
    tree.enter place name = .ok (place ++ [name]) := by
  refine enter_eq_ok_iff.mpr ⟨hplace, hname.short, ?_⟩
  rw [if_neg hname.proper.2.2]

/-- A path straight down leads to its place, unless something on the way is missing. -/
theorem followFrom_straight (hstraight : path.Straight) (hready : tree.Ready (place ++ path))
    (hplace : tree.node? place = some .directory) :
    tree.followFrom place path = .ok (place ++ path) ∨
      tree.followFrom place path = .error .notFound ∧ tree.node? (place ++ path) = none := by
  induction path generalizing place with
  | nil =>
    left
    rw [List.append_nil]
    rfl
  | cons name path ih =>
    obtain ⟨hname, hpath⟩ := List.forall_mem_cons.mp hstraight
    rw [List.append_cons] at hready ⊢
    rw [followFrom, enter_of_isFileName hname hplace]
    rcases hnext : tree.node? (place ++ [name]) with _ | ⟨text⟩ | _
    · have hnone := hready.connected.none_below hnext (List.prefix_append _ path)
      cases path with
      | nil =>
        left
        rw [List.append_nil]
        rfl
      | cons other path =>
        refine Or.inr ⟨?_, hnone⟩
        change (tree.enter (place ++ [name]) other >>= _) = _
        rw [enter, hnext]
        rfl
    · exact absurd hnext (hready.passable _ text (List.prefix_append _ path))
    · exact ih hpath hready hnext

theorem makeDirectoriesFrom_straight (hstraight : path.Straight)
    (hpassable : ∀ other text, other <+: place ++ path → tree.node? other ≠ some (.file text))
    (hplace : ∀ other, other <+: place → tree.node? other = some .directory) :
    ∃ made, tree.makeDirectoriesFrom place path = (made, .ok ()) ∧ ∀ other,
      made.node? other = if other <+: place ++ path then some .directory else tree.node? other := by
  induction path generalizing tree place with
  | nil =>
    refine ⟨tree, rfl, fun other => ?_⟩
    rw [List.append_nil]
    split
    · exact hplace other ‹_›
    · rfl
  | cons name path ih =>
    obtain ⟨hname, hpath⟩ := List.forall_mem_cons.mp hstraight
    rw [List.append_cons] at hpassable ⊢
    rw [makeDirectoriesFrom, enter_of_isFileName hname (hplace place (List.prefix_refl place))]
    dsimp only
    rcases hnext : tree.node? (place ++ [name]) with _ | ⟨text⟩ | _
    · -- the directory that is added is on the way, so nothing else changes
      have hadded : ∀ other, other ≠ place ++ [name] →
          (tree.add (place ++ [name]) .directory).node? other = tree.node? other :=
        fun other hother => node?_add_of_ne hother
      have hpassable' : ∀ other text, other <+: place ++ [name] ++ path →
          (tree.add (place ++ [name]) .directory).node? other ≠ some (.file text) := by
        intro other text hother
        by_cases heq : other = place ++ [name]
        · rw [heq, node?_add_self hnext]
          simp
        · rw [hadded other heq]
          exact hpassable other text hother
      have hplace' : ∀ other, other <+: place ++ [name] →
          (tree.add (place ++ [name]) .directory).node? other = some .directory := by
        intro other hother
        rcases List.prefix_concat_iff.mp hother with rfl | hother
        · exact node?_add_self hnext
        · exact within_add _ _ _ _ _ (hplace other hother)
      obtain ⟨made, hmade, hnodes⟩ := ih hpath hpassable' hplace'
      refine ⟨made, hmade, fun other => ?_⟩
      rw [hnodes other]
      split_ifs with hway
      · rfl
      · exact hadded other fun heq => hway (heq ▸ List.prefix_append _ path)
    · exact absurd hnext (hpassable _ text (List.prefix_append _ path))
    · refine ih hpath hpassable fun other hother => ?_
      rcases List.prefix_concat_iff.mp hother with rfl | hother
      · exact hnext
      · exact hplace other hother

/-- **Making the directories on a path straight down** succeeds if no file is in the way. -/
theorem makeDirectories_straight (hstraight : path.Straight) (hready : tree.Ready path) :
    ∃ made, tree.makeDirectories path = (made, .ok ()) ∧ made.follow path = .ok path ∧
      ∀ other, made.node? other = if other <+: path then some .directory else tree.node? other := by
  obtain ⟨made, hmade, hnodes⟩ := @makeDirectoriesFrom_straight tree [] path hstraight
    hready.passable fun other hother => by rw [List.prefix_nil.mp hother, node?_nil]
  have hmakes : tree.makeDirectories path = (made, .ok ()) := by
    rw [makeDirectories, hstraight.hasNul_eq_false, if_neg Bool.false_ne_true, hmade]
  refine ⟨made, hmakes, follow_eq_ok_iff.mpr ⟨hstraight.hasNul_eq_false, ?_⟩, hnodes⟩
  have hmade_ready : made.Ready path := by
    refine ⟨?_, fun other text hother => ?_⟩
    · have hgrown := makeDirectories_grown hready.connected path
      rw [hmakes] at hgrown
      exact hgrown.connected hready.connected
    · rw [hnodes, List.nil_append, if_pos hother]
      simp
  rcases followFrom_straight hstraight hmade_ready (node?_nil made) with hfollow | ⟨-, hnone⟩
  · exact hfollow
  · rw [hnodes, if_pos (List.prefix_refl _)] at hnone
    cases hnone

/-- **Removing a directory** fails only if it is missing. -/
theorem removeAll_of_ready (hstraight : path.Straight) (hpath : path ≠ [])
    (hready : tree.Ready path) :
    tree.removeAll path = (tree.erase path, .ok ()) ∨
      tree.removeAll path = (tree, .error .notFound) ∧ tree.node? path = none := by
  rw [removeAll, follow, hstraight.hasNul_eq_false, if_neg Bool.false_ne_true]
  rcases followFrom_straight hstraight hready (node?_nil tree) with hfollow | ⟨hfollow, hnone⟩
  · rw [hfollow, List.nil_append]
    dsimp only
    rcases hnode : tree.node? path with _ | ⟨text⟩ | _
    · exact Or.inr ⟨rfl, rfl⟩
    · exact absurd hnode (hready.passable path text (List.prefix_refl path))
    · left
      dsimp only
      rw [if_neg hpath]
  · rw [hfollow]
    exact Or.inr ⟨rfl, hnone⟩

/-! ### Trees that are the same beside a place -/

/-- **Two trees are the same beside a place**: wherever it is neither on the way to the place nor
below it. -/
def AgreeBeside (tree tree' : FileTree) (place : Path) : Prop :=
  ∀ path, ¬place <+: path → ¬path <+: place → tree'.node? path = tree.node? path

theorem AgreeBeside.refl (tree : FileTree) (place : Path) : tree.AgreeBeside tree place :=
  fun _ _ _ => rfl

theorem AgreeBeside.trans (h : tree.AgreeBeside tree₁ place) (h' : tree₁.AgreeBeside tree₂ place) :
    tree.AgreeBeside tree₂ place :=
  fun path hbelow hway => (h' path hbelow hway).trans (h path hbelow hway)

/-- **Two trees are the same.** -/
def Same (tree tree' : FileTree) : Prop :=
  ∀ path, tree'.node? path = tree.node? path

theorem Same.trans (h : tree.Same tree₁) (h' : tree₁.Same tree₂) : tree.Same tree₂ :=
  fun path => (h' path).trans (h path)

/-- Nothing changes beside a place that is removed. -/
theorem erase_agreeBeside (hplace : place ≠ []) : tree.AgreeBeside (tree.erase place) place := by
  intro path hbelow _
  rw [node?_erase hplace, if_neg hbelow]

/-- A tree is still ready when the place has been removed. -/
theorem Ready.erase (hready : tree.Ready place) (hplace : place ≠ []) :
    (tree.erase place).Ready place := by
  refine ⟨hready.connected.erase hplace, fun path text hway => ?_⟩
  rw [node?_erase hplace]
  split
  · simp
  · exact hready.passable path text hway

/-! ### Nothing but some files -/

/-- What a directory with some files holds. -/
def nodeOf? (files : List (String × String)) : Path → Option FileNode
  | [] => some .directory
  | [name] => (files.lookup name).map .file
  | _ :: _ :: _ => none

/-- **A place has some files and nothing else.** The way to the place consists of directories,
and beside it the tree is the same as another one. -/
structure FilesOnly (tree tree' : FileTree) (place : Path) (files : List (String × String)) :
    Prop where
  /-- The files are there, and nothing else is. -/
  inside : ∀ rest, tree'.node? (place ++ rest) = nodeOf? files rest
  /-- Directories lead there, and there is no other change. -/
  outside : ∀ path, ¬place <+: path →
    tree'.node? path = if path <+: place then some .directory else tree.node? path

theorem FilesOnly.agreeBeside (h : tree.FilesOnly tree' place files) :
    tree.AgreeBeside tree' place := by
  intro path hbelow hway
  rw [h.outside path hbelow, if_neg hway]

/-- What has been on the way or at the place does not matter. -/
theorem FilesOnly.congr (hbeside : tree.AgreeBeside tree₁ place)
    (h : tree₁.FilesOnly tree' place files) : tree.FilesOnly tree' place files := by
  refine ⟨h.inside, fun path hbelow => ?_⟩
  rw [h.outside path hbelow]
  split
  · rfl
  · exact hbeside path hbelow ‹_›

/-- **There is only one such tree.** -/
theorem FilesOnly.unique (h₁ : tree.FilesOnly tree₁ place files)
    (h₂ : tree.FilesOnly tree₂ place files) : tree₁.Same tree₂ := by
  intro path
  by_cases hbelow : place <+: path
  · obtain ⟨rest, rfl⟩ := hbelow
    rw [h₁.inside, h₂.inside]
  · rw [h₁.outside path hbelow, h₂.outside path hbelow]

/-- There are directories on the way and at the place. -/
theorem FilesOnly.directory_on_way (h : tree.FilesOnly tree' place files) (hway : path <+: place) :
    tree'.node? path = some .directory := by
  by_cases hbelow : place <+: path
  · obtain rfl := List.IsPrefix.eq_of_length hway (Nat.le_antisymm hway.length_le hbelow.length_le)
    have hplace := h.inside []
    rwa [List.append_nil] at hplace
  · rw [h.outside path hbelow, if_pos hway]

/-- The tree is ready for a directory at the place again. -/
theorem FilesOnly.ready (h : tree.FilesOnly tree' place files) (hconnected : tree'.Connected) :
    tree'.Ready place := by
  refine ⟨hconnected, fun path text hway => ?_⟩
  rw [h.directory_on_way hway]
  simp

/-- **A directory made where there was nothing** is empty, and nothing else changes. -/
theorem filesOnly_of_made (hready : tree.Ready place) (hplace : tree.node? place = none)
    (hmade : ∀ path,
      tree'.node? path = if path <+: place then some .directory else tree.node? path) :
    tree.FilesOnly tree' place [] := by
  refine ⟨fun rest => ?_, fun path _ => hmade path⟩
  rw [hmade]
  rcases rest with _ | ⟨name, rest⟩
  · rw [List.append_nil, if_pos (List.prefix_refl place)]
    rfl
  · rw [if_neg, hready.connected.none_below hplace (List.prefix_append _ _)]
    · cases rest <;> rfl
    · intro hway
      have hlength := hway.length_le
      rw [List.length_append, List.length_cons] at hlength
      omega

/-- **Files added to an empty directory** are all that is there. -/
theorem FilesOnly.of_added {made : FileTree} (hmade : tree.FilesOnly made place [])
    (hadded : made.FilesAdded tree' place files) : tree.FilesOnly tree' place files := by
  refine ⟨fun rest => ?_, fun path hbelow => ?_⟩
  · rcases rest with _ | ⟨name, _ | ⟨other, rest⟩⟩
    · rw [hadded.others _ (by simp), hmade.inside]
      rfl
    · rcases hlookup : files.lookup name with _ | text
      · have hother : ∀ file ∈ files, place ++ [name] ≠ place ++ [file.1] := by
          intro file hfile heq
          have hne := List.lookup_eq_none_iff.mp hlookup file hfile
          have hname : name = file.1 := by simpa using heq
          rw [hname] at hne
          simp at hne
        rw [hadded.others _ hother, hmade.inside, nodeOf?, nodeOf?, hlookup]
        rfl
      · obtain ⟨before, after, rfl, -⟩ := List.lookup_eq_some_iff.mp hlookup
        rw [hadded.there (name, text) (by simp), nodeOf?, hlookup]
        rfl
    · rw [hadded.others _ (by simp), hmade.inside]
      rfl
  · have hother : ∀ file ∈ files, path ≠ place ++ [file.1] := by
      rintro file - rfl
      exact hbelow (List.prefix_append _ _)
    rw [hadded.others _ hother, hmade.outside path hbelow]

end FileTree

end ContractSchema
