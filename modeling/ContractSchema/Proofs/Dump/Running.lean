import ContractSchema.Proofs.Dump.Targets
import Mathlib.Data.List.Induction

/-!
# What a dump leaves behind

A dump goes through its files one after the other. Each is created before it is known
whether there is a text for it, and none is ever put in the place of another one. The run
can end in three ways only (`ContractSchema.Dump.Outcome`): all files are there; or one of
them cannot be created because there is something of its name; or one of them has been
created, but there is no text for it, and it stays empty. In each case the files before it
are complete and nothing else has changed (`ContractSchema.Dump.runSteps_outcome`).

The directory of the dump is followed anew for each file. It leads to the same place every
time, since trees only grow.
-/

namespace ContractSchema.Dump

variable {tree tree' : FileTree} {directory place : Path} {failure : Option DumpError}
  {target : DumpTarget} {targets : List DumpTarget}

/-! ### How a dump ends -/

/-- **A file is free** at its turn: there has been nothing of its name in the directory, and
none of the files before it has this name. -/
def IsFree (tree : FileTree) (place : Path) (before : List DumpTarget) (target : DumpTarget) :
    Prop :=
  tree.node? (place ++ [target.name]) = none ∧ target.name ∉ before.map (·.name)

/-- **How a dump ends** that is to make the given files in a directory of a tree: with what
tree, and with what failure. -/
inductive Outcome (tree : FileTree) (place : Path) (targets : List DumpTarget)
    (tree' : FileTree) : Option DumpError → Prop
  /-- All files are there, and each of them is complete. -/
  | done (readable : ∀ target ∈ targets, target.Readable)
      (added : tree.FilesAdded tree' place (targets.map DumpTarget.file)) :
      Outcome tree place targets tree' none
  /-- A file is not free. The files before it are there and complete. -/
  | taken (before : List DumpTarget) (target : DumpTarget) (after : List DumpTarget)
      (split : targets = before ++ target :: after)
      (readable : ∀ target ∈ before, target.Readable)
      (taken : ¬IsFree tree place before target)
      (added : tree.FilesAdded tree' place (before.map DumpTarget.file)) :
      Outcome tree place targets tree' (some (.file .alreadyExists))
  /-- A file has no text. It is there and empty, and the files before it are complete. -/
  | unreadable (before : List DumpTarget) (target : DumpTarget) (after : List DumpTarget)
      (error : SchemaError) (split : targets = before ++ target :: after)
      (readable : ∀ target ∈ before, target.Readable)
      (free : IsFree tree place before target)
      (unreadable : target.text = .error error)
      (added : tree.FilesAdded tree' place (before.map DumpTarget.file ++ [(target.name, "")])) :
      Outcome tree place targets tree' (some (.schema error))

/-- A file is free after the first one has been made if it is free after the first one. -/
theorem isFree_add_iff {first : DumpTarget} {before : List DumpTarget} {node : FileNode} :
    IsFree (tree.add (place ++ [first.name]) node) place before target ↔
      IsFree tree place (first :: before) target := by
  have hpath : place ++ [target.name] = place ++ [first.name] ↔ target.name = first.name := by
    simp
  rw [IsFree, IsFree, FileTree.node?_add, Option.or_eq_none_iff, ite_eq_right_iff, hpath,
    List.map_cons, List.mem_cons, not_or, and_assoc]
  simp

/-- The first file may be taken. -/
theorem Outcome.of_taken (hold : tree.node? (place ++ [target.name]) ≠ none) :
    Outcome tree place (target :: targets) tree (some (.file .alreadyExists)) :=
  .taken [] target targets rfl (by simp) (fun hfree => hold hfree.1) (FileTree.FilesAdded.nil ..)

/-- There may be no text for the first file. -/
theorem Outcome.of_unreadable {error : SchemaError}
    (hnew : tree.node? (place ++ [target.name]) = none) (herror : target.text = .error error) :
    Outcome tree place (target :: targets) (tree.add (place ++ [target.name]) (.file ""))
      (some (.schema error)) :=
  .unreadable [] target targets error rfl (by simp) ⟨hnew, by simp⟩ herror
    ((FileTree.FilesAdded.nil ..).cons hnew)

/-- One more file that can be made is the first of them. -/
theorem Outcome.cons {text : String} (hnew : tree.node? (place ++ [target.name]) = none)
    (htext : target.text = .ok text)
    (h : Outcome (tree.add (place ++ [target.name]) (.file text)) place targets tree' failure) :
    Outcome tree place (target :: targets) tree' failure := by
  have hfile : target.file = (target.name, text) := by
    rw [DumpTarget.file, htext]
    rfl
  have hreadable : target.Readable := ⟨text, htext⟩
  cases h with
  | done readable added =>
    refine .done (List.forall_mem_cons.mpr ⟨hreadable, readable⟩) ?_
    rw [List.map_cons, hfile]
    exact added.cons hnew
  | taken before next after split readable taken added =>
    refine .taken (target :: before) next after (congrArg (target :: ·) split)
      (List.forall_mem_cons.mpr ⟨hreadable, readable⟩) (mt isFree_add_iff.mpr taken) ?_
    rw [List.map_cons, hfile]
    exact added.cons hnew
  | unreadable before next after error split readable free unreadable added =>
    refine .unreadable (target :: before) next after error (congrArg (target :: ·) split)
      (List.forall_mem_cons.mpr ⟨hreadable, readable⟩) (isFree_add_iff.mp free) unreadable ?_
    rw [List.map_cons, hfile]
    exact added.cons hnew

/-- **A dump changes nothing** that has been there before. -/
theorem Outcome.within (h : Outcome tree place targets tree' failure) : tree.Within tree' := by
  cases h with
  | done _ added => exact added.within
  | taken _ _ _ _ _ _ added => exact added.within
  | unreadable _ _ _ _ _ _ _ _ added => exact added.within

/-- **A dump succeeds** if and only if every file is free at its turn and has a text. -/
theorem Outcome.failure_eq_none_iff (h : Outcome tree place targets tree' failure) :
    failure = none ↔ ∀ before target after, targets = before ++ target :: after →
      IsFree tree place before target ∧ target.Readable := by
  cases h with
  | done readable added =>
    refine iff_of_true rfl ?_
    rintro before target after rfl
    have hmem : target ∈ before ++ target :: after := by simp
    refine ⟨⟨added.new _ (List.mem_map_of_mem hmem), ?_⟩, readable target hmem⟩
    have hdistinct : ((before ++ target :: after).map (·.name)).Nodup := by
      have hnames := added.distinct
      rw [List.map_map] at hnames
      exact hnames
    rw [List.map_append, List.nodup_append] at hdistinct
    intro hbefore
    exact hdistinct.2.2 _ hbefore _ (List.mem_cons_self ..) rfl
  | taken before target after split _ taken _ =>
    refine iff_of_false (by simp) fun hall => ?_
    exact taken (hall before target after split).1
  | unreadable before target after error split _ _ unreadable _ =>
    refine iff_of_false (by simp) fun hall => ?_
    obtain ⟨text, htext⟩ := (hall before target after split).2
    rw [unreadable] at htext
    cases htext

/-- In a directory in which nothing is, files are free if their names are different. -/
theorem forall_isFree_iff_nodup (hempty : ∀ name, tree.node? (place ++ [name]) = none) :
    (∀ before target after, targets = before ++ target :: after →
      IsFree tree place before target) ↔ (targets.map (·.name)).Nodup := by
  constructor
  · intro h
    induction targets using List.reverseRecOn with
    | nil => exact List.nodup_nil
    | append_singleton targets target ih =>
      have hbefore : (targets.map (·.name)).Nodup := by
        refine ih ?_
        rintro before other after rfl
        exact h before other (after ++ [target]) (by simp)
      have hlast : target.name ∉ targets.map (·.name) := (h targets target [] rfl).2
      rw [List.map_append, List.nodup_append]
      refine ⟨hbefore, List.nodup_singleton _, ?_⟩
      rintro name hname _ hmem rfl
      rw [List.map_singleton, List.mem_singleton] at hmem
      rw [← hmem] at hlast
      exact hlast hname
  · rintro h before target after rfl
    refine ⟨hempty _, fun hbefore => ?_⟩
    rw [List.map_append, List.nodup_append] at h
    exact h.2.2 _ hbefore _ (List.mem_cons_self ..) rfl

/-- **In an empty directory a dump succeeds** if and only if all files have texts and their
names are different. -/
theorem Outcome.failure_eq_none_iff_of_empty (h : Outcome tree place targets tree' failure)
    (hempty : ∀ name, tree.node? (place ++ [name]) = none) :
    failure = none ↔
      (∀ target ∈ targets, target.Readable) ∧ (targets.map (·.name)).Nodup := by
  rw [h.failure_eq_none_iff, ← forall_isFree_iff_nodup hempty]
  constructor
  · intro hall
    refine ⟨fun target htarget => ?_, fun before target after hsplit =>
      (hall before target after hsplit).1⟩
    obtain ⟨before, after, hsplit⟩ := List.append_of_mem htarget
    exact (hall before target after hsplit).2
  · rintro ⟨hreadable, hfree⟩ before target after hsplit
    refine ⟨hfree before target after hsplit, hreadable target ?_⟩
    rw [hsplit]
    simp

/-! ### Taking the steps -/

theorem tree_after (text : String) (dump : Dump) : (dump.after text).tree = dump.tree := rfl

theorem failure_after (text : String) (dump : Dump) : (dump.after text).failure = dump.failure :=
  rfl

/-- **What the steps of a dump lead to** in a directory. -/
theorem runSteps_outcome {steps : List DumpStep} (hfollow : tree.follow directory = .ok place)
    (hplace : tree.node? place = some .directory)
    (names : ∀ target ∈ steps.filterMap DumpStep.target?, IsFileName target.name) :
    Outcome tree place (steps.filterMap DumpStep.target?) (runSteps directory steps tree).tree
      (runSteps directory steps tree).failure := by
  induction steps generalizing tree with
  | nil => exact .done (by simp) (FileTree.FilesAdded.nil ..)
  | cons step steps ih =>
    cases step with
    | report text =>
      rw [filterMap_target?_report] at names ⊢
      rw [runSteps, tree_after, failure_after]
      exact ih hfollow hplace names
    | create name text =>
      obtain ⟨hname, hnames⟩ := List.forall_mem_cons.mp names
      rw [runSteps, FileTree.createFile_in hfollow hplace hname]
      by_cases hnew : tree.node? (place ++ [name]) = none
      · rw [if_pos hnew]
        rcases text with error | text
        · exact Outcome.of_unreadable hnew rfl
        · -- the file that has been made does not stand in the way to the directory
          have hgrown := FileTree.within_add tree (place ++ [name]) (.file text)
          exact Outcome.cons hnew rfl
            (ih (FileTree.follow_of_within hgrown hfollow) (hgrown _ _ hplace) hnames)
      · rw [if_neg hnew]
        exact Outcome.of_taken hnew

/-! ### The whole dump -/

section InitForm

end InitForm

end ContractSchema.Dump
