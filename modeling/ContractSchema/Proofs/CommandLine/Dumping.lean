import ContractSchema.CommandLine.Task
import ContractSchema.Proofs.FileTree.Directory
import ContractSchema.Proofs.Registry.Files

/-!
# Dumps from the command line

A dump that is forced removes the directory first and then does what one that is not forced
does where there is nothing (`ContractSchema.CommandLine.run_forced`). It leaves the files of the
contract in the directory, and they are the same whatever has been there
(`ContractSchema.CommandLine.forced_dump_starts_anew`). A dump that is not forced only adds to
a tree (`ContractSchema.Dump.run_grown`), and where there is a dump already it stops at its
first file (`ContractSchema.Dump.run_again`).

A contract is looked up before anything else is done. If there is none of that name, the command
fails and the tree is as before, whether the dump is forced or not.
-/

namespace ContractSchema

/-! ### Dumps in trees that hang together -/

namespace Dump

variable {tree tree' made : FileTree} {directory place : Path} {failure : Option DumpError}
  {bindings : ContractBindings} {forms : Option ContractForms} {first : DumpTarget}
  {targets : List DumpTarget}

theorem runSteps_grown (h : tree.Connected) (directory : Path) (steps : List DumpStep) :
    tree.Grown (runSteps directory steps tree).tree := by
  induction steps generalizing tree with
  | nil => exact .refl
  | cons step steps ih =>
    cases step with
    | report text =>
      rw [runSteps, tree_after]
      exact ih h
    | create name text =>
      rw [runSteps]
      rcases hfile : tree.createFile (directory ++ Path.ofString name)
        (text.toOption.getD "") with error | tree'
      · exact .refl
      · have hgrown := FileTree.createFile_grown h hfile
        rcases text with error | text
        · exact hgrown
        · exact hgrown.trans (ih (hgrown.connected h))

/-- **A dump only adds to a tree**, whether it succeeds or not. -/
theorem run_grown (h : tree.Connected) (directory : Path) (steps : List DumpStep) :
    tree.Grown (run directory steps tree).tree := by
  have hmade := FileTree.makeDirectories_grown h directory
  rw [run]
  rcases hmake : tree.makeDirectories directory with ⟨made, error | ⟨⟩⟩
  · rwa [hmake] at hmade
  · rw [hmake] at hmade
    exact hmade.trans (runSteps_grown (hmade.connected h) directory steps)

/-- How a dump ends if its directory can be made. -/
theorem outcome_of_made (keys : UsableKeys bindings forms)
    (hmade : tree.makeDirectories directory = (made, .ok ()))
    (hfollow : made.follow directory = .ok place) (hplace : made.node? place = some .directory) :
    Outcome made place (dumpTargets bindings forms)
      (run directory (dumpSteps bindings forms) tree).tree
      (run directory (dumpSteps bindings forms) tree).failure := by
  rw [run, hmade, ← filterMap_target?_dumpSteps]
  refine runSteps_outcome hfollow hplace ?_
  rw [filterMap_target?_dumpSteps]
  exact keys.isFileName

/-- **A dump where there is nothing** succeeds, and its files are all that is there. -/
theorem run_anew (hdump : Dumpable bindings forms) (hstraight : place.Straight)
    (hready : tree.Ready place) (hplace : tree.node? place = none) :
    (run place (dumpSteps bindings forms) tree).failure = none ∧
      tree.FilesOnly (run place (dumpSteps bindings forms) tree).tree place
        ((dumpTargets bindings forms).map DumpTarget.file) := by
  obtain ⟨made, hmade, hfollow, hnodes⟩ := FileTree.makeDirectories_straight hstraight hready
  have hempty := FileTree.filesOnly_of_made hready hplace hnodes
  have houtcome := outcome_of_made hdump.keys hmade hfollow
    (hempty.directory_on_way (List.prefix_refl place))
  have hfree : ∀ name, made.node? (place ++ [name]) = none := fun name => hempty.inside [name]
  have hsucceeds := (houtcome.failure_eq_none_iff_of_empty hfree).mpr
    ⟨hdump.readable, hdump.distinct⟩
  refine ⟨hsucceeds, ?_⟩
  rw [hsucceeds] at houtcome
  cases houtcome with
  | done _ added => exact hempty.of_added added

/-- If the first file is taken, nothing is done. -/
theorem Outcome.of_first_taken (h : Outcome tree place (first :: targets) tree' failure)
    (htaken : tree.node? (place ++ [first.name]) ≠ none) :
    failure = some (.file .alreadyExists) ∧ tree.Same tree' := by
  cases h with
  | done _ added => exact absurd (added.new _ (List.mem_cons_self ..)) htaken
  | taken before _ _ split _ _ added =>
    cases before with
    | nil => exact ⟨rfl, fun path => added.others path (by simp)⟩
    | cons _ _ =>
      obtain ⟨rfl, -⟩ := List.cons.inj split
      exact absurd (added.new _ (List.mem_cons_self ..)) htaken
  | unreadable before _ _ _ split _ free _ added =>
    cases before with
    | nil =>
      obtain ⟨rfl, -⟩ := List.cons.inj split
      exact absurd free.1 htaken
    | cons _ _ =>
      obtain ⟨rfl, -⟩ := List.cons.inj split
      exact absurd (added.new _ (List.mem_cons_self ..)) htaken

/-- **A dump where there is one already** fails, and nothing is changed. -/
theorem run_again (hdump : Dumpable bindings forms) (hstraight : place.Straight)
    (hfiles : tree.FilesOnly tree' place ((dumpTargets bindings forms).map DumpTarget.file))
    (hready : tree'.Ready place) :
    (run place (dumpSteps bindings forms) tree').failure = some (.file .alreadyExists) ∧
      tree'.Same (run place (dumpSteps bindings forms) tree').tree := by
  obtain ⟨made, hmade, hfollow, hnodes⟩ := FileTree.makeDirectories_straight hstraight hready
  have hsame : tree'.Same made := by
    intro path
    rw [hnodes]
    split
    · rw [hfiles.directory_on_way ‹_›]
    · rfl
  have houtcome := outcome_of_made hdump.keys hmade hfollow
    ((hsame place).trans (hfiles.directory_on_way (List.prefix_refl place)))
  obtain ⟨first, rest, htargets⟩ := List.exists_cons_of_ne_nil hdump.nonempty
  rw [htargets] at houtcome
  have htaken : made.node? (place ++ [first.name]) ≠ none := by
    rw [hsame, hfiles.inside, htargets, FileTree.nodeOf?, List.map_cons, DumpTarget.file,
      List.lookup_cons_self]
    simp
  obtain ⟨hfails, hunchanged⟩ := houtcome.of_first_taken htaken
  exact ⟨hfails, hsame.trans hunchanged⟩

end Dump

namespace CommandLine

variable {tree : FileTree} {place : Path} {directory contract : String} {force : Bool}
  {format : OutputFormat} {bindings : ContractBindings}

/-! ### Commands and trees that hang together -/

theorem clearDirectory_connected (h : tree.Connected) (place : Path) :
    (clearDirectory place tree).1.Connected := by
  have hremoved := FileTree.removeAll_connected h place
  rw [clearDirectory]
  split
  · rename_i hremove
    rwa [hremove] at hremoved
  · rename_i hremove
    rwa [hremove] at hremoved

theorem Task.run_connected (h : tree.Connected) (task : Task) : (task.run tree).tree.Connected := by
  cases task with
  | print text => exact h
  | dump directory force steps =>
    have hcleared : (if force then clearDirectory (Path.ofString directory) tree
        else (tree, .ok ())).1.Connected := by
      split
      · exact clearDirectory_connected h _
      · exact h
    rw [Task.run]
    rcases hclear : (if force then clearDirectory (Path.ofString directory) tree
        else (tree, .ok ())) with ⟨cleared, error | ⟨⟩⟩
    · rw [hclear] at hcleared
      exact hcleared
    · rw [hclear] at hcleared
      exact (Dump.run_grown hcleared _ steps).connected hcleared

/-- **Every command leaves a tree hanging together.** -/
theorem Invocation.run_connected (h : tree.Connected) (invocation : Invocation) :
    (invocation.run tree).tree.Connected := by
  rw [Invocation.run]
  rcases invocation.task with error | task
  · exact h
  · exact task.run_connected h

/-! ### Dumps of known and unknown contracts -/

/-- **A dump of an unknown contract** fails before anything is done. -/
theorem run_unknown (hunknown : Registry.find? contract = none) :
    Invocation.run ⟨format, .dump contract (some directory) force⟩ tree =
      ⟨tree, "", some (.unknownContract contract)⟩ := by
  have htask : Invocation.task ⟨format, .dump contract (some directory) force⟩ =
      .error (.unknownContract contract) := by
    change (findBindings contract >>= _) = _
    rw [findBindings, hunknown]
    rfl
  rw [Invocation.run, htask]

theorem run_known (hknown : Registry.find? contract = some bindings) :
    Invocation.run ⟨format, .dump contract (some directory) force⟩ tree =
      Task.run tree (.dump directory force (dumpSteps bindings (Registry.forms? contract))) := by
  have htask : Invocation.task ⟨format, .dump contract (some directory) force⟩ =
      .ok (.dump directory force (dumpSteps bindings (Registry.forms? contract))) := by
    change (findBindings contract >>= _) = _
    rw [findBindings, hknown]
    rfl
  rw [Invocation.run, htask]

/-- A directory that can be made can be removed before, and nothing is there then. -/
theorem clearDirectory_of_ready (hstraight : place.Straight) (hplace : place ≠ [])
    (hready : tree.Ready place) :
    ∃ cleared, clearDirectory place tree = (cleared, .ok ()) ∧ cleared.Ready place ∧
      tree.AgreeBeside cleared place ∧ cleared.node? place = none := by
  rw [clearDirectory]
  rcases FileTree.removeAll_of_ready hstraight hplace hready with hremove | ⟨hremove, hnone⟩
  · rw [hremove]
    refine ⟨tree.erase place, rfl, hready.erase hplace, FileTree.erase_agreeBeside hplace, ?_⟩
    rw [FileTree.node?_erase hplace, if_pos (List.prefix_refl place)]
  · rw [hremove]
    exact ⟨tree, rfl, hready, FileTree.AgreeBeside.refl tree place, hnone⟩

/-- **A text that names a directory to dump into**: a path that begins where the program works and
goes straight down to some other place. -/
structure IsDestination (directory : String) : Prop where
  /-- The path does not begin at the root of all files. -/
  relative : directory.toList.head? ≠ some '/'
  /-- It leads somewhere. -/
  nonempty : Path.ofString directory ≠ []
  /-- It goes straight down. -/
  straight : (Path.ofString directory).Straight

/-- The files of the contract with a name. -/
def filesOf (contract : String) (bindings : ContractBindings) : List (String × String) :=
  (dumpTargets bindings (Registry.forms? contract)).map DumpTarget.file

/-- **A dump where there is nothing** succeeds if the contract is known. -/
theorem run_unforced (hdirectory : IsDestination directory)
    (hready : tree.Ready (Path.ofString directory))
    (hnone : tree.node? (Path.ofString directory) = none)
    (hknown : Registry.find? contract = some bindings) :
    let outcome := Invocation.run ⟨format, .dump contract (some directory) false⟩ tree
    outcome.failure = none ∧
      tree.FilesOnly outcome.tree (Path.ofString directory) (filesOf contract bindings) := by
  obtain ⟨hsucceeds, hfiles⟩ :=
    Dump.run_anew (Registry.dumpable_of_find? hknown) hdirectory.straight hready hnone
  intro outcome
  have houtcome : outcome = Task.run tree
      (.dump directory false (dumpSteps bindings (Registry.forms? contract))) := run_known hknown
  rw [houtcome]
  exact ⟨congrArg (Option.map CommandError.dump) hsucceeds, hfiles⟩

/-- A forced dump does what one that is not forced does when the directory has been removed. -/
theorem run_forced_eq {cleared : FileTree} (hknown : Registry.find? contract = some bindings)
    (hclear : clearDirectory (Path.ofString directory) tree = (cleared, .ok ())) :
    Invocation.run ⟨format, .dump contract (some directory) true⟩ tree =
      Invocation.run ⟨format, .dump contract (some directory) false⟩ cleared := by
  rw [run_known hknown, run_known hknown, Task.run, if_pos rfl, hclear]
  rfl

/-- **A forced dump** succeeds if the contract is known, whatever has been in the directory. -/
theorem run_forced (hdirectory : IsDestination directory)
    (hready : tree.Ready (Path.ofString directory))
    (hknown : Registry.find? contract = some bindings) :
    let outcome := Invocation.run ⟨format, .dump contract (some directory) true⟩ tree
    outcome.failure = none ∧
      tree.FilesOnly outcome.tree (Path.ofString directory) (filesOf contract bindings) := by
  obtain ⟨cleared, hclear, hcleared, hbeside, hnone⟩ :=
    clearDirectory_of_ready hdirectory.straight hdirectory.nonempty hready
  rw [run_forced_eq hknown hclear]
  obtain ⟨hsucceeds, hfiles⟩ := run_unforced hdirectory hcleared hnone hknown
  exact ⟨hsucceeds, hfiles.congr hbeside⟩

/-- **A dump that is not forced** only adds to a tree. -/
theorem run_unforced_within (h : tree.Connected) :
    tree.Within
      (Invocation.run ⟨format, .dump contract (some directory) false⟩ tree).tree := by
  rcases hfind : Registry.find? contract with _ | bindings
  · rw [run_unknown hfind]
    exact FileTree.Within.refl tree
  · rw [run_known hfind]
    exact (Dump.run_grown h _ _).within

/-- **A dump that is not forced** fails where there is a dump of the contract, and nothing
changes. -/
theorem run_unforced_again {tree' : FileTree} (hdirectory : IsDestination directory)
    (hknown : Registry.find? contract = some bindings)
    (hfiles : tree.FilesOnly tree' (Path.ofString directory) (filesOf contract bindings))
    (hready : tree'.Ready (Path.ofString directory)) :
    let outcome := Invocation.run ⟨format, .dump contract (some directory) false⟩ tree'
    outcome.failure = some (.dump (.file .alreadyExists)) ∧ tree'.Same outcome.tree := by
  rw [run_known hknown]
  obtain ⟨hfails, hsame⟩ :=
    Dump.run_again (Registry.dumpable_of_find? hknown) hdirectory.straight hfiles hready
  exact ⟨congrArg (Option.map CommandError.dump) hfails, hsame⟩

/-! ### One dump after the other -/

/-- **A forced dump into a directory**, of whatever contract. -/
def Invocation.IsForcedDump (directory : String) (invocation : Invocation) : Prop :=
  ∃ contract, invocation.command = .dump contract (some directory) true

/-- The tree after invocations have been carried out one after the other, even if some fail. -/
def runAll : List Invocation → FileTree → FileTree
  | [], tree => tree
  | invocation :: rest, tree => runAll rest (invocation.run tree).tree

/-- A forced dump leaves the tree ready for the next one, and the same beside the directory. -/
theorem Invocation.IsForcedDump.step {invocation : Invocation}
    (hforced : invocation.IsForcedDump directory) (hdirectory : IsDestination directory)
    (hready : tree.Ready (Path.ofString directory)) :
    (invocation.run tree).tree.Ready (Path.ofString directory) ∧
      tree.AgreeBeside (invocation.run tree).tree (Path.ofString directory) := by
  obtain ⟨contract, hcommand⟩ := hforced
  obtain ⟨format, command⟩ := invocation
  obtain rfl : command = _ := hcommand
  rcases hfind : Registry.find? contract with _ | bindings
  · rw [run_unknown hfind]
    exact ⟨hready, FileTree.AgreeBeside.refl tree _⟩
  · obtain ⟨-, hfiles⟩ := run_forced hdirectory hready hfind
    exact ⟨hfiles.ready (Invocation.run_connected hready.connected _), hfiles.agreeBeside⟩

/-- So do forced dumps one after the other. -/
theorem runAll_forced {invocations : List Invocation}
    (hforced : ∀ invocation ∈ invocations, invocation.IsForcedDump directory)
    (hdirectory : IsDestination directory) (hready : tree.Ready (Path.ofString directory)) :
    (runAll invocations tree).Ready (Path.ofString directory) ∧
      tree.AgreeBeside (runAll invocations tree) (Path.ofString directory) := by
  induction invocations generalizing tree with
  | nil => exact ⟨hready, FileTree.AgreeBeside.refl tree _⟩
  | cons invocation invocations ih =>
    obtain ⟨hfirst, hrest⟩ := List.forall_mem_cons.mp hforced
    obtain ⟨hready', hbeside⟩ := hfirst.step hdirectory hready
    obtain ⟨hready'', hbeside'⟩ := ih hrest hready'
    exact ⟨hready'', hbeside.trans hbeside'⟩

/-- **A forced dump does not depend on what has been there before**, and one that is not forced
never destroys anything. Let the way to a directory be free of files.

* A dump that is not forced leaves all that has been anywhere as it is.
* If the contract is unknown, a dump fails and the tree is as before, forced or not.
* Otherwise a forced dump succeeds. The directory has exactly what a dump that is not forced puts
  where there is nothing, in any tree. Nothing changes outside the directory, except that those
  above it are made if they are missing. The tree is the same after any forced dumps into the
  directory have come before, of whatever contracts, and a second time changes nothing. A
  dump that is not forced fails then, and it changes nothing either. -/
theorem forced_dump_starts_anew (hdirectory : IsDestination directory)
    (hready : tree.Ready (Path.ofString directory)) (format : OutputFormat) (contract : String) :
    let place := Path.ofString directory
    let forced : Invocation := ⟨format, .dump contract (some directory) true⟩
    let unforced : Invocation := ⟨format, .dump contract (some directory) false⟩
    let after := (forced.run tree).tree
    tree.Within (unforced.run tree).tree ∧
      (Registry.find? contract = none → ∀ invocation ∈ [forced, unforced],
        (invocation.run tree).failure = some (.unknownContract contract) ∧
          (invocation.run tree).tree = tree) ∧
      (Registry.find? contract ≠ none →
        (forced.run tree).failure = none ∧
          (∀ new : FileTree, new.Ready place → new.node? place = none →
            (unforced.run new).failure = none ∧ ∀ rest,
              after.node? (place ++ rest) = (unforced.run new).tree.node? (place ++ rest)) ∧
          (∀ path, ¬place <+: path →
            after.node? path = if path <+: place then some .directory else tree.node? path) ∧
          (∀ earlier : List Invocation,
            (∀ invocation ∈ earlier, invocation.IsForcedDump directory) →
              (forced.run (runAll earlier tree)).failure = none ∧
                after.Same (forced.run (runAll earlier tree)).tree) ∧
          after.Same (forced.run after).tree ∧
          (unforced.run after).failure = some (.dump (.file .alreadyExists)) ∧
          after.Same (unforced.run after).tree) := by
  intro place forced unforced after
  refine ⟨run_unforced_within hready.connected, fun hunknown => ?_, fun hfind => ?_⟩
  · refine List.forall_mem_cons.mpr ⟨?_, List.forall_mem_singleton.mpr ?_⟩
    · rw [run_unknown hunknown]
      exact ⟨rfl, rfl⟩
    · rw [run_unknown hunknown]
      exact ⟨rfl, rfl⟩
  obtain ⟨bindings, hknown⟩ := Option.ne_none_iff_exists'.mp hfind
  obtain ⟨hsucceeds, hfiles⟩ := run_forced hdirectory hready hknown
  have hforced : forced.IsForcedDump directory := ⟨contract, rfl⟩
  have hafter : after.Ready place := (hforced.step hdirectory hready).1
  -- what comes before leaves the tree ready, and the same beside the directory
  have hearlier : ∀ earlier : List Invocation,
      (∀ invocation ∈ earlier, invocation.IsForcedDump directory) →
        (forced.run (runAll earlier tree)).failure = none ∧
          after.Same (forced.run (runAll earlier tree)).tree := by
    intro earlier hall
    obtain ⟨hready', hbeside⟩ := runAll_forced hall hdirectory hready
    obtain ⟨hsucceeds', hfiles'⟩ := run_forced hdirectory hready' hknown
    exact ⟨hsucceeds', hfiles.unique (hfiles'.congr hbeside)⟩
  obtain ⟨hfails, hsame⟩ := run_unforced_again hdirectory hknown hfiles hafter
  refine ⟨hsucceeds, fun new hnew hnone => ?_, hfiles.outside, hearlier,
    (hearlier [forced] (List.forall_mem_singleton.mpr hforced)).2, hfails, hsame⟩
  obtain ⟨hsucceeds', hfiles'⟩ := run_unforced hdirectory hnew hnone hknown
  exact ⟨hsucceeds', fun rest => (hfiles.inside rest).trans (hfiles'.inside rest).symm⟩

section Market

/-- A tree with a directory, in which there is a file, and another file beside it. -/
def marketTree : FileTree :=
  ((FileTree.empty.add ["notes.txt"] (.file "sold out")).add ["out"] .directory).add
    ["out", "old.yaml"] (.file "outdated")

theorem isFileName_out : IsFileName "out" :=
  ⟨by decide, by decide, by decide, by decide⟩

theorem isDestination_out : IsDestination "out" := by
  have hpath : Path.ofString "out" = ["out"] := isFileName_out.ofString
  refine ⟨by decide, by rw [hpath]; simp, ?_⟩
  rw [hpath]
  exact List.forall_mem_singleton.mpr isFileName_out

theorem marketTree_ready : marketTree.Ready ["out"] := by
  refine ⟨?_, fun path text hway => ?_⟩
  · have hnotes := FileTree.connected_empty.add
      (@FileTree.inDirectory_concat _ [] (FileTree.node?_nil _) "notes.txt") (.file "sold out")
    have hout := hnotes.add
      (@FileTree.inDirectory_concat _ [] (FileTree.node?_nil _) "out") .directory
    exact hout.add (@FileTree.inDirectory_concat _ ["out"] rfl "old.yaml") (.file "outdated")
  · have hout : marketTree.node? ["out"] = some .directory := rfl
    rcases List.prefix_cons_iff.mp hway with rfl | ⟨rest, rfl, hrest⟩
    · simp
    · rw [List.prefix_nil.mp hrest, hout]
      simp

/-- The old file is gone after a forced dump, and the other one is still there. -/
theorem forced_dump_starts_anew_market :
    let forced : Invocation := ⟨.text, .dump "offchain-transfers" (some "out") true⟩
    IsDestination "out" ∧ marketTree.Ready (Path.ofString "out") ∧
      marketTree.node? ["out", "old.yaml"] = some (.file "outdated") ∧
      (forced.run marketTree).failure = none ∧
      (forced.run marketTree).tree.node? ["out", "old.yaml"] = none ∧
      (forced.run marketTree).tree.node? ["notes.txt"] = some (.file "sold out") := by
  intro forced
  have hpath : Path.ofString "out" = ["out"] := isFileName_out.ofString
  have hready : marketTree.Ready (Path.ofString "out") := hpath ▸ marketTree_ready
  obtain ⟨-, -, hall⟩ :=
    forced_dump_starts_anew isDestination_out hready .text "offchain-transfers"
  have hknown : Registry.find? "offchain-transfers" ≠ none := by decide +kernel
  obtain ⟨hsucceeds, hinside, houtside, -⟩ := hall hknown
  refine ⟨isDestination_out, hready, rfl, hsucceeds, ?_, ?_⟩
  · -- a dump in an empty tree has no such file
    have hfresh := FileTree.ready_empty (Path.ofString "out")
    have hnone : FileTree.empty.node? (Path.ofString "out") = none := hpath ▸ rfl
    have hold := (hinside FileTree.empty hfresh hnone).2 ["old.yaml"]
    have hfind : Registry.find? "offchain-transfers" = some OffchainTransfers.bindings := rfl
    obtain ⟨-, hfiles⟩ := @run_unforced _ _ _ .text _ isDestination_out hfresh hnone hfind
    rw [hfiles.inside, hpath] at hold
    refine hold.trans ?_
    decide +kernel
  · have hnotes := houtside ["notes.txt"]
    rw [hpath] at hnotes
    exact hnotes (by decide)

end Market

end CommandLine

end ContractSchema
