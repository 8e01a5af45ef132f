/-!
# File trees

A file tree assigns files and directories to paths. Its root is the directory in
which the program works. The root is always there; every other directory has to be
made before something is put into it.

* `ContractSchema.Path` is a path as the names on it, `ContractSchema.Path.ofString` reads one.
* `ContractSchema.FileTree` is a tree, and `ContractSchema.FileTree.node?` is what it holds at a
  place.
* `ContractSchema.FileTree.makeDirectories`, `ContractSchema.FileTree.removeAll`,
  `ContractSchema.FileTree.createFile` and `ContractSchema.FileTree.writeFile` change a tree,
  each of them failing with a `ContractSchema.FileError`.

A path is followed name by name, and `..` leads to the directory above. All names
but the last have to be those of directories that are there.
-/

namespace ContractSchema

/-! ### Paths -/

/-- **A path**: the names on the way from the root. -/
abbrev Path := List String

namespace Path

/-- The pieces of a text between slashes. -/
def pieces : List Char → List (List Char)
  | [] => [[]]
  | c :: rest =>
    if c = '/' then [] :: pieces rest
    else
      match pieces rest with
      | [] => [[c]]
      | piece :: others => (c :: piece) :: others

/-- Reads a path. Empty names and single dots lead nowhere and are dropped. -/
def ofString (text : String) : Path :=
  ((pieces text.toList).map String.ofList).filter fun name => name ≠ "" ∧ name ≠ "."

/-- The text of a path. -/
def text (path : Path) : String :=
  String.intercalate "/" path

end Path

/-! ### Errors -/

/-- **Why a file or a directory cannot be reached or made.** -/
inductive FileError
  /-- A directory on the path is missing. -/
  | notFound
  /-- There is something at the path already. -/
  | alreadyExists
  /-- Something on the path is no directory. -/
  | notDirectory
  /-- The file is a directory. -/
  | isDirectory
  /-- The working directory cannot be removed. -/
  | invalidArgument
  /-- A name on the path is too long. -/
  | nameTooLong
  /-- A name on the path contains the character of code zero. -/
  | nulInName
  /-- Anything else that the system reports. -/
  | other (message : String)
deriving DecidableEq, Repr

/-- The text of the error. -/
def FileError.message : FileError → String
  | .notFound => "No such file or directory (os error 2)"
  | .alreadyExists => "File exists (os error 17)"
  | .notDirectory => "Not a directory (os error 20)"
  | .isDirectory => "Is a directory (os error 21)"
  | .invalidArgument => "Invalid argument (os error 22)"
  | .nameTooLong => "File name too long (os error 36)"
  | .nulInName => "file name contained an unexpected NUL byte"
  | .other message => message

/-! ### Trees -/

/-- What can be at a path. -/
inductive FileNode
  /-- A file with its text. -/
  | file (text : String)
  /-- A directory. -/
  | directory
deriving DecidableEq, Repr

/-- **A file tree.** -/
structure FileTree where
  /-- All files and directories but the root, by their paths. -/
  entries : List (Path × FileNode)

namespace FileTree

/-- The tree that holds nothing but its root. -/
def empty : FileTree := ⟨[]⟩

/-- **What a tree holds** at a place. -/
def node? (tree : FileTree) (place : Path) : Option FileNode :=
  if place = [] then some .directory else tree.entries.lookup place

/-- The tree with something put at a place where there was nothing. -/
def add (tree : FileTree) (place : Path) (node : FileNode) : FileTree :=
  ⟨tree.entries ++ [(place, node)]⟩

/-- The tree without what lies below a place. -/
def clear (tree : FileTree) (place : Path) : FileTree :=
  ⟨tree.entries.filter fun (path, _) => ¬(place.isPrefixOf path ∧ path ≠ place)⟩

/-- The tree without a place and what lies below it. -/
def erase (tree : FileTree) (place : Path) : FileTree :=
  ⟨tree.entries.filter fun (path, _) => ¬place.isPrefixOf path⟩

/-! ### Following paths -/

/-- The greatest number of bytes of a name. -/
def maxNameLength : Nat := 255

/-- The place that one more name leads to from a place. -/
def enter (tree : FileTree) (place : Path) (name : String) : Except FileError Path :=
  match tree.node? place with
  | none => .error .notFound
  | some (.file _) => .error .notDirectory
  | some .directory =>
    if maxNameLength < name.utf8ByteSize then .error .nameTooLong
    else if name = ".." then .ok place.dropLast
    else .ok (place ++ [name])

/-- The place a path leads to from a place. Nothing has to be there, but all that comes before
has to be directories. -/
def followFrom (tree : FileTree) (place : Path) : Path → Except FileError Path
  | [] => .ok place
  | name :: rest => do
    let next ← tree.enter place name
    tree.followFrom next rest

/-- Whether a name on a path contains the character of code zero. -/
def hasNul (path : Path) : Bool :=
  path.any fun name => name.contains '\x00'

/-- **The place a path leads to.** -/
def follow (tree : FileTree) (path : Path) : Except FileError Path :=
  if hasNul path then .error .nulInName else tree.followFrom [] path

/-! ### Changing trees -/

/-- Makes the directories on a path that are missing, beginning at a place. What has been made
before an obstacle stays. -/
def makeDirectoriesFrom (tree : FileTree) (place : Path) :
    Path → FileTree × Except FileError Unit
  | [] => (tree, .ok ())
  | name :: rest =>
    match tree.enter place name with
    | .error error => (tree, .error error)
    | .ok next =>
      match tree.node? next with
      | none => (tree.add next .directory).makeDirectoriesFrom next rest
      | some .directory => tree.makeDirectoriesFrom next rest
      | some (.file _) =>
        (tree, .error (if rest.isEmpty then .alreadyExists else .notDirectory))

/-- **Makes the directories** on a path that are missing. -/
def makeDirectories (tree : FileTree) (path : Path) : FileTree × Except FileError Unit :=
  if hasNul path then (tree, .error .nulInName) else tree.makeDirectoriesFrom [] path

/-- **Removes a directory** with all that is below it. The working directory loses its content
and then refuses to go. -/
def removeAll (tree : FileTree) (path : Path) : FileTree × Except FileError Unit :=
  match tree.follow path with
  | .error error => (tree, .error error)
  | .ok place =>
    match tree.node? place with
    | none => (tree, .error .notFound)
    | some (.file _) => (tree, .error .notDirectory)
    | some .directory =>
      if place = [] then (tree.clear place, .error .invalidArgument)
      else (tree.erase place, .ok ())

/-- **Creates a file** where there is nothing. -/
def createFile (tree : FileTree) (path : Path) (text : String) : Except FileError FileTree := do
  let place ← tree.follow path
  match tree.node? place with
  | some _ => .error .alreadyExists
  | none => .ok (tree.add place (.file text))

/-- **Writes a file**, which is created if it is not there. -/
def writeFile (tree : FileTree) (path : Path) (text : String) : Except FileError FileTree := do
  let place ← tree.follow path
  match tree.node? place with
  | some .directory => .error .isDirectory
  | some (.file _) => .ok ((tree.erase place).add place (.file text))
  | none => .ok (tree.add place (.file text))

/-! ### Looking into trees -/

/-- The text of the file at a path, if there is one. -/
def read? (tree : FileTree) (path : Path) : Option String :=
  match tree.follow path with
  | .error _ => none
  | .ok place =>
    match tree.node? place with
    | some (.file text) => some text
    | _ => none

/-- The files and directories below a place with their paths from there. -/
def below (tree : FileTree) (place : Path) : List (Path × FileNode) :=
  tree.entries.filterMap fun (path, node) =>
    if place.isPrefixOf path ∧ path ≠ place then some (path.drop place.length, node) else none

/-- A line of a listing: directories have a slash at their end. -/
def listingLine (path : Path) : FileNode → String
  | .file _ => path.text
  | .directory => path.text ++ "/"

/-- **The listing** of what lies below the place a path leads to, sorted. -/
def listing (tree : FileTree) (path : Path) : List String :=
  match tree.follow path with
  | .error _ => []
  | .ok place =>
    ((tree.below place).map fun (path, node) => listingLine path node).mergeSort
      fun a b => a ≤ b

/-- The files with their paths and texts, sorted by path. -/
def files (tree : FileTree) : List (String × String) :=
  (tree.entries.filterMap fun (path, node) =>
    match node with
    | .file text => some (path.text, text)
    | .directory => none).mergeSort fun a b => a.1 ≤ b.1

end FileTree

end ContractSchema
