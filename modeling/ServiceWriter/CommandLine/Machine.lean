import ServiceWriter.CommandLine.Host

/-!
# A machine in memory

A tree of files together with what has been put on the two streams. It hosts runs of the program
without touching anything outside. A directory is there if it was made or if something lies in it.
-/

set_option autoImplicit false

namespace ServiceWriter.CommandLine

/-- Why an operation on files fails. -/
inductive FileError where
  /-- There is no such file. -/
  | missing
  /-- A directory stands where a file is needed. -/
  | isDirectory
  /-- A file stands where the directory should be made. -/
  | occupied
  /-- A file stands where a directory on the way is needed. -/
  | notDirectory
  deriving DecidableEq, Repr

/-- The customary code of a file error. -/
def FileError.code : FileError → String
  | .missing => "ENOENT"
  | .isDirectory => "EISDIR"
  | .occupied => "EEXIST"
  | .notDirectory => "ENOTDIR"

/-- Files with their texts, the newest first, and the directories that were made. -/
structure FileTree where
  files : List (Path × String) := []
  directories : List Path := []

namespace FileTree

/-- Whether something lies below the path. -/
def hasBelow (tree : FileTree) (path : Path) : Bool :=
  (tree.files.map Prod.fst ++ tree.directories).any fun p => path.isPrefixOf p && p != path

/-- Whether the path is a file. -/
def isFile (tree : FileTree) (path : Path) : Bool := (tree.files.lookup path).isSome

/-- Whether the path is a directory. -/
def isDirectory (tree : FileTree) (path : Path) : Bool :=
  tree.directories.contains path || tree.hasBelow path

/-- Whether a file stands on the way to the path. -/
def isBlocked (tree : FileTree) (path : Path) : Bool :=
  tree.files.any fun (p, _) => p.isPrefixOf path && p != path

/-- The text of a file. -/
def read (tree : FileTree) (path : Path) : Except FileError String :=
  if tree.isDirectory path then
    .error .isDirectory
  else
    match tree.files.lookup path with
    | some text => .ok text
    | none => .error (if tree.isBlocked path then .notDirectory else .missing)

/-- The tree with a directory made. -/
def makeDirectory (tree : FileTree) (path : Path) : Except FileError FileTree :=
  if tree.isDirectory path then .ok tree
  else if tree.isFile path then .error .occupied
  else if tree.isBlocked path then .error .notDirectory
  else .ok { tree with directories := path :: tree.directories }

/-- The tree with a text written to a file. -/
def write (tree : FileTree) (path : Path) (text : String) : Except FileError FileTree :=
  if tree.isDirectory path then .error .isDirectory
  else if tree.isBlocked path then .error .notDirectory
  else .ok { tree with
    files := (path, text) :: tree.files.filter fun (p, _) => p != path }

end FileTree

/-- A file tree and the two streams. -/
structure Machine where
  tree : FileTree := {}
  out : String := ""
  complaints : String := ""

namespace Machine

/-- Changes the tree, unless the change fails. -/
def change (f : FileTree → Except FileError FileTree) : StateM Machine (Except String Unit) :=
  modifyGet fun machine =>
    match f machine.tree with
    | .ok tree => (.ok (), { machine with tree })
    | .error e => (.error e.code, machine)

/-- The operations of a machine in memory. -/
def host (workingDirectory : Path) (notJson : String) : Host (StateM Machine) where
  workingDirectory
  isThere path := do
    let tree := (← get).tree
    return tree.isFile path || tree.isDirectory path
  read path := do
    match (← get).tree.read path with
    | .ok text => return .ok text.toUTF8
    | .error e => return .error e.code
  makeDirectory path := change (·.makeDirectory path)
  write path text := change (·.write path text)
  out text := modify fun machine => { machine with out := machine.out ++ text }
  complain text := modify fun machine => { machine with complaints := machine.complaints ++ text }
  notJson

end Machine

end ServiceWriter.CommandLine
