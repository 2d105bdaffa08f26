import CqlSchema.Host
/-!
# File trees

A file tree is a list of directories and files, each with its path from the root. A written path
is walked from the current directory: every name but the last has to lead to a directory. Every
operation of `Files` is a function on trees.
-/

namespace CqlSchema

/-- Names that lead from the root to a place. -/
abbrev Path := List String

namespace FileTree

/-- Things in a file tree. A sink accepts every content and is always empty. -/
inductive Entry where
  | directory
  | file (content : ByteArray) (isProgram : Bool)
  | sink

end FileTree

/-- Directories and files with their paths. -/
structure FileTree where
  entries : List (Path × FileTree.Entry)

namespace FileTree

/-- Longest name of a file. -/
def maxName : Nat := 255

/-- Longest path, and one more. -/
def maxPath : Nat := 4096

/-- Tree with nothing but the root. -/
def empty : FileTree := ⟨[([], .directory)]⟩

/-- What is at a place. -/
def get? (tree : FileTree) (path : Path) : Option Entry :=
  tree.entries.lookup path

/-- Puts something at a place. -/
def put (tree : FileTree) (path : Path) (entry : Entry) : FileTree :=
  ⟨(path, entry) :: tree.entries.filter (·.1 != path)⟩

/-- Takes away what is at a place. -/
def erase (tree : FileTree) (path : Path) : FileTree :=
  ⟨tree.entries.filter (·.1 != path)⟩

/-- Follows one name from a directory. -/
def enter (tree : FileTree) (place : Path) (name : String) : Except Host.Fault Path :=
  match tree.get? place with
  | none => .error .missing
  | some .directory =>
    if maxName < name.utf8ByteSize then .error .nameTooLong
    else if name = "" ∨ name = "." then .ok place
    else if name = ".." then .ok place.dropLast
    else .ok (place ++ [name])
  | some _ => .error .notDirectory

/-- Place that a written path leads to; there need not be anything. -/
def locate (tree : FileTree) (current : Path) (path : String) : Except Host.Fault Path :=
  if path.contains '\x00' then .error .zeroInPath
  else if path.isEmpty then .error .missing
  else if maxPath ≤ path.utf8ByteSize then .error .nameTooLong
  else (path.splitOn "/").foldlM tree.enter (if path.startsWith "/" then [] else current)

/-- What a written path leads to. -/
def find (tree : FileTree) (current : Path) (path : String) : Except Host.Fault Entry := do
  match tree.get? (← tree.locate current path) with
  | some entry => .ok entry
  | none => .error .missing

/-- Content of a file. -/
def read (tree : FileTree) (current : Path) (path : String) : Except Host.Fault ByteArray := do
  match ← tree.find current path with
  | .file content _ => .ok content
  | .sink => .ok ByteArray.empty
  | .directory => .error .isDirectory

/-- Place of a file that is to be written. A path that ends in a slash names a directory. -/
def locateFile (tree : FileTree) (current : Path) (path : String) : Except Host.Fault Path :=
  match tree.locate current path with
  | .ok place => .ok place
  | .error fault =>
    let isNamedDirectory := fault = .missing ∧ path.endsWith "/" ∧
      (tree.locate current (path.dropEndWhile '/').toString).toOption.isSome
    .error (if isNamedDirectory then .isDirectory else fault)

/-- Changes the content of a file, which is created if there is none. -/
def modify (tree : FileTree) (current : Path) (path : String)
    (change : ByteArray → ByteArray) : Except Host.Fault FileTree := do
  let place ← tree.locateFile current path
  match tree.get? place with
  | none => .ok (tree.put place (.file (change ByteArray.empty) false))
  | some (.file content isProgram) => .ok (tree.put place (.file (change content) isProgram))
  | some .sink => .ok tree
  | some .directory => .error .isDirectory

/-- Creates a directory in a directory. -/
def createDirectory (tree : FileTree) (current : Path) (path : String) :
    Except Host.Fault FileTree := do
  let place ← tree.locate current path
  match tree.get? place with
  | none => .ok (tree.put place .directory)
  | some _ => .error .alreadyPresent

/-- Decides whether a path leads to a directory. -/
def isDirectory (tree : FileTree) (current : Path) (path : String) : Bool :=
  match tree.find current path with
  | .ok .directory => true
  | _ => false

/-- Creates the directories on a path, one after the other. -/
def createDirectories (tree : FileTree) (current : Path) (path : String) :
    Except Host.Fault FileTree :=
  let names := path.splitOn "/"
  let steps := (List.range names.length).map fun count => "/".intercalate (names.take (count + 1))
  (steps.filter (· ≠ "")).foldlM
    (fun tree step =>
      if tree.isDirectory current step then .ok tree else tree.createDirectory current step) tree

/-- Removes a file. -/
def remove (tree : FileTree) (current : Path) (path : String) : Except Host.Fault FileTree := do
  let place ← tree.locate current path
  match tree.get? place with
  | none => .error .missing
  | some .directory => .error .isDirectory
  | some _ => .ok (tree.erase place)

/-- Content of a file that may be started. -/
def program (tree : FileTree) (current : Path) (path : String) : Except Host.Fault ByteArray := do
  match ← tree.find current path with
  | .file content true => .ok content
  | _ => .error .denied

/-- Decides whether a path leads to something. -/
def isPresent (tree : FileTree) (current : Path) (path : String) : Bool :=
  (tree.find current path).toOption.isSome

/-- Decides whether a path leads to a file. -/
def isFile (tree : FileTree) (current : Path) (path : String) : Bool :=
  match tree.find current path with
  | .ok (.file _ _) => true
  | _ => false

/-- Puts a file at a place, together with the directories that it is in. -/
def plant (tree : FileTree) (path : Path) (content : ByteArray) (isProgram : Bool) : FileTree :=
  let parents := (List.range path.length).map path.take
  (parents.foldl (fun tree parent => tree.put parent .directory) tree).put path
    (.file content isProgram)

/-- Runs a change of the tree as an operation; a refused change changes nothing. -/
def applyChange (change : FileTree → Except Host.Fault FileTree) :
    StateM FileTree (Except Host.Fault Unit) := fun tree =>
  match change tree with
  | .ok changed => (.ok (), changed)
  | .error fault => (.error fault, tree)

/-- Files of a tree, with paths from the given directory. -/
def files (current : Path) : Files (StateM FileTree) where
  read path := fun tree => (tree.read current path, tree)
  write path content := applyChange fun tree => tree.modify current path fun _ => content
  append path content := applyChange fun tree => tree.modify current path (· ++ content)
  createDirectories path := applyChange fun tree => tree.createDirectories current path
  remove path := applyChange fun tree => tree.remove current path
  isPresent path := fun tree => (tree.isPresent current path, tree)
  isFile path := fun tree => (tree.isFile current path, tree)
  program path := fun tree => (tree.program current path, tree)

end FileTree

end CqlSchema
