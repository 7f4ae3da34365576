-- SUMMARY: Trees of files: finding a path, reading and writing a file, and dictionaries read from files.
import Radius.Dictionary.Resource
import Radius.Storage.Path

/-!
# Trees of files

A snapshot of a file system: files and directories under one root, and the directory
that relative paths start from. A path is followed name by name, through directories
only, and the first name that cannot be followed is the error.
-/

namespace Radius

inductive FileNode where
  | file (contents : Bytes)
  | directory
deriving DecidableEq, Repr

/-- The names that lead to a file or directory from the root. -/
abbrev Place := List String

structure FileTree where
  nodes : Table Place FileNode
  /-- Where relative paths start. -/
  workingDirectory : Place
deriving DecidableEq, Repr

namespace FileTree

/-- What stands at a place; the root is a directory. -/
def node? (tree : FileTree) (place : Place) : Option FileNode :=
  if place = [] then some .directory else tree.nodes.find? place

/-! ## Building -/

/-- Every place on the way to a place, and the place itself. -/
def wayTo : Place → List Place
  | []           => [[]]
  | name :: rest => [] :: (wayTo rest).map (name :: ·)

/-- Make a place, and every place on the way to it, a directory. -/
def addDirectory (tree : FileTree) (place : Place) : FileTree :=
  { tree with
    nodes := (wayTo place).foldl (fun nodes place =>
      if place = [] then nodes else nodes.insert place .directory) tree.nodes }

/-- Put a file at a place whose way is made of directories. -/
def addFile (tree : FileTree) (place : Place) (contents : Bytes) : FileTree :=
  let tree := tree.addDirectory place.dropLast
  { tree with nodes := tree.nodes.insert place (.file contents) }

/-- A tree with nothing but its working directory. -/
def new (workingDirectory : Place) : FileTree :=
  (FileTree.mk Table.empty workingDirectory).addDirectory workingDirectory

/-! ## Following a path -/

/-- The most octets a name may have. -/
def maxNameLength : Nat := 255

/-- The most octets a path may have. -/
def maxPathLength : Nat := 4095

/-- Follow names from a place where this node stands. -/
def follow (tree : FileTree) : Place → FileNode → List String → Except StorageError (Place × FileNode)
  | place, node, [] => .ok (place, node)
  | place, node, name :: later =>
      if node ≠ .directory then .error .notDirectory
      else if name = "" ∨ name = "." then follow tree place node later
      else if name = ".." then follow tree place.dropLast .directory later
      else if maxNameLength < (Utf8.encode name).length then .error .nameTooLong
      else
        match tree.node? (place ++ [name]) with
        | none      => .error .notFound
        | some node => follow tree (place ++ [name]) node later

/-- Where a path starts. -/
def start (tree : FileTree) (path : String) : Place :=
  if Path.isAbsolute path then [] else tree.workingDirectory

/-- The names of a path. -/
def names (path : String) : List String := (segments path.toList).map String.ofList

/-- The place that a path leads to if all its names are directories. -/
def placeOf (tree : FileTree) (path : String) : Place :=
  (names path).foldl (fun place name =>
    if name = "" ∨ name = "." then place
    else if name = ".." then place.dropLast
    else place ++ [name]) (tree.start path)

/-- What the system refuses before it follows a path. -/
def refuse (path : String) : Except StorageError Unit :=
  if path.toList.contains '\x00' then .error .nulInPath
  else if path = "" then .error .notFound
  else if maxPathLength < (Utf8.encode path).length then .error .nameTooLong
  else .ok ()

/-- What stands at the end of a path, and where. -/
def find (tree : FileTree) (path : String) : Except StorageError (Place × FileNode) := do
  refuse path
  follow tree (tree.start path) .directory (names path)

/-! ## Files -/

def pathExists (tree : FileTree) (path : String) : Bool := (tree.find path).toBool

def read (tree : FileTree) (path : String) : Except StorageError Bytes :=
  match tree.find path with
  | .ok (_, .file contents) => .ok contents
  | .ok (_, .directory)     => .error .isDirectory
  | .error fault            => .error fault

/-- The text of a file of UTF-8. -/
def readText (tree : FileTree) (path : String) : Except StorageError String :=
  match tree.read path with
  | .error fault => .error fault
  | .ok bytes =>
      match Utf8.decode bytes with
      | .ok text => .ok text
      | .error _ => .error .notText

/-- Create a file at a path that leads nowhere, in a directory that exists. With a slash at its end
a path can only mean a directory. -/
def create (tree : FileTree) (path : String) (contents : Bytes) : Except StorageError FileTree := do
  refuse path
  let names := ((names path).reverse.dropWhile (· = "")).reverse
  let (place, node) ← follow tree (tree.start path) .directory names.dropLast
  let name := names.getLastD ""
  if node ≠ .directory then .error .notDirectory
  else if path.toList.getLast? = some '/' then .error .isDirectory
  else .ok { tree with nodes := tree.nodes.insert (place ++ [name]) (.file contents) }

/-- Give a file new contents, and create it if its directory exists. -/
def write (tree : FileTree) (path : String) (contents : Bytes) : Except StorageError FileTree :=
  match tree.find path with
  | .ok (place, .file _) => .ok { tree with nodes := tree.nodes.insert place (.file contents) }
  | .ok (_, .directory)  => .error .isDirectory
  | .error .notFound     => tree.create path contents
  | .error fault         => .error fault

/-! ## Dictionaries -/

/-- Dictionary resources that are files; an include is relative to the directory of the file that
holds it. -/
def source (tree : FileTree) : Source where
  resolve current next :=
    let path :=
      match Path.parent? current with
      | some directory => Path.join directory next
      | none           => next
    if tree.pathExists path then some path else none
  read := tree.read

end FileTree
end Radius
