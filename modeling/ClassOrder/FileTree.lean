/-
Module: ClassOrder.FileTree
Purpose: A snapshot of files and directories, read by path. A path is followed name by name, so
  every directory on the way has to exist, also where two dots lead back out of it.
Main exports: FileError, FileError.message, Files, FileTree, FileTree.insert, FileTree.read
-/
import ClassOrder.Bytes
import ClassOrder.Path

namespace ClassOrder

/-! ### Reading by path -/

/-- Why a file cannot be read. -/
inductive FileError where
  | notFound
  | notDirectory
  | isDirectory
  | nameTooLong
  | permissionDenied
deriving Repr, DecidableEq

/-- The words for a failed read. -/
def FileError.message : FileError → String
  | notFound => "No such file or directory"
  | notDirectory => "Not a directory"
  | isDirectory => "Is a directory"
  | nameTooLong => "File name too long"
  | permissionDenied => "Permission denied"

/-- What can be read, by path. -/
abbrev Files := String → Except FileError Bytes

/-! ### Trees -/

/-- A place in a tree: the names on the way from the root. -/
abbrev Place := List String

/-- What stands at a place. -/
inductive Node where
  | directory
  | file (text : Bytes)
deriving Repr, DecidableEq

/-- Files and directories. Paths that are not absolute start at the working directory, which is
always there. Where a place is listed twice the first node counts. -/
structure FileTree where
  workingDirectory : Place := []
  nodes : List (Place × Node) := []
deriving Repr, Inhabited, DecidableEq

namespace FileTree

/-- The most bytes that a name may have. -/
def nameLimit : Nat := 255

/-- The most bytes that a path may have. -/
def pathLimit : Nat := 4095

/-- What stands at a place, if anything does. -/
def node? (tree : FileTree) (place : Place) : Option Node :=
  if place.isPrefixOf tree.workingDirectory then some .directory else tree.nodes.lookup place

/-- Put a node at a place. -/
def set (tree : FileTree) (place : Place) (node : Node) : FileTree :=
  { tree with nodes := (place, node) :: tree.nodes }

/-- Where a path starts. -/
def start (tree : FileTree) (path : String) : Place :=
  if path.startsWith "/" then [] else tree.workingDirectory

/-- Follow one name from a place, which has to be a directory. Whether something stands at the
place that is reached does not matter yet. The root is its own parent. -/
def follow (tree : FileTree) (place : Place) (name : String) : Except FileError Place :=
  match tree.node? place with
  | none => .error .notFound
  | some (.file _) => .error .notDirectory
  | some .directory =>
      if Path.staysInPlace name then .ok place
      else if name = ".." then .ok place.dropLast
      else if nameLimit < name.utf8ByteSize then .error .nameTooLong
      else .ok (place ++ [name])

/-- Follow names in order. -/
def followAll (tree : FileTree) (place : Place) : List String → Except FileError Place
  | [] => .ok place
  | name :: rest => do tree.followAll (← tree.follow place name) rest

/-- The place that a path leads to. The empty path leads nowhere. -/
def resolve (tree : FileTree) (path : String) : Except FileError Place :=
  let path := Path.effective path
  if path.isEmpty then .error .notFound
  else if pathLimit < path.utf8ByteSize then .error .nameTooLong
  else tree.followAll (tree.start path) (Path.names path)

/-- Read the file at a path. -/
def read (tree : FileTree) : Files := fun path => do
  match tree.node? (← tree.resolve path) with
  | none => throw .notFound
  | some .directory => throw .isDirectory
  | some (.file text) => return text

/-! ### Writing -/

/-- Make the directories that names lead through, as far as no file is in the way. -/
def makeDirectories (tree : FileTree) (place : Place) : List String → FileTree
  | [] => tree
  | name :: rest =>
      match tree.follow place name with
      | .error _ => tree
      | .ok next =>
          match tree.node? next with
          | some _ => tree.makeDirectories next rest
          | none => (tree.set next .directory).makeDirectories next rest

/-- Whether a path ends with the name of a file, rather than with a slash or dots. -/
def namesFile (path : String) : Bool :=
  match (Path.names path).getLast? with
  | none => false
  | some name => !Path.staysInPlace name && name != ".."

/-- Put a text at a path, in place of what was there. The directories on the way are made first.
Nothing is written where no file can be. -/
def insert (tree : FileTree) (path : String) (text : Bytes) : FileTree :=
  let directory := Path.effective (Path.parent path)
  let tree := tree.makeDirectories (tree.start directory) (Path.names directory)
  match tree.resolve path with
  | .error _ => tree
  | .ok place =>
      if tree.node? place = some .directory || !namesFile (Path.effective path) then tree
      else tree.set place (.file text)

end FileTree

end ClassOrder
