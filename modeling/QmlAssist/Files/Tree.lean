import QmlAssist.Files.Access
import QmlAssist.Text.Pieces

/-!
# Described file systems

A file tree is a file system given as a value.  Paths are followed from its root,
and the way in which they fail is that of a real file system.

## Main Definitions

* `FileTree` — files and directories.
* `FileTree.follow` — the node at a path.
* `FileTree.access` — the operations on files, for code that reads files.
-/

namespace QmlAssist

/-- A file with its bytes, or a directory with its entries. -/
inductive FileTree where
  | file (bytes : ByteArray)
  | directory (entries : List (String × FileTree))

namespace FileTree

/-- Whether a node is a regular file. -/
def isFileNode : FileTree → Bool
  | .file _ => true
  | .directory _ => false

/-- The parts of a path.  Repeated slashes count once, a dot stands for the same
directory, and a slash at the end asks for a directory as a dot does. -/
def parts (path : String) : List String :=
  let pieces := (Text.pieces '/' path.toList).map String.ofList
  let names := pieces.filter (· ≠ "")
  if pieces.getLast? = some "" then names ++ ["."] else names

/-- Follow a path from a node, whose parent directories are given nearest first. -/
def follow (parents : List FileTree) (node : FileTree) :
    List String → Except FileError FileTree
  | [] => .ok node
  | name :: rest =>
      match node with
      | .file _ => .error .notADirectory
      | .directory entries =>
          if name = "." then follow parents node rest
          else if name = ".." then
            match parents with
            | [] => follow [] node rest
            | parent :: parents => follow parents parent rest
          else
            match entries.lookup name with
            | some child => follow (node :: parents) child rest
            | none => .error .notFound

/-- The node at a path. -/
def get (root : FileTree) (path : String) : Except FileError FileTree :=
  if path = "" then .error .notFound else follow [] root (parts path)

/-- The text of a file. -/
def readText (root : FileTree) (path : String) : Except FileError String := do
  match ← root.get path with
  | .directory _ => .error .isADirectory
  | .file bytes =>
      match String.fromUTF8? bytes with
      | some text => .ok text
      | none => .error .notUtf8

/-- The entries of a directory. -/
def list (root : FileTree) (path : String) : Except FileError (List DirEntry) := do
  match ← root.get path with
  | .file _ => .error .notADirectory
  | .directory entries => .ok (entries.map fun (name, node) => ⟨name, node.isFileNode⟩)

/-- Whether there is a regular file at a path. -/
def isFile (root : FileTree) (path : String) : Bool :=
  match root.get path with
  | .ok node => node.isFileNode
  | .error _ => false

/-- The operations on files. -/
def access (root : FileTree) : FileAccess Id where
  readText path := root.readText path
  list path := root.list path
  isFile path := root.isFile path

/-- The directory without entries. -/
def empty : FileTree := .directory []

/-- Put an entry into a list of entries, in place of one of the same name. -/
def putEntry (name : String) (node : FileTree) :
    List (String × FileTree) → List (String × FileTree)
  | [] => [(name, node)]
  | (k, v) :: rest => if k = name then (name, node) :: rest else (k, v) :: putEntry name node rest

/-- Put a node at a path, together with the directories that lead there.  A
directory that is there already is kept. -/
def put (root : FileTree) (node : FileTree) : List String → FileTree
  | [] =>
      match root, node with
      | .directory entries, .directory [] => .directory entries
      | _, _ => node
  | name :: rest =>
      let entries :=
        match root with
        | .directory entries => entries
        | .file _ => []
      .directory (putEntry name (put ((entries.lookup name).getD empty) node rest) entries)

end FileTree

end QmlAssist
