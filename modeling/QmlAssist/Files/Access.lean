/-!
# Access to files

The library reads files through a small set of operations, so that the same code
runs against a real file system and against a described one.

## Main Definitions

* `FileError` — why a file or directory cannot be read, with its message.
* `DirEntry` — one entry of a directory.
* `FileAccess` — the operations.
-/

namespace QmlAssist

/-- Why a file or directory cannot be read. -/
inductive FileError where
  | notFound
  | notADirectory
  | isADirectory
  | notUtf8
  /-- Another cause, in the words of the system. -/
  | other (message : String)
deriving DecidableEq, Repr

/-- The message for the user. -/
def FileError.message : FileError → String
  | .notFound => "No such file or directory (os error 2)"
  | .notADirectory => "Not a directory (os error 20)"
  | .isADirectory => "Is a directory (os error 21)"
  | .notUtf8 => "stream did not contain valid UTF-8"
  | .other message => message

/-- An entry of a directory. -/
structure DirEntry where
  name : String
  isFile : Bool
deriving DecidableEq, Repr

/-- The operations on files that the library needs. -/
structure FileAccess (m : Type → Type) where
  /-- The text of a file. -/
  readText : String → m (Except FileError String)
  /-- The entries of a directory, in any order. -/
  list : String → m (Except FileError (List DirEntry))
  /-- Whether there is a regular file at a path. -/
  isFile : String → m Bool

/-! ### Paths -/

/-- A path below a directory. -/
def joinPath (dir name : String) : String :=
  if dir = "" || dir.toList.getLast? = some '/' then dir ++ name else dir ++ "/" ++ name

end QmlAssist
