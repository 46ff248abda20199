import QmlAssist.Catalog.Basic
import QmlAssist.Catalog.Record
import QmlAssist.Files.Access
import QmlAssist.Json.Reader

/-!
# Descriptors

A descriptor is a JSON text with an array `components` of component records.  The
catalog is loaded from a list of descriptors, in order.  A text that is no
descriptor fails the whole load; a record that describes no component is passed
over.

## Main Definitions

* `Descriptor` — a named text.
* `Catalog.load` — the catalog of a list of descriptors.
* `Descriptor.ofDir` — the descriptors of a directory.
-/

namespace QmlAssist

/-- A text that describes components, with a name for messages. -/
structure Descriptor where
  name : String
  content : String
deriving DecidableEq, Repr

/-- Why a catalog cannot be loaded. -/
inductive CatalogError where
  | unreadable (path : String) (cause : FileError)
  | notJson (name : String)
  | noComponents (name : String)
deriving DecidableEq, Repr

/-- The message for the user. -/
def CatalogError.message : CatalogError → String
  | .unreadable path cause => "cannot read catalog descriptor " ++ path ++ ": " ++ cause.message
  | .notJson name => "catalog descriptor " ++ name ++ " is not valid JSON"
  | .noComponents name => "catalog descriptor " ++ name ++ " has no `components` array"

namespace Descriptor

/-- The records of a descriptor. -/
def records (d : Descriptor) : Except CatalogError (List Json) :=
  match Json.parse? d.content with
  | none => .error (.notJson d.name)
  | some json =>
      match (json.field? "components").bind Json.asArray? with
      | none => .error (.noComponents d.name)
      | some records => .ok records

end Descriptor

namespace Catalog

/-- Enter the components that records describe. -/
def insertRecords (catalog : Catalog) (records : List Json) : Catalog :=
  (records.filterMap Component.ofJson?).foldl insert catalog

/-- Enter the components of a descriptor. -/
def insertDescriptor (catalog : Catalog) (d : Descriptor) : Except CatalogError Catalog :=
  d.records.map catalog.insertRecords

/-- The catalog of a list of descriptors. -/
def load (descriptors : List Descriptor) : Except CatalogError Catalog :=
  descriptors.foldlM insertDescriptor empty

end Catalog

/-! ### Descriptor files -/

namespace Descriptor

variable {m : Type → Type} [Monad m]

/-- The last component of a path, which names the descriptor. -/
def fileName (path : String) : String :=
  let names := (Text.pieces '/' path.toList).filter fun piece => piece ≠ [] ∧ piece ≠ ['.']
  match names.getLast? with
  | some name => String.ofList name
  | none => path

/-- Read a descriptor file. -/
def ofFile (files : FileAccess m) (path : String) : m (Except CatalogError Descriptor) := do
  match ← files.readText path with
  | .ok content => pure (.ok ⟨fileName path, content⟩)
  | .error cause => pure (.error (.unreadable path cause))

/-- Whether a file name has the extension `json`: what follows its last dot, where
a dot at the very start does not count. -/
def hasJsonExtension (name : String) : Bool :=
  match name.toList.reverse with
  | 'n' :: 'o' :: 's' :: 'j' :: '.' :: _ :: _ => true
  | _ => false

/-- The names of the descriptor files among directory entries, in ascending
order. -/
def fileNames (entries : List DirEntry) : List String :=
  ((entries.filter fun e => e.isFile && hasJsonExtension e.name).map DirEntry.name).mergeSort
    (fun a b => decide (a ≤ b))

/-- Read files one after the other, up to the first that cannot be read. -/
def ofFiles (files : FileAccess m) : List String → m (Except CatalogError (List Descriptor))
  | [] => pure (.ok [])
  | path :: rest => do
      match ← ofFile files path with
      | .error e => pure (.error e)
      | .ok d => return (← ofFiles files rest).map (d :: ·)

/-- The descriptors of a directory, in ascending order of their names. -/
def ofDir (files : FileAccess m) (dir : String) : m (Except CatalogError (List Descriptor)) := do
  match ← files.list dir with
  | .error cause => pure (.error (.unreadable dir cause))
  | .ok entries => ofFiles files ((fileNames entries).map (joinPath dir))

/-- The descriptors of several directories, one directory after the other. -/
def ofDirs (files : FileAccess m) : List String → m (Except CatalogError (List Descriptor))
  | [] => pure (.ok [])
  | dir :: rest => do
      match ← ofDir files dir with
      | .error e => pure (.error e)
      | .ok found => return (← ofDirs files rest).map (found ++ ·)

end Descriptor

end QmlAssist
