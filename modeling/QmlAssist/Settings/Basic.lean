import QmlAssist.Catalog.Bundled
import QmlAssist.Settings.Token

/-!
# Settings

Settings say where descriptors are found and what is logged.  They are read from a
TOML file with three optional keys:

* `catalog_dirs` — directories of descriptor files,
* `bundled_catalog` — whether the bundled descriptors are loaded,
* `log_filter` — what is logged.

Any other key, a repeated key, or a value of the wrong kind makes the file
invalid.

## Main Definitions

* `Settings` — the settings, with their defaults.
* `Settings.ofText?` — the settings that a text describes.
* `Settings.discover` — the settings from the file that applies.
* `Settings.descriptors` — all descriptors to load.
-/

namespace QmlAssist

/-- The settings. -/
structure Settings where
  catalogDirs : List String
  bundledCatalog : Bool
  logFilter : String
deriving DecidableEq, Repr

/-- Why settings cannot be loaded. -/
inductive SettingsError where
  | unreadable (path : String) (cause : FileError)
  | invalid (path : String)
deriving DecidableEq, Repr

/-- The message for the user. -/
def SettingsError.message : SettingsError → String
  | .unreadable path cause => "cannot read config file " ++ path ++ ": " ++ cause.message
  | .invalid path => "invalid config file " ++ path

namespace Settings

/-- What is logged unless told otherwise. -/
def defaultLogFilter : String := "qmlantom_lsp=info"

/-- The settings without a settings file. -/
def default : Settings := ⟨[], true, defaultLogFilter⟩

/-! ### Reading -/

/-- The value of a key. -/
inductive Value where
  | flag (value : Bool)
  | text (value : String)
  | texts (items : List String)
deriving DecidableEq, Repr

/-- What the reader has read of a line. -/
inductive LineState where
  | empty
  | key (key : String)
  | equals (key : String)
  /-- In an array, where an item or the end may come; items are kept latest
  first. -/
  | item (key : String) (items : List String)
  /-- In an array after an item. -/
  | afterItem (key : String) (items : List String)
  | complete
deriving DecidableEq, Repr

/-- The fields read so far, latest first, and the line being read. -/
structure Reader where
  fields : List (String × Value)
  line : LineState
deriving DecidableEq, Repr

/-- Take one token. -/
def Reader.step (reader : Reader) (token : Token) : Option Reader :=
  match reader.line, token with
  | .empty, .lineEnd => some reader
  | .empty, .bare key => some { reader with line := .key key }
  | .empty, .string false key => some { reader with line := .key key }
  | .key key, .equals => some { reader with line := .equals key }
  | .equals key, .bare "true" => some ⟨(key, .flag true) :: reader.fields, .complete⟩
  | .equals key, .bare "false" => some ⟨(key, .flag false) :: reader.fields, .complete⟩
  | .equals key, .string _ value => some ⟨(key, .text value) :: reader.fields, .complete⟩
  | .equals key, .openBracket => some { reader with line := .item key [] }
  | .item _ _, .lineEnd => some reader
  | .item key items, .string _ value =>
      some { reader with line := .afterItem key (value :: items) }
  | .item key items, .closeBracket =>
      some ⟨(key, .texts items.reverse) :: reader.fields, .complete⟩
  | .afterItem _ _, .lineEnd => some reader
  | .afterItem key items, .comma => some { reader with line := .item key items }
  | .afterItem key items, .closeBracket =>
      some ⟨(key, .texts items.reverse) :: reader.fields, .complete⟩
  | .complete, .lineEnd => some { reader with line := .empty }
  | _, _ => none

/-- The fields that a text consists of, in order. -/
def fields? (text : String) : Option (List (String × Value)) := do
  let tokens ← Token.scan? text
  let reader ← tokens.foldlM Reader.step ⟨[], .empty⟩
  match reader.line with
  | .empty => some reader.fields.reverse
  | .complete => some reader.fields.reverse
  | _ => none

/-- Set one field, if key and value fit. -/
def set? (settings : Settings) : String × Value → Option Settings
  | ("catalog_dirs", .texts dirs) => some { settings with catalogDirs := dirs }
  | ("bundled_catalog", .flag value) => some { settings with bundledCatalog := value }
  | ("log_filter", .text filter) => some { settings with logFilter := filter }
  | _ => none

/-- The settings that a text describes. -/
def ofText? (text : String) : Option Settings := do
  let fields ← fields? text
  if (fields.map Prod.fst).Nodup then fields.foldlM set? default else none

/-- The settings that a text describes, where the path is named in errors. -/
def ofText (path text : String) : Except SettingsError Settings :=
  match ofText? text with
  | some settings => .ok settings
  | none => .error (.invalid path)

/-! ### Settings files -/

/-- What the environment says about a user. -/
structure Environment where
  home : Option String
  configHome : Option String
  logFilter : Option String
deriving DecidableEq, Repr

/-- The path of the user's settings file.  A relative configuration directory does
not count. -/
def defaultPath? (env : Environment) : Option String := do
  let home ← env.home
  let dir :=
    match env.configHome with
    | some dir => if dir.toList.head? = some '/' then dir else joinPath home ".config"
    | none => joinPath home ".config"
  some (joinPath (joinPath dir "qmlantom") "config.toml")

variable {m : Type → Type} [Monad m]

/-- Load a settings file. -/
def loadFile (files : FileAccess m) (path : String) : m (Except SettingsError Settings) := do
  match ← files.readText path with
  | .error cause => pure (.error (.unreadable path cause))
  | .ok text => pure (ofText path text)

/-- Load the given settings file, or else the user's, or else take the defaults. -/
def discover (files : FileAccess m) (env : Environment) :
    Option String → m (Except SettingsError Settings)
  | some path => loadFile files path
  | none => do
      match defaultPath? env with
      | none => pure (.ok default)
      | some path =>
          if ← files.isFile path then loadFile files path else pure (.ok default)

/-- All descriptors to load: the bundled ones if wanted, then those of each
directory. -/
def descriptors (files : FileAccess m) (settings : Settings) :
    m (Except CatalogError (List Descriptor)) := do
  let bundled := if settings.bundledCatalog then Descriptor.bundled else []
  return (← Descriptor.ofDirs files settings.catalogDirs).map (bundled ++ ·)

end Settings

end QmlAssist
