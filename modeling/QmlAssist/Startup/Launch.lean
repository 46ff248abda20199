import QmlAssist.Settings.Basic
import QmlAssist.Startup.LogFilter
import QmlAssist.Startup.Options

/-!
# Launch

How the program starts: from the command line to the settings, and from there to
the catalog.

## Main Definitions

* `Launch` — how a start ends.
* `Launch.run` — the start of the program.
-/

namespace QmlAssist

/-- How a start ends. -/
inductive Launch where
  | showVersion
  | showHelp
  | usageError
  /-- The settings cannot be loaded; the user is told. -/
  | badSettings (error : SettingsError)
  /-- A log filter cannot be cut into its parts; the program stops at once. -/
  | aborted
  /-- The catalog cannot be loaded; this is logged if the filter allows it. -/
  | badCatalog (error : CatalogError) (logged : Bool)
  /-- The server can run; this is logged if the filter allows it. -/
  | started (catalog : Catalog) (logged : Bool)

/-- Options win over settings, and directories add up. -/
def Settings.apply (settings : Settings) (options : Options) : Settings where
  catalogDirs := settings.catalogDirs ++ options.catalogDirs
  bundledCatalog := settings.bundledCatalog && !options.noBundled
  logFilter := options.logFilter.getD settings.logFilter

/-- The filter that applies: that of the environment, or else that of the settings,
or else the default. -/
def Settings.activeFilter? (env : Environment) (settings : Settings) : Option LogFilter :=
  LogFilter.choose? (env.logFilter.toList ++ [settings.logFilter, defaultLogFilter])

namespace Launch

/-- The name under which the program logs, and by which it is called. -/
def programName : String := "qmlantom_lsp"

/-- What the program says about its version. -/
def versionText : String := programName ++ " 0.3.0\n"

/-- The log line of a successful start. -/
def startLine (catalog : Catalog) : String :=
  "starting qmlantom modules=" ++ toString catalog.modules.length ++
    " components=" ++ toString catalog.components.length

/-- What a log filter sees of the log line of a successful start. -/
def startLogLine : LogLine := ⟨programName, .info, ["message", "modules", "components"]⟩

/-- What a log filter sees of the log line about a catalog that cannot be loaded. -/
def failureLogLine : LogLine := ⟨programName, .error, ["message"]⟩

variable {m : Type → Type} [Monad m]

/-- Load the catalog under settings that are complete. -/
def loadCatalog (files : FileAccess m) (env : Settings.Environment) (settings : Settings) :
    m Launch := do
  match settings.activeFilter? env with
  | none => pure .aborted
  | some filter =>
      match (← settings.descriptors files).bind Catalog.load with
      | .error e => pure (.badCatalog e (filter.allows failureLogLine))
      | .ok catalog => pure (.started catalog (filter.allows startLogLine))

/-- Start the program. -/
def run (files : FileAccess m) (env : Settings.Environment) (args : List String) : m Launch := do
  match CommandLine.parse args with
  | .showVersion => pure .showVersion
  | .showHelp => pure .showHelp
  | .usageError => pure .usageError
  | .run options =>
      match ← Settings.discover files env options.settingsFile with
      | .error e => pure (.badSettings e)
      | .ok settings => loadCatalog files env (settings.apply options)

/-- The exit code of a start; a server that could start ends well. -/
def exitCode : Launch → Nat
  | .showVersion => 0
  | .showHelp => 0
  | .usageError => 2
  | .badSettings _ => 1
  | .aborted => 101
  | .badCatalog _ _ => 1
  | .started _ _ => 0

end Launch

end QmlAssist
