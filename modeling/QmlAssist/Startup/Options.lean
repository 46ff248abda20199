import QmlAssist.Text.Pieces

/-!
# Command-line options

## Main Definitions

* `Options` — what the command line sets.
* `CommandLine.parse` — the meaning of the arguments.
-/

namespace QmlAssist

/-- What the command line sets. -/
structure Options where
  settingsFile : Option String
  catalogDirs : List String
  noBundled : Bool
  logFilter : Option String
deriving DecidableEq, Repr

/-- What the arguments ask for. -/
inductive CommandLine where
  | run (options : Options)
  | showVersion
  | showHelp
  | usageError
deriving DecidableEq, Repr

namespace Options

/-- No options. -/
def unset : Options := ⟨none, [], false, none⟩

/-- Set an option that takes a value.  Paths are not empty, and only directories
may be given more than once. -/
def setValue? (options : Options) (name value : String) : Option Options :=
  match name with
  | "--config" =>
      if options.settingsFile.isSome ∨ value = "" then none
      else some { options with settingsFile := some value }
  | "--catalog-dir" =>
      if value = "" then none
      else some { options with catalogDirs := options.catalogDirs ++ [value] }
  | "--log-filter" =>
      if options.logFilter.isSome then none else some { options with logFilter := some value }
  | _ => none

/-- The options that take a value. -/
def takesValue (name : String) : Bool :=
  ["--config", "--catalog-dir", "--log-filter"].contains name

end Options

namespace CommandLine

/-- Whether an argument may be the value of the option before it. -/
def mayBeValue (arg : String) : Bool :=
  arg.toList.head? ≠ some '-' || arg = "-"

/-- The name and the value of an argument such as `--name=value`.  An equals sign
counts only after two dashes. -/
def assignment (arg : String) : String × Option String :=
  match arg.toList with
  | '-' :: '-' :: _ =>
      match Text.cut '=' arg.toList with
      | some (name, value) => (String.ofList name, some (String.ofList value))
      | none => (arg, none)
  | _ => (arg, none)

/-- The meaning of an argument that stands for itself.  After one dash, the first
letter decides. -/
def single (options : Options) (arg : String) : CommandLine :=
  match arg.toList with
  | '-' :: 'V' :: _ => .showVersion
  | '-' :: 'h' :: _ => .showHelp
  | _ =>
      if arg = "--version" then .showVersion
      else if arg = "--help" then .showHelp
      else if arg = "--no-bundled" ∧ options.noBundled = false then
        .run { options with noBundled := true }
      else .usageError

/-- The meaning of arguments after others, which have set some options. -/
def parseAfter (options : Options) : List String → CommandLine
  | [] => .run options
  | arg :: rest =>
      if arg = "--" then if rest = [] then .run options else .usageError
      else
        match assignment arg with
        | (name, some value) =>
            match options.setValue? name value with
            | some options => parseAfter options rest
            | none => .usageError
        | (name, none) =>
            if Options.takesValue name then
              match rest with
              | [] => .usageError
              | value :: rest =>
                  if mayBeValue value then
                    match options.setValue? name value with
                    | some options => parseAfter options rest
                    | none => .usageError
                  else .usageError
            else
              match single options arg with
              | .run options => parseAfter options rest
              | other => other

/-- The meaning of the arguments. -/
def parse (args : List String) : CommandLine :=
  parseAfter Options.unset args

end CommandLine

end QmlAssist
