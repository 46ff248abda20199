import QmlAssist.Analysis.Declaration
import QmlAssist.Analysis.Import
import QmlAssist.Catalog.Basic
import QmlAssist.Completion.Candidate
import QmlAssist.Document.Word

/-!
# Analysis of a document

Analysis finds out which modules a document imports, which components this brings
into scope, and which type each declared id belongs to.  It works on text that is
being typed and need not be well formed.

## Main Definitions

* `Analysis` — the findings about one text.
* `Analysis.resolveImports`, `Analysis.resolveIds` — the two passes.
* `Analysis.ofText` — both passes, from nothing.
* `Analysis.enclosingType?` — the type of the block around a cursor.
-/

namespace QmlAssist

/-- A declared id with the type of the block that it names. -/
structure Binding where
  id : String
  type : String
deriving DecidableEq, Repr

/-- What is known about one text. -/
structure Analysis where
  catalog : Catalog
  text : String
  /-- The imported modules in order of import. -/
  modules : List Module
  /-- The members of the imported modules, module after module; a component that
  is imported twice appears twice. -/
  components : List ComponentId
  /-- The candidates that are offered anywhere in the document. -/
  candidates : List Candidate
  bindings : List Binding
deriving DecidableEq, Repr

/-- Whether an import brings a module into scope: by its name and a sufficient
version, or because `QtQuick` comes with `QtQml` in any version. -/
def Import.bringsIn (i : Import) (m : Module) : Bool :=
  (m.name == i.path && m.serves i.clause) || (i.path == "QtQuick" && m.name == "QtQml")

/-- The modules that imports bring into scope, import after import. -/
def Catalog.imported (catalog : Catalog) (imports : List Import) : List Module :=
  imports.flatMap fun i => catalog.modules.filter i.bringsIn

/-- The candidate that shows a binding. -/
def Binding.candidate (b : Binding) : Candidate :=
  ⟨b.id, .identifier, some ("Type of: " ++ b.type)⟩

namespace Analysis

/-- The keywords that every document is offered. -/
def keywords : List String :=
  ["import", "property", "signal", "id: ", "states: "]

/-- The primitive types that every document is offered. -/
def builtinTypes : List String :=
  ["bool", "double", "enumeration", "int", "list", "real", "string", "url", "var"]

/-- The components in scope, with their numbers. -/
def scope (a : Analysis) : List (ComponentId × Component) :=
  a.components.filterMap fun id => (a.catalog.component? id).map (id, ·)

/-- The components in scope that markup knows under a name. -/
def named (a : Analysis) (name : String) : List (ComponentId × Component) :=
  a.scope.filter (·.2.typeName == name)

/-- Whether a name is the name of a component in scope. -/
def isTypeName (a : Analysis) (name : String) : Bool :=
  a.scope.any (·.2.typeName == name)

/-- The type of the block around a cursor: the innermost enclosing word that names
a component in scope. -/
def enclosingType? (a : Analysis) (c : Cursor) : Option String :=
  c.enclosingWords.find? a.isTypeName

/-- The first binding of an id. -/
def binding? (a : Analysis) (id : String) : Option Binding :=
  a.bindings.find? (·.id == id)

/-- The candidates for the types in scope, each name once. -/
def typeCandidates (a : Analysis) : List Candidate :=
  (a.scope.map (·.2.typeName)).eraseDups.map fun name => ⟨name, .componentType, none⟩

/-- The candidates that every document is offered. -/
def fixedCandidates : List Candidate :=
  keywords.map (⟨·, .keyword, none⟩) ++ builtinTypes.map (⟨·, .builtinType, none⟩)

/-- Find the imports anew.  Bindings depend on them and are forgotten. -/
def resolveImports (a : Analysis) : Analysis :=
  let modules := a.catalog.imported (Import.all a.text)
  let inScope : Analysis :=
    { a with
      modules := modules
      components := modules.flatMap (·.components)
      candidates := []
      bindings := [] }
  { inScope with candidates := inScope.typeCandidates ++ fixedCandidates }

/-- The bindings of the declarations whose enclosing type is known. -/
def findBindings (a : Analysis) : List Binding :=
  let document := Document.ofText a.text
  (Declaration.all a.text).filterMap fun d =>
    (a.enclosingType? (document.cursor d.start)).map (⟨d.id, ·⟩)

/-- Find the bindings anew, and offer them after all other candidates. -/
def resolveIds (a : Analysis) : Analysis :=
  let bindings := a.findBindings
  { a with
    candidates :=
      a.candidates.filter (·.kind ≠ .identifier) ++ bindings.map Binding.candidate
    bindings := bindings }

/-- Analyse another text. -/
def update (a : Analysis) (text : String) : Analysis :=
  { a with text := text }.resolveImports.resolveIds

/-- The analysis of a text. -/
def ofText (catalog : Catalog) (text : String) : Analysis :=
  (⟨catalog, text, [], [], [], []⟩ : Analysis).resolveImports.resolveIds

end Analysis

end QmlAssist
