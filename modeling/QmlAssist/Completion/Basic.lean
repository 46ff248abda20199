import QmlAssist.Analysis.Basic
import QmlAssist.Completion.Context
import QmlAssist.Completion.Members

/-!
# Completion

A completion offers module names after `import`, members after a dot, and
elsewhere the members of the enclosing block followed by everything the document
can name.
-/

namespace QmlAssist.Analysis

/-- The members of all components in scope under a name. -/
def typeMembers (a : Analysis) (type : String) : List Candidate :=
  (a.named type).foldl (fun items (_, c) => a.catalog.appendMembers items c) []

/-- The type that a word stands for: itself if it names a type, else the type of
the id that it names. -/
def typeOf? (a : Analysis) (subject : String) : Option String :=
  if a.isTypeName subject then some subject else (a.binding? subject).map (·.type)

/-- The members of what a word stands for. -/
def subjectMembers (a : Analysis) (subject : String) : List Candidate :=
  if subject = "" then []
  else
    match a.typeOf? subject with
    | some type => a.typeMembers type
    | none => []

/-- The names of all modules of the catalog. -/
def moduleCandidates (a : Analysis) : List Candidate :=
  a.catalog.modules.map fun m => ⟨m.name, .moduleName, none⟩

/-- What may stand in the block around a cursor. -/
def blockCandidates (a : Analysis) (c : Cursor) : List Candidate :=
  match a.enclosingType? c with
  | some type => a.typeMembers type ++ a.candidates
  | none => a.candidates

/-- The candidates for a completion at a position. -/
def complete (a : Analysis) (p : Position) : List Candidate :=
  let cursor := (Document.ofText a.text).cursor p
  match cursor.context with
  | .memberAccess subject => a.subjectMembers subject
  | .importPath => a.moduleCandidates
  | .general => a.blockCandidates cursor

end QmlAssist.Analysis
