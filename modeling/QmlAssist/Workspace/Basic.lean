import QmlAssist.Completion.Basic
import QmlAssist.Reference.Hover

/-!
# The workspace

The workspace is the set of documents that an editor has open, each with its
analysis.  Documents are known by their addresses.

## Main Definitions

* `Workspace` — the catalog and the open documents.
* `Workspace.openDocument`, `Workspace.changeDocument`, `Workspace.closeDocument` —
  what an editor does to documents.
* `Workspace.document?` — the analysis of an open document; the laws below say what
  each operation does to it.
* `Workspace.complete`, `Workspace.hover` — answers about open documents.
-/

namespace QmlAssist

/-- The address of a document. -/
abbrev Uri := String

/-- The catalog and all open documents. -/
structure Workspace where
  catalog : Catalog
  documents : List (Uri × Analysis)
deriving DecidableEq, Repr

/-- Why a request cannot be answered. -/
inductive RequestError where
  | notOpen (uri : Uri)
deriving DecidableEq, Repr

/-- The message for the user. -/
def RequestError.message : RequestError → String
  | .notOpen uri => "document is not open: " ++ uri

namespace Workspace

/-- The workspace without open documents. -/
def start (catalog : Catalog) : Workspace := ⟨catalog, []⟩

/-- The analysis of an open document. -/
def document? (w : Workspace) (uri : Uri) : Option Analysis :=
  w.documents.lookup uri

/-- Whether a document is open. -/
def isOpen (w : Workspace) (uri : Uri) : Bool :=
  (w.document? uri).isSome

/-- All open documents but one. -/
def others (w : Workspace) (uri : Uri) : List (Uri × Analysis) :=
  w.documents.filter (·.1 != uri)

/-- Open a document with the given text, or replace the text of an open one. -/
def openDocument (w : Workspace) (uri : Uri) (text : String) : Workspace :=
  { w with documents := (uri, Analysis.ofText w.catalog text) :: w.others uri }

/-- Change a document by a list of new texts, of which the last one stands.  A
document that was not open is opened. -/
def changeDocument (w : Workspace) (uri : Uri) (texts : List String) : Workspace :=
  match texts.getLast? with
  | some text => w.openDocument uri text
  | none => w

/-- Close a document. -/
def closeDocument (w : Workspace) (uri : Uri) : Workspace :=
  { w with documents := w.others uri }

/-- The bindings of an open document. -/
def bindings? (w : Workspace) (uri : Uri) : Option (List Binding) :=
  (w.document? uri).map (·.bindings)

/-- The names of the components in the scope of an open document. -/
def typeNames? (w : Workspace) (uri : Uri) : Option (List String) :=
  (w.document? uri).map fun a => a.scope.map (·.2.typeName)

/-- Ask about an open document. -/
def ask {α : Type} (w : Workspace) (uri : Uri) (question : Analysis → α) :
    Except RequestError α :=
  match w.document? uri with
  | some a => .ok (question a)
  | none => .error (.notOpen uri)

/-- The candidates for a completion. -/
def complete (w : Workspace) (uri : Uri) (p : Position) : Except RequestError (List Candidate) :=
  w.ask uri (·.complete p)

/-- What is shown at a position. -/
def hover (w : Workspace) (uri : Uri) (p : Position) : Except RequestError (Option Hover) :=
  w.ask uri (·.hover? p)

/-! ### Laws of the operations -/

theorem lookup_others (w : Workspace) (uri key : Uri) :
    (w.others uri).lookup key = if key = uri then none else w.documents.lookup key := by
  unfold others
  induction w.documents with
  | nil => simp
  | cons entry rest ih =>
      obtain ⟨name, a⟩ := entry
      by_cases dropped : name = uri
      · have left : ((name, a) :: rest).filter (·.1 != uri) = rest.filter (·.1 != uri) := by
          simp [dropped]
        rw [left, ih]
        by_cases same : key = uri
        · rw [if_pos same, if_pos same]
        · have different : (key == name) = false := by simpa [dropped] using same
          rw [if_neg same, if_neg same, List.lookup_cons, different]
      · have left : ((name, a) :: rest).filter (·.1 != uri) =
            (name, a) :: rest.filter (·.1 != uri) := by
          simp [dropped]
        rw [left, List.lookup_cons, List.lookup_cons, ih]
        cases same : key == name with
        | false => rfl
        | true =>
            have different : key ≠ uri := by
              rw [eq_of_beq same]
              exact dropped
            simp [different]

@[simp]
theorem document?_openDocument (w : Workspace) (uri key : Uri) (text : String) :
    (w.openDocument uri text).document? key =
      if key = uri then some (Analysis.ofText w.catalog text) else w.document? key := by
  by_cases same : key = uri
  · simp [document?, openDocument, same]
  · have different : (key == uri) = false := by simpa using same
    simp [document?, openDocument, List.lookup_cons, different, lookup_others, same]

@[simp]
theorem document?_closeDocument (w : Workspace) (uri key : Uri) :
    (w.closeDocument uri).document? key = if key = uri then none else w.document? key := by
  simp [document?, closeDocument, lookup_others]

end Workspace

end QmlAssist
