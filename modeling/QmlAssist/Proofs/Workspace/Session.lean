import QmlAssist.Protocol.Server

/-!
# Sessions of a workspace

A session is any sequence of operations on documents.  To the outside, a workspace is
nothing but the texts of the open documents: which documents are open, and what is
answered about them, is decided by a map from addresses to texts that every operation
edits at one address.

## Main Definitions

* `Operation` — what is done with a document, or asked about it.
* `Operation.step` — its effect on a workspace, with what it gives back.
* `Operation.edit` — its effect on the texts of the open documents.
* `Workspace.Holds` — a workspace has analysed exactly the given texts.

## Main Statements

* `Operation.document?_step` — all that a step does to the documents.
* `Workspace.Holds.after` — a session keeps workspace and texts together.
* `Operation.filter_trace` — what happens to one document depends only on the operations
  on it.
-/

namespace QmlAssist

/-- What is done with a document, or asked about it. -/
inductive Operation where
  | opened (uri : Uri) (text : String)
  | changed (uri : Uri) (texts : List String)
  | closed (uri : Uri)
  /-- To close a document, and to learn whether it was open. -/
  | close (uri : Uri)
  | completion (uri : Uri) (p : Position)
  | hover (uri : Uri) (p : Position)
  | isOpen (uri : Uri)
  | bindings (uri : Uri)
  | typeNames (uri : Uri)
deriving DecidableEq, Repr

/-- What an operation gives back. -/
inductive Outcome where
  | logged (messages : List String)
  | flag (value : Bool)
  | reply (answer : Except Refusal Json)
  | bindings (found : Option (List Binding))
  | typeNames (found : Option (List String))

/-- The texts of the open documents. -/
abbrev Texts := Uri → Option String

namespace Operation

/-- The document that an operation is about. -/
def uri : Operation → Uri
  | opened uri _ => uri
  | changed uri _ => uri
  | closed uri => uri
  | close uri => uri
  | completion uri _ => uri
  | hover uri _ => uri
  | isOpen uri => uri
  | bindings uri => uri
  | typeNames uri => uri

/-- Requests only ask about a document. -/
def isRequest : Operation → Bool
  | completion _ _ => true
  | hover _ _ => true
  | isOpen _ => true
  | bindings _ => true
  | typeNames _ => true
  | _ => false

/-- The effect of an operation on a workspace, with what it gives back. -/
def step (w : Workspace) : Operation → Workspace × Outcome
  | opened uri text => (w.notify (.opened uri text)).map id .logged
  | changed uri texts => (w.notify (.changed uri texts)).map id .logged
  | closed uri => (w.notify (.closed uri)).map id .logged
  | close uri => (w.closeDocument uri, .flag (w.isOpen uri))
  | completion uri p => (w, .reply (w.answer (.completion uri p)))
  | hover uri p => (w, .reply (w.answer (.hover uri p)))
  | isOpen uri => (w, .flag (w.isOpen uri))
  | bindings uri => (w, .bindings (w.bindings? uri))
  | typeNames uri => (w, .typeNames (w.typeNames? uri))

/-- What an operation makes of its document, if it does anything: an open document with a
text, or a closed one.  The last of several texts stands. -/
def write? : Operation → Option (Option String)
  | opened _ text => some (some text)
  | changed _ texts => texts.getLast?.map some
  | closed _ => some none
  | close _ => some none
  | _ => none

/-- The effect of an operation on the texts of the open documents. -/
def edit (texts : Texts) (operation : Operation) : Texts := fun key =>
  if key = operation.uri then operation.write?.getD (texts key) else texts key

end Operation

/-- The workspace after a session. -/
def Workspace.after (w : Workspace) (session : List Operation) : Workspace :=
  session.foldl (fun w operation => (operation.step w).1) w

/-- The texts of the open documents after a session, in which all documents were closed at
first. -/
def Texts.after (session : List Operation) : Texts :=
  session.foldl Operation.edit fun _ => none

namespace Operation

/-- The operations of a session with what they give back. -/
def trace (w : Workspace) : List Operation → List (Operation × Outcome)
  | [] => []
  | operation :: session =>
      (operation, (operation.step w).2) :: trace (operation.step w).1 session

/-! ### One step -/

/-- All that a step does to the documents: it writes its own, and leaves the others as they
are. -/
theorem document?_step (w : Workspace) (operation : Operation) (key : Uri) :
    (operation.step w).1.document? key =
      if key = operation.uri then
        (operation.write?.map (Option.map (Analysis.ofText w.catalog))).getD (w.document? key)
      else w.document? key := by
  cases operation with
  | opened uri text => exact w.document?_openDocument uri key text
  | changed uri texts =>
      -- without a text nothing is written, and a document that is not open stays so
      show (w.changeDocument uri texts).document? key = _
      rw [Workspace.changeDocument, write?, Operation.uri]
      cases texts.getLast? with
      | none => exact (ite_self _).symm
      | some text => exact w.document?_openDocument uri key text
  | closed uri => exact w.document?_closeDocument uri key
  | close uri => exact w.document?_closeDocument uri key
  | completion uri p => exact (ite_self _).symm
  | hover uri p => exact (ite_self _).symm
  | isOpen uri => exact (ite_self _).symm
  | bindings uri => exact (ite_self _).symm
  | typeNames uri => exact (ite_self _).symm

theorem catalog_step (w : Workspace) (operation : Operation) :
    (operation.step w).1.catalog = w.catalog := by
  cases operation with
  | changed uri texts =>
      show (w.changeDocument uri texts).catalog = _
      rw [Workspace.changeDocument]
      split
      · rfl
      · rfl
  | _ => rfl

/-- What an operation gives back depends on its own document only. -/
theorem outcome_congr {w w' : Workspace} {operation : Operation}
    (same : w.document? operation.uri = w'.document? operation.uri) :
    (operation.step w).2 = (operation.step w').2 := by
  cases operation with
  | opened uri text => rfl
  | changed uri texts => rfl
  | closed uri => rfl
  | close uri => exact congrArg (fun found => Outcome.flag (Option.isSome found)) same
  | completion uri p =>
      simp only [step, Workspace.answer, Workspace.complete, Workspace.ask]
      rw [show w.document? uri = w'.document? uri from same]
  | hover uri p =>
      simp only [step, Workspace.answer, Workspace.hover, Workspace.ask]
      rw [show w.document? uri = w'.document? uri from same]
  | isOpen uri => exact congrArg (fun found => Outcome.flag (Option.isSome found)) same
  | bindings uri =>
      simp only [step, Workspace.bindings?]
      rw [show w.document? uri = w'.document? uri from same]
  | typeNames uri =>
      simp only [step, Workspace.typeNames?]
      rw [show w.document? uri = w'.document? uri from same]

theorem step_of_isRequest {operation : Operation} (isRequest : operation.isRequest = true)
    (w : Workspace) : (operation.step w).1 = w := by
  cases operation with
  | opened uri text => cases isRequest
  | changed uri texts => cases isRequest
  | closed uri => cases isRequest
  | close uri => cases isRequest
  | _ => rfl

end Operation

/-! ### Whole sessions -/

/-- A workspace has analysed exactly the texts of the open documents. -/
structure Workspace.Holds (w : Workspace) (catalog : Catalog) (texts : Texts) : Prop where
  catalog_eq : w.catalog = catalog
  document?_eq : ∀ uri, w.document? uri = (texts uri).map (Analysis.ofText catalog)

namespace Workspace

theorem holds_start (catalog : Catalog) : (start catalog).Holds catalog fun _ => none where
  catalog_eq := rfl
  document?_eq _ := rfl

/-- An operation keeps workspace and texts together. -/
theorem Holds.step {w : Workspace} {catalog : Catalog} {texts : Texts}
    (holds : w.Holds catalog texts) (operation : Operation) :
    (operation.step w).1.Holds catalog (operation.edit texts) where
  catalog_eq := (operation.catalog_step w).trans holds.catalog_eq
  document?_eq := by
    intro key
    rw [operation.document?_step, Operation.edit, holds.catalog_eq, holds.document?_eq]
    split
    · cases operation.write? with
      | none => rfl
      | some text? => rfl
    · rfl

/-- A session keeps workspace and texts together. -/
theorem Holds.after {w : Workspace} {catalog : Catalog} {texts : Texts}
    (holds : w.Holds catalog texts) (session : List Operation) :
    (w.after session).Holds catalog (session.foldl Operation.edit texts) := by
  induction session generalizing w texts with
  | nil => exact holds
  | cons operation session ih => exact ih (holds.step operation)

end Workspace

/-- What happens to one document in a session depends only on the operations on it.  The
induction is over the session; the two workspaces agree on that document throughout, and
may differ in all others. -/
theorem Operation.filter_trace {w w' : Workspace} {uri : Uri} (catalog : w.catalog = w'.catalog)
    (same : w.document? uri = w'.document? uri) (session : List Operation) :
    (trace w session).filter (·.1.uri = uri) = trace w' (session.filter (·.uri = uri)) := by
  induction session generalizing w w' with
  | nil => rfl
  | cons operation session ih =>
      by_cases here : operation.uri = uri
      · -- on the document itself both workspaces answer alike and write alike
        have outcome : (operation.step w).2 = (operation.step w').2 :=
          outcome_congr (by rw [here]; exact same)
        have next : (operation.step w).1.document? uri = (operation.step w').1.document? uri := by
          rw [document?_step, document?_step, same, catalog]
        have catalog' : (operation.step w).1.catalog = (operation.step w').1.catalog := by
          rw [catalog_step, catalog_step, catalog]
        rw [trace, List.filter_cons_of_pos (by simpa using here),
          List.filter_cons_of_pos (by simpa using here), trace, outcome, ih catalog' next]
      · -- on another document only the longer session takes a step
        have unchanged : (operation.step w).1.document? uri = w.document? uri := by
          rw [document?_step, if_neg (Ne.symm here)]
        have catalog' : (operation.step w).1.catalog = w'.catalog := by
          rw [catalog_step, catalog]
        rw [trace, List.filter_cons_of_neg (by simpa using here),
          List.filter_cons_of_neg (by simpa using here), ih catalog' (unchanged.trans same)]

/-! ### Answers about open and closed documents -/

namespace Workspace

variable {w : Workspace} {uri : Uri}

theorem ask_of_open {α : Type} {a : Analysis} (found : w.document? uri = some a)
    (question : Analysis → α) : w.ask uri question = .ok (question a) := by
  rw [ask, found]

theorem ask_of_closed {α : Type} (missing : w.document? uri = none) (question : Analysis → α) :
    w.ask uri question = .error (.notOpen uri) := by
  rw [ask, missing]

/-- Requests about a document that is not open count as requests with wrong parameters. -/
theorem answer_of_closed (missing : w.document? uri = none) (p : Position) :
    w.answer (.completion uri p) = .error ⟨-32602, "document is not open: " ++ uri⟩ ∧
      w.answer (.hover uri p) = .error ⟨-32602, "document is not open: " ++ uri⟩ := by
  rw [answer, answer, complete, hover, ask_of_closed missing, ask_of_closed missing]
  exact ⟨rfl, rfl⟩

/-- Requests about an open document are answered from its analysis. -/
theorem answer_of_open {a : Analysis} (found : w.document? uri = some a) (p : Position) :
    w.answer (.completion uri p) = .ok (Answer.completion (a.complete p)) ∧
      w.answer (.hover uri p) = .ok (Answer.hover (a.hover? p)) := by
  rw [answer, answer, complete, hover, ask_of_open found, ask_of_open found]
  exact ⟨rfl, rfl⟩

/-- To the outside, a workspace is a map from addresses to texts.  After every session, a
document is open exactly if the map has a text for it; what is answered about an open
document is what the analysis of its text tells, and nothing is answered about others.
What happens to one document depends only on the operations on it, and requests change
nothing. -/
theorem after_refines_texts (catalog : Catalog) (session : List Operation) (uri : Uri) :
    let w := (start catalog).after session
    let text? := Texts.after session uri
    w.isOpen uri = text?.isSome ∧
      (∀ text p, text? = some text →
        let a := Analysis.ofText catalog text
        w.complete uri p = .ok (a.complete p) ∧ w.hover uri p = .ok (a.hover? p) ∧
          w.answer (.completion uri p) = .ok (Answer.completion (a.complete p)) ∧
          w.answer (.hover uri p) = .ok (Answer.hover (a.hover? p)) ∧
          w.bindings? uri = some a.bindings ∧
          w.typeNames? uri = some (a.scope.map (·.2.typeName))) ∧
      (∀ p, text? = none →
        w.answer (.completion uri p) = .error ⟨-32602, "document is not open: " ++ uri⟩ ∧
          w.answer (.hover uri p) = .error ⟨-32602, "document is not open: " ++ uri⟩ ∧
          w.bindings? uri = none ∧ w.typeNames? uri = none) ∧
      (Operation.trace (start catalog) session).filter (·.1.uri = uri) =
        Operation.trace (start catalog) (session.filter (·.uri = uri)) ∧
      ∀ operation : Operation, operation.isRequest = true → (operation.step w).1 = w := by
  intro w text?
  have holds := (holds_start catalog).after session
  have document : w.document? uri = text?.map (Analysis.ofText catalog) := holds.document?_eq uri
  refine ⟨?_, ?_, ?_, Operation.filter_trace rfl rfl session, ?_⟩
  · rw [isOpen, document, Option.isSome_map]
  · intro text p present a
    rw [present] at document
    have found : w.document? uri = some a := document
    obtain ⟨completion, hovered⟩ := answer_of_open found p
    refine ⟨ask_of_open found _, ask_of_open found _, completion, hovered, ?_, ?_⟩
    · rw [bindings?, found, Option.map_some]
    · rw [typeNames?, found, Option.map_some]
  · intro p absent
    rw [absent] at document
    have missing : w.document? uri = none := document
    obtain ⟨completion, hovered⟩ := answer_of_closed missing p
    refine ⟨completion, hovered, ?_, ?_⟩
    · rw [bindings?, missing, Option.map_none]
    · rw [typeNames?, missing, Option.map_none]
  · intro operation isRequest
    exact Operation.step_of_isRequest isRequest w

end Workspace

end QmlAssist
