/-!
# Completion candidates

A candidate is one suggestion of a completion list.  Lists keep their order, and
a candidate joins a list only if its label and kind are new there.
-/

namespace QmlAssist

/-- What a candidate stands for. -/
inductive CandidateKind where
  | componentType
  | property
  | method
  /-- A signal, offered under the name of its handler. -/
  | signal
  | enumMember
  /-- An id that the document declares. -/
  | identifier
  | keyword
  | builtinType
  | moduleName
deriving DecidableEq, Repr

/-- One suggestion. -/
structure Candidate where
  label : String
  kind : CandidateKind
  detail : Option String
deriving DecidableEq, Repr

namespace Candidate

/-- Whether two candidates have the same label and kind. -/
def sameEntry (a b : Candidate) : Bool :=
  a.label == b.label && a.kind == b.kind

/-- The list with a candidate at its end, unless an entry with the same label and
kind is there already. -/
def pushNew (items : List Candidate) (candidate : Candidate) : List Candidate :=
  if items.any (sameEntry · candidate) then items else items ++ [candidate]

end Candidate

end QmlAssist
