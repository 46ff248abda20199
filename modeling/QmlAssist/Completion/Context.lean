import QmlAssist.Document.Word

/-!
# Completion contexts

What a completion should offer depends on the text of the line before the cursor.
The word being typed does not count; what matters is what stands before it.
-/

namespace QmlAssist

/-- What the text before the cursor asks for. -/
inductive Context where
  /-- Members of what the subject names, as after `subject.` -/
  | memberAccess (subject : String)
  /-- A module path, as after `import`. -/
  | importPath
  /-- Anything that may stand in a block. -/
  | general
deriving DecidableEq, Repr

namespace Context

/-- The characters of a dotted path. -/
def isPathChar (c : Char) : Bool :=
  isWordChar c || c == '.'

/-- Whether the text ends in the word `import`, blanks after it apart.  The text is
given with the nearest character first. -/
def endsInImport (before : List Char) : Bool :=
  (before.dropWhile isBlank).takeWhile isWordChar == "import".toList.reverse

/-- The context of a line, given the text before the cursor with the nearest
character first.  A dotted path after `import` is a module path, not a member
access. -/
def ofLine (before : List Char) : Context :=
  let beforeWord := before.dropWhile isWordChar
  if endsInImport (beforeWord.dropWhile isPathChar) then .importPath
  else
    match beforeWord with
    | '.' :: beforeDot =>
        .memberAccess (String.ofList (beforeDot.takeWhile isWordChar).reverse)
    | _ => .general

end Context

/-- The context at a cursor. -/
def Cursor.context (c : Cursor) : Context :=
  Context.ofLine c.before

end QmlAssist
