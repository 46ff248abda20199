import QmlAssist.Text.CharClass
import QmlAssist.Text.Hex

/-!
# Well-formed patterns

A pattern describes texts by a regular expression.  Patterns are never run here; the
only question is whether a text is a pattern at all.

The syntax is the common one: groups, alternatives, classes in brackets, escapes and
the repetitions `*`, `+` and `?`.  There is no way to look around and no reference
back.  Counted repetitions need a closing brace; a text with an opening brace and no
closing one is no pattern, and closing braces cannot occur where patterns are read.

Two flags decide about well-formedness.  In verbose mode blanks and comments are
passed over.  Outside of Unicode mode a pattern must not be able to match half a
character, and in Unicode mode it must not ask for the edges of words.

## Main Definitions

* `Pattern.isWellFormed` — whether a text is a pattern.
-/

namespace QmlAssist.Text.Pattern

/-- The flags that matter for well-formedness. -/
structure Mode where
  verbose : Bool
  unicode : Bool
deriving DecidableEq, Repr

/-- The flags at the beginning of a pattern. -/
def Mode.default : Mode := ⟨false, true⟩

/-- The text after its blanks and comments; a comment begins with a number sign and
ends with the line. -/
def skipBlanks (inComment : Bool) : List Char → List Char
  | [] => []
  | c :: rest =>
      if inComment then skipBlanks (c != '\n') rest
      else if isBlank c then skipBlanks false rest
      else if c = '#' then skipBlanks true rest
      else c :: rest

/-- The text after what the mode passes over. -/
def Mode.skip (mode : Mode) (cs : List Char) : List Char :=
  if mode.verbose then skipBlanks false cs else cs

/-! ### Atoms -/

/-- The smallest parts of a pattern. -/
inductive Atom where
  /-- A character; `byte` marks one that is written with two hexadecimal digits, which
  stands for a byte outside of Unicode mode. -/
  | literal (c : Char) (byte : Bool)
  /-- Digits, blanks, word characters, or the opposite of these. -/
  | standardClass (negated : Bool)
  /-- A class given by a general category. -/
  | property
  /-- The beginning or the end of the text. -/
  | anchor
  /-- The edge of a word, or its opposite. -/
  | wordEdge
deriving DecidableEq, Repr

namespace Atom

/-- Whether an atom may stand in a pattern outside of brackets. -/
def fits (mode : Mode) : Atom → Bool
  | .literal c byte => mode.unicode || !byte || c.toNat < 0x80
  | .standardClass negated => mode.unicode || !negated
  | .property => mode.unicode
  | .anchor => true
  | .wordEdge => !mode.unicode

/-- Whether an atom may be a member of a class. -/
def fitsClass (mode : Mode) : Atom → Bool
  | .literal c _ => mode.unicode || c.toNat < 0x80
  | .standardClass negated => mode.unicode || !negated
  | .property => mode.unicode
  | .anchor => false
  | .wordEdge => false

/-- Whether two atoms are the ends of a range of characters. -/
def isRange : Atom → Atom → Bool
  | .literal first _, .literal last _ => first ≤ last
  | _, _ => false

end Atom

/-- The characters with a meaning of their own. -/
def metaCharacters : List Char := "\\.+*?()|[]\x7b\x7d^$#&-~".toList

/-- Whether an escaped character stands for itself. -/
def isEscapable (c : Char) : Bool :=
  metaCharacters.contains c ||
    (c.toNat < 0x80 && !c.isAlphanum && c != '<' && c != '>')

/-- The control character that a letter stands for after a backslash. -/
def controlCharacter? : Char → Option Char
  | 'a' => some '\x07'
  | 't' => some '\x09'
  | 'n' => some '\x0a'
  | 'v' => some '\x0b'
  | 'f' => some '\x0c'
  | 'r' => some '\x0d'
  | _ => none

/-- The value of as many hexadecimal digits as are asked for, after a value that has
been read before them. -/
def hexValue? (mode : Mode) : Nat → Nat → List Char → Option (Nat × List Char)
  | 0, value, cs => some (value, cs)
  | _ + 1, _, [] => none
  | count + 1, value, c :: rest => do
      hexValue? mode count (16 * value + (← Text.hexDigit? c)) (mode.skip rest)

/-- The character of a code in hexadecimal digits. -/
def code? (mode : Mode) (digits : Nat) (byte : Bool) (cs : List Char) :
    Option (Atom × List Char) := do
  let (value, rest) ← hexValue? mode digits 0 (mode.skip cs)
  if value.isValidChar then some (.literal (Char.ofNat value) byte, rest) else none

/-- The letters of the general categories. -/
def categoryLetters : List Char := ['c', 'l', 'm', 'n', 'p', 's', 'z']

/-- The class of a general category, which is named by one letter. -/
def category? (mode : Mode) (cs : List Char) : Option (Atom × List Char) :=
  match mode.skip cs with
  | [] => none
  | c :: rest => if categoryLetters.contains c.toLower then some (.property, rest) else none

/-- What follows a backslash. -/
def escape? (mode : Mode) : List Char → Option (Atom × List Char)
  | [] => none
  | c :: rest =>
      match c with
      | 'x' => code? mode 2 true rest
      | 'u' => code? mode 4 false rest
      | 'U' => code? mode 8 false rest
      | 'p' | 'P' => category? mode rest
      | 'd' | 's' | 'w' => some (.standardClass false, rest)
      | 'D' | 'S' | 'W' => some (.standardClass true, rest)
      | 'A' | 'z' => some (.anchor, rest)
      | 'b' | 'B' | '<' | '>' => some (.wordEdge, rest)
      | _ =>
          match controlCharacter? c with
          | some control => some (.literal control false, rest)
          | none => if isEscapable c then some (.literal c false, rest) else none

/-! ### Classes in brackets -/

/-- The names of the classes that are written between colons. -/
def classNames : List String :=
  ["alnum", "alpha", "ascii", "blank", "cntrl", "digit", "graph", "lower", "print", "punct",
    "space", "upper", "word", "xdigit"]

/-- A class between colons, such as `:alpha:` or, negated, `:^alpha:`, after its
opening bracket. -/
def namedClass? : List Char → Option (Bool × List Char)
  | ':' :: rest =>
      let (negated, rest) :=
        match rest with
        | '^' :: rest => (true, rest)
        | _ => (false, rest)
      match rest.dropWhile (· != ':') with
      | ':' :: ']' :: after =>
          if classNames.contains (String.ofList (rest.takeWhile (· != ':'))) then
            some (negated, after)
          else none
      | _ => none
  | _ => none

/-- The text after the dashes, or else the closing bracket, that stand for themselves
because a class begins with them. -/
def afterFirst? (mode : Mode) (cs : List Char) : Option (List Char) :=
  let after :=
    match cs with
    | '-' :: _ => mode.skip (cs.dropWhile fun c => c == '-' || (mode.verbose && isBlank c))
    | ']' :: rest => mode.skip rest
    | _ => cs
  if after = [] then none else some after

/-- The text after the beginning of a class.  A negated class may match half a
character outside of Unicode mode. -/
def openClass? (mode : Mode) (cs : List Char) : Option (List Char) :=
  match mode.skip cs with
  | '^' :: rest => if mode.unicode then afterFirst? mode (mode.skip rest) else none
  | cs => afterFirst? mode cs

/-- One member of a class. -/
def member? (mode : Mode) : List Char → Option (Atom × List Char)
  | [] => none
  | '\\' :: rest => escape? mode rest
  | c :: rest => some (.literal c false, rest)

/-- The text after a member or a range of characters.  A dash before another dash or
before the closing bracket makes no range. -/
def range? (mode : Mode) (cs : List Char) : Option (List Char) := do
  let (first, rest) ← member? mode cs
  let rest := mode.skip rest
  let alone := if first.fitsClass mode then some rest else none
  match rest with
  | [] => none
  | '-' :: after =>
      match mode.skip after with
      | ']' :: _ => alone
      | '-' :: _ => alone
      | next => do
          let (last, rest) ← member? mode next
          if first.isRange last && first.fitsClass mode && last.fitsClass mode then some rest
          else none
  | _ => alone

/-- The text after a class, of which the given number of enclosing classes are still
open.  Every member takes at least one character, so as many steps as characters are
enough. -/
def classMembers? (mode : Mode) : Nat → Nat → List Char → Option (List Char)
  | 0, _, _ => none
  | steps + 1, depth, cs =>
      match mode.skip cs with
      | [] => none
      | '[' :: rest =>
          match namedClass? rest with
          | some (negated, after) =>
              if mode.unicode || !negated then classMembers? mode steps depth after else none
          | none => (openClass? mode rest).bind (classMembers? mode steps (depth + 1))
      | ']' :: rest =>
          match depth with
          | 0 => some rest
          | depth + 1 => classMembers? mode steps depth rest
      | '&' :: '&' :: rest => classMembers? mode steps depth rest
      | '-' :: '-' :: rest => classMembers? mode steps depth rest
      | '~' :: '~' :: rest => classMembers? mode steps depth rest
      | cs => (range? mode cs).bind (classMembers? mode steps depth)

/-- The text after a class, which begins after its opening bracket. -/
def class? (mode : Mode) (cs : List Char) : Option (List Char) :=
  (openClass? mode cs).bind (classMembers? mode (cs.length + 1) 0)

/-! ### Patterns -/

/-- A pattern part way through. -/
structure Reading where
  rest : List Char
  mode : Mode
  /-- The modes outside of the open groups. -/
  outer : List Mode
  /-- Whether there is something before that may be repeated. -/
  repeatable : Bool
  /-- The names of groups. -/
  names : List (List Char)
deriving DecidableEq, Repr

/-- The letters of flags. -/
def flagLetters : List Char := ['i', 'm', 's', 'U', 'u', 'R', 'x']

/-- Whether a text is a list of flags, in which those after a dash are turned off. -/
def areFlags (flags : List Char) : Bool :=
  flags.all (fun c => flagLetters.contains c || c == '-') && flags.Nodup &&
    flags.getLast? != some '-'

/-- The mode that flags lead to. -/
def Mode.set (mode : Mode) (flags : List Char) : Mode :=
  let setting := fun letter old =>
    if flags.contains letter then (flags.takeWhile (· != '-')).contains letter else old
  ⟨setting 'x' mode.verbose, setting 'u' mode.unicode⟩

/-- Whether a text is the name of a group. -/
def isGroupName : List Char → Bool
  | [] => false
  | c :: rest =>
      (c == '_' || Unicode.isAlphabetic c) &&
        rest.all fun c => isWordChar c || c == '.' || c == '[' || c == ']'

namespace Reading

/-- Go on after something that may be repeated. -/
def after (r : Reading) (rest : List Char) : Reading :=
  { r with rest := rest, repeatable := true }

/-- Go on inside of a group. -/
def enter (r : Reading) (mode : Mode) (rest : List Char) : Reading :=
  { r with rest := rest, mode := mode, outer := r.mode :: r.outer, repeatable := false }

/-- Go on inside of a group with a name. -/
def enterNamed? (r : Reading) (cs : List Char) : Option Reading :=
  let name := cs.takeWhile (· != '>')
  match cs.dropWhile (· != '>') with
  | [] => none
  | _ :: rest =>
      if isGroupName name && !r.names.contains name then
        some { r.enter r.mode rest with names := name :: r.names }
      else none

/-- Go on after flags, either for what follows or inside of a group. -/
def setFlags? (r : Reading) (cs : List Char) : Option Reading :=
  let isMark := fun c => c == ':' || c == ')'
  let flags := cs.takeWhile (!isMark ·)
  match cs.dropWhile (!isMark ·) with
  | [] => none
  | mark :: rest =>
      if !areFlags flags then none
      else if mark = ':' then some (r.enter (r.mode.set flags) rest)
      else if flags = [] then none
      else some { r with rest := rest, mode := r.mode.set flags, repeatable := false }

/-- Go on after the opening of a group. -/
def open? (r : Reading) (cs : List Char) : Option Reading :=
  match r.mode.skip cs with
  | '?' :: '=' :: _ => none
  | '?' :: '!' :: _ => none
  | '?' :: '<' :: '=' :: _ => none
  | '?' :: '<' :: '!' :: _ => none
  | '?' :: 'P' :: '<' :: rest => r.enterNamed? rest
  | '?' :: '<' :: rest => r.enterNamed? rest
  | '?' :: rest => r.setFlags? rest
  | rest => some (r.enter r.mode rest)

/-- Go on after the closing of a group. -/
def close? (r : Reading) (cs : List Char) : Option Reading :=
  match r.outer with
  | [] => none
  | mode :: outer => some { r with rest := cs, mode := mode, outer := outer, repeatable := true }

/-- Go on after a repetition, which a question mark may follow. -/
def repeat? (r : Reading) (cs : List Char) : Option Reading :=
  if r.repeatable then
    match cs with
    | '?' :: rest => some (r.after rest)
    | _ => some (r.after cs)
  else none

/-- Go on after the part of the pattern that begins with the given character. -/
def step? (r : Reading) (c : Char) (cs : List Char) : Option Reading :=
  match c with
  | '(' => r.open? cs
  | ')' => r.close? cs
  | '|' => some { r with rest := cs, repeatable := false }
  | '[' => (class? r.mode cs).map r.after
  | '?' | '*' | '+' => r.repeat? cs
  | '\x7b' => none
  | '.' => if r.mode.unicode then some (r.after cs) else none
  | '\\' => do
      let (atom, rest) ← escape? r.mode cs
      if atom.fits r.mode then some (r.after rest) else none
  | _ => some (r.after cs)

/-- Whether the rest is a pattern.  Every step takes at least one character. -/
def finishes : Nat → Reading → Bool
  | 0, _ => false
  | steps + 1, r =>
      match r.mode.skip r.rest with
      | [] => r.outer.isEmpty
      | c :: cs => (r.step? c cs).any (finishes steps)

end Reading

/-- Whether a text is a pattern. -/
def isWellFormed (text : List Char) : Bool :=
  Reading.finishes (text.length + 1) ⟨text, .default, [], false, []⟩

end QmlAssist.Text.Pattern
