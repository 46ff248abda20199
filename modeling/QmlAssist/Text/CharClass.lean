import QmlAssist.Unicode.Alphabetic
import QmlAssist.Unicode.Mark
import QmlAssist.Unicode.Number
import QmlAssist.Unicode.Recent
import QmlAssist.Unicode.WhiteSpace

/-!
# Character classes of markup text

Two classes of characters spell identifiers, and they differ outside ASCII.

* A *word character* is what the editor's cursor sees as part of a word:
  letters, numbers of every kind, and the low line.
* A *name character* is what a module path, a component name or an `id` may be
  spelled with: letters, combining marks, decimal digits, connector punctuation,
  and the two join controls.

A combining acute accent is a name character and no word character; a
superscript two is a word character and no name character.  The two classes also
belong to different versions of the Unicode standard: words follow 17.0, and names
follow 16.0, so the letters that came with 17.0 spell words only.
-/

namespace QmlAssist

/-- Blank characters separate words; line ends are among them. -/
def isBlank (c : Char) : Bool :=
  Unicode.isWhiteSpace c

/-- Word characters make up the words that a cursor can stand on. -/
def isWordChar (c : Char) : Bool :=
  c == '_' || Unicode.isAlphabetic c || Unicode.isNumber c

/-- Name characters make up module paths, component names and declared ids. -/
def isNameChar (c : Char) : Bool :=
  (Unicode.isAlphabetic c || Unicode.isMark c || Unicode.isDecimalDigit c ||
    Unicode.isConnector c || Unicode.isJoinControl c) && !Unicode.isRecent c

/-- A name is a non-empty run of name characters. -/
def IsName (cs : List Char) : Prop :=
  cs ≠ [] ∧ cs.all isNameChar = true

instance (cs : List Char) : Decidable (IsName cs) :=
  inferInstanceAs (Decidable (_ ∧ _))

end QmlAssist
