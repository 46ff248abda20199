import QmlAssist.Unicode.Cased
import QmlAssist.Unicode.Lowercase
import QmlAssist.Unicode.Uppercase

/-!
# Letter case of texts

Lower-casing a text lower-cases its characters one by one, except that a capital
sigma at the end of a word becomes a final sigma.
-/

namespace QmlAssist.Text

/-- Whether the nearest character that is not passed over is cased. -/
def meetsCased (cs : List Char) : Bool :=
  (cs.dropWhile Unicode.isCaseIgnorable).head?.any Unicode.isCased

/-- Lower-case the text `cs`, where `before` is the text in front of it with the
nearest character first. -/
def lowercaseAfter (before : List Char) : List Char → List Char
  | [] => []
  | c :: rest =>
      let lowered :=
        if c = 'Σ' then
          [if meetsCased before && !meetsCased rest then 'ς' else 'σ']
        else Unicode.lowercase c
      lowered ++ lowercaseAfter (c :: before) rest

/-- The lower case of a text. -/
def lowercase (text : String) : String :=
  String.ofList (lowercaseAfter [] text.toList)

/-- The text with its first character in upper case. -/
def capitalize (text : String) : String :=
  match text.toList with
  | [] => ""
  | c :: rest => String.ofList (Unicode.uppercase c ++ rest)

end QmlAssist.Text
