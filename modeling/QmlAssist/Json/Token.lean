import QmlAssist.Json.Numeral
import QmlAssist.Text.Hex

/-!
# JSON tokens

The tokens of a JSON text, in the order in which they are written.  Only the
four blanks of the format separate tokens, control characters do not occur in
strings, and escaped surrogates come in pairs.
-/

namespace QmlAssist.Json

/-- The tokens of JSON. -/
inductive Token where
  | openBrace
  | closeBrace
  | openBracket
  | closeBracket
  | colon
  | comma
  | null
  | bool (value : Bool)
  | number (literal : String)
  | string (value : String)
deriving DecidableEq, Repr

namespace Token

/-- The blanks between tokens. -/
def isSpace (c : Char) : Bool :=
  c == ' ' || c == '\t' || c == '\n' || c == '\r'

/-- The value of four hexadecimal digits. -/
def hex4? (a b c d : Char) : Option Nat := do
  let digits ← [a, b, c, d].mapM Text.hexDigit?
  some (digits.foldl (fun n digit => 16 * n + digit) 0)

/-- The character that a one-letter escape stands for. -/
def escape? : Char → Option Char
  | '"' => some '"'
  | '\\' => some '\\'
  | '/' => some '/'
  | 'b' => some '\x08'
  | 'f' => some '\x0c'
  | 'n' => some '\n'
  | 'r' => some '\r'
  | 't' => some '\t'
  | _ => none

/-- The character that a surrogate pair stands for. -/
def surrogatePair? (high low : Nat) : Option Char :=
  if 0xDC00 ≤ low ∧ low < 0xE000 then
    some (Char.ofNat (0x10000 + (high - 0xD800) * 0x400 + (low - 0xDC00)))
  else none

/-- What a string still needs. -/
inductive StringState where
  /-- Plain text, or the end of the string. -/
  | plain
  /-- The letter after a backslash. -/
  | letter
  /-- More digits of an escape, of which those seen are given latest first. -/
  | digits (seen : List Char)
  /-- The backslash of the second half of a surrogate pair. -/
  | lowBackslash (high : Nat)
  /-- The letter `u` of the second half of a surrogate pair. -/
  | lowLetter (high : Nat)
  /-- More digits of the second half of a surrogate pair. -/
  | lowDigits (high : Nat) (seen : List Char)

/-- The state after a whole escape of four digits. -/
def StringState.ofUnit? (text : List Char) (unit : Nat) : Option (StringState × List Char) :=
  if 0xD800 ≤ unit ∧ unit < 0xDC00 then some (.lowBackslash unit, text)
  else if 0xDC00 ≤ unit ∧ unit < 0xE000 then none
  else some (.plain, Char.ofNat unit :: text)

/-- Take one character of a string that does not end here.  The text read so far
is given latest first. -/
def StringState.step? (text : List Char) (c : Char) :
    StringState → Option (StringState × List Char)
  | .plain =>
      if c = '\\' then some (.letter, text)
      else if c.toNat < 0x20 then none
      else some (.plain, c :: text)
  | .letter =>
      if c = 'u' then some (.digits [], text)
      else (escape? c).map fun e => (.plain, e :: text)
  | .digits [z, y, x] => (hex4? x y z c).bind (ofUnit? text)
  | .digits seen => some (.digits (c :: seen), text)
  | .lowBackslash high => if c = '\\' then some (.lowLetter high, text) else none
  | .lowLetter high => if c = 'u' then some (.lowDigits high [], text) else none
  | .lowDigits high [z, y, x] => do
      let low ← hex4? x y z c
      let pair ← surrogatePair? high low
      some (.plain, pair :: text)
  | .lowDigits high seen => some (.lowDigits high (c :: seen), text)

/-- A token of which only the first characters have been read, latest first. -/
inductive Started where
  | nothing
  | word (letters : List Char)
  | number (characters : List Char)
  | string (state : StringState) (text : List Char)

/-- The characters that a number is written with. -/
def isNumberChar (c : Char) : Bool :=
  c.isDigit || c == '-' || c == '+' || c == '.' || c == 'e' || c == 'E'

/-- The token that a word stands for. -/
def ofWord? (word : String) : Option Token :=
  if word = "null" then some .null
  else if word = "true" then some (.bool true)
  else if word = "false" then some (.bool false)
  else none

/-- The token that a number's text stands for. -/
def ofNumber? (cs : List Char) : Option Token :=
  match Numeral.read? cs with
  | some (n, []) => if n.inRange then some (.number (String.ofList cs)) else none
  | _ => none

/-- The tokens that end where the text ends or a character does not continue
them: one, or none if no token has been started. -/
def Started.finish? : Started → Option (List Token)
  | .nothing => some []
  | .word letters => (ofWord? (String.ofList letters.reverse)).map ([·])
  | .number characters => (ofNumber? characters.reverse).map ([·])
  | .string _ _ => none

/-- The longer start of a word or number that a character continues. -/
def Started.extend? (c : Char) : Started → Option Started
  | .word letters => if c.isLower then some (.word (c :: letters)) else none
  | .number characters => if isNumberChar c then some (.number (c :: characters)) else none
  | _ => none

/-- What a character begins that continues nothing: a token of its own, the start
of a longer one, or nothing if it is a blank. -/
def begin? (c : Char) : Option (List Token × Started) :=
  if isSpace c then some ([], .nothing)
  else if c = '{' then some ([.openBrace], .nothing)
  else if c = '}' then some ([.closeBrace], .nothing)
  else if c = '[' then some ([.openBracket], .nothing)
  else if c = ']' then some ([.closeBracket], .nothing)
  else if c = ':' then some ([.colon], .nothing)
  else if c = ',' then some ([.comma], .nothing)
  else if c = '"' then some ([], .string .plain [])
  else if c.isLower then some ([], .word [c])
  else if isNumberChar c then some ([], .number [c])
  else none

/-- The tokens of a text, after those already read, which are given latest
first. -/
def scanAfter? (done : List Token) : Started → List Char → Option (List Token)
  | started, [] => started.finish?.map fun last => (last ++ done).reverse
  | .string state text, c :: rest =>
      match state, c with
      | .plain, '"' => scanAfter? (.string (String.ofList text.reverse) :: done) .nothing rest
      | state, c =>
          match state.step? text c with
          | some (state, text) => scanAfter? done (.string state text) rest
          | none => none
  | started, c :: rest =>
      match started.extend? c with
      | some started => scanAfter? done started rest
      | none =>
          match started.finish?, begin? c with
          | some last, some (single, started) =>
              scanAfter? (single ++ last ++ done) started rest
          | _, _ => none

/-- The tokens of a text. -/
def scan? (text : String) : Option (List Token) :=
  scanAfter? [] .nothing text.toList

end Token

end QmlAssist.Json
