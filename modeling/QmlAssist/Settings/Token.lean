import QmlAssist.Text.Hex

/-!
# Tokens of settings files

Settings are written in TOML.  Of its tokens only those are read that settings can
contain: keys, truth values, strings of all four kinds, and arrays.  Every other
token could only stand for a value of the wrong kind, and is refused here.

## Main Definitions

* `Token` — the tokens; blanks and comments leave none.
* `Token.scan?` — the tokens of a text.

## Design Notes

The text is read by one structural recursion over its characters.  `Started` says
what has been begun and is not finished, so a string, an escape or a line end can
extend over several characters.
-/

namespace QmlAssist.Settings

/-- The tokens of a settings file. -/
inductive Token where
  | lineEnd
  | equals
  | comma
  | openBracket
  | closeBracket
  /-- A bare key or a truth value. -/
  | bare (text : String)
  /-- A string; the flag tells whether it may extend over lines. -/
  | string (multiLine : Bool) (value : String)
deriving DecidableEq, Repr

namespace Token

/-- The characters of bare keys. -/
def isBareChar (c : Char) : Bool :=
  c.isAlphanum || c == '_' || c == '-'

/-- The characters that may stand in comments and strings: all but the control
characters, where a tab is none. -/
def isTextChar (c : Char) : Bool :=
  c == '\t' || (0x20 ≤ c.toNat && c.toNat ≠ 0x7F)

/-- The character that a one-letter escape stands for. -/
def escape? : Char → Option Char
  | '"' => some '"'
  | '\\' => some '\\'
  | 'b' => some '\x08'
  | 't' => some '\t'
  | 'n' => some '\n'
  | 'f' => some '\x0c'
  | 'r' => some '\r'
  | 'e' => some '\x1b'
  | _ => none

/-- The number of digits after the letter of a numeric escape. -/
def escapeDigits? : Char → Option Nat
  | 'x' => some 2
  | 'u' => some 4
  | 'U' => some 8
  | _ => none

/-- The character of a scalar value. -/
def scalar? (n : Nat) : Option Char :=
  if n.isValidChar then some (Char.ofNat n) else none

/-- The four kinds of strings: with escapes or literal, on one line or several. -/
structure StringKind where
  quote : Char
  multiLine : Bool
deriving DecidableEq, Repr

/-- Where in a string the reader is. -/
inductive StringState where
  /-- At the start of a string of several lines, where a line end is dropped. -/
  | opening
  /-- After a carriage return at the start. -/
  | openingReturn
  /-- In the text, after some closing quotes that may belong to it. -/
  | text (quotes : Nat)
  /-- After a carriage return, which a line feed has to follow. -/
  | afterReturn
  /-- After a backslash. -/
  | letter
  /-- In a numeric escape, with the digits missing and the value so far. -/
  | digits (missing : Nat) (value : Nat)
  /-- In the blanks between a backslash and the end of the line. -/
  | trailing
  /-- In the blanks and line ends that such a backslash removes. -/
  | joining
  /-- After a carriage return among them. -/
  | joiningReturn
deriving DecidableEq, Repr

/-- Take one character of the text of a string.  The text so far is given latest
first. -/
def StringKind.takeText? (kind : StringKind) (text : List Char) (c : Char) :
    Option (StringState × List Char) :=
  if c = '\\' ∧ kind.quote = '"' then some (.letter, text)
  else if c = '\n' ∧ kind.multiLine then some (.text 0, c :: text)
  else if c = '\r' ∧ kind.multiLine then some (.afterReturn, c :: text)
  else if isTextChar c then some (.text 0, c :: text)
  else none

/-- Take one character of a string, except for a closing quote or what follows
one. -/
def StringKind.step? (kind : StringKind) (text : List Char) (c : Char) :
    StringState → Option (StringState × List Char)
  | .opening =>
      if c = '\n' then some (.text 0, text)
      else if c = '\r' then some (.openingReturn, text)
      else kind.takeText? text c
  | .openingReturn => if c = '\n' then some (.text 0, text) else none
  | .text quotes => kind.takeText? (List.replicate quotes kind.quote ++ text) c
  | .afterReturn => if c = '\n' then some (.text 0, c :: text) else none
  | .letter =>
      match escape? c, escapeDigits? c with
      | some e, _ => some (.text 0, e :: text)
      | none, some missing => some (.digits missing 0, text)
      | none, none =>
          if kind.multiLine = false then none
          else if c = '\n' then some (.joining, text)
          else if c = '\r' then some (.joiningReturn, text)
          else if c = ' ' ∨ c = '\t' then some (.trailing, text)
          else none
  | .digits missing value => do
      let value := 16 * value + (← Text.hexDigit? c)
      if missing ≤ 1 then some (.text 0, (← scalar? value) :: text)
      else some (.digits (missing - 1) value, text)
  | .trailing =>
      if c = '\n' then some (.joining, text)
      else if c = '\r' then some (.joiningReturn, text)
      else if c = ' ' ∨ c = '\t' then some (.trailing, text)
      else none
  | .joining =>
      if c = '\n' ∨ c = ' ' ∨ c = '\t' then some (.joining, text)
      else if c = '\r' then some (.joiningReturn, text)
      else kind.takeText? text c
  | .joiningReturn => if c = '\n' then some (.joining, text) else none

/-- What has been begun and is not finished. -/
inductive Started where
  | nothing
  /-- A carriage return, which a line feed has to follow. -/
  | afterReturn
  | comment
  /-- A bare text, latest character first. -/
  | bare (text : List Char)
  /-- Quotes that begin a string: one or two of them. -/
  | opened (quote : Char) (second : Bool)
  | string (kind : StringKind) (state : StringState) (text : List Char)

/-- Whether a quote in this place of a string may close it. -/
def StringState.mayClose : StringState → Option Nat
  | .opening => some 0
  | .text quotes => some quotes
  | .joining => some 0
  | _ => none

/-- What a character begins, or the token that it is. -/
def begin? (c : Char) : Option (List Token × Started) :=
  if c = ' ' ∨ c = '\t' then some ([], .nothing)
  else if c = '\n' then some ([.lineEnd], .nothing)
  else if c = '\r' then some ([], .afterReturn)
  else if c = '#' then some ([], .comment)
  else if c = '=' then some ([.equals], .nothing)
  else if c = ',' then some ([.comma], .nothing)
  else if c = '[' then some ([.openBracket], .nothing)
  else if c = ']' then some ([.closeBracket], .nothing)
  else if c = '"' ∨ c = '\x27' then some ([], .opened c false)
  else if isBareChar c then some ([], .bare [c])
  else none

/-- The token of a bare text. -/
def ofBare (text : List Char) : Token :=
  .bare (String.ofList text.reverse)

/-- The token of a string of several lines that ends with the given number of
quotes; three of them close it, and up to two more belong to its text. -/
def ofMultiLine? (kind : StringKind) (quotes : Nat) (text : List Char) : Option Token :=
  if 3 ≤ quotes ∧ quotes ≤ 5 then
    some (.string true (String.ofList (List.replicate (quotes - 3) kind.quote ++ text).reverse))
  else none

/-- The tokens that end with the text. -/
def Started.finish? : Started → Option (List Token)
  | .nothing => some []
  | .afterReturn => none
  | .comment => some []
  | .bare text => some [ofBare text]
  | .opened _ second => if second then some [.string false ""] else none
  | .string kind state text =>
      match state, kind.multiLine with
      | .text quotes, true => (ofMultiLine? kind quotes text).map ([·])
      | _, _ => none

/-- Take one character: the tokens that are finished by it, and what has been begun
after it. -/
def Started.step? (c : Char) : Started → Option (List Token × Started)
  | .nothing => begin? c
  | .afterReturn => if c = '\n' then some ([.lineEnd], .nothing) else none
  | .comment =>
      if c = '\n' ∨ c = '\r' then begin? c
      else if isTextChar c then some ([], .comment)
      else none
  | .bare text =>
      if isBareChar c then some ([], .bare (c :: text))
      else (begin? c).map fun (tokens, started) => (ofBare text :: tokens, started)
  | .opened quote second =>
      if c = quote then
        some ([], if second then .string ⟨quote, true⟩ .opening [] else .opened quote true)
      else if second then
        (begin? c).map fun (tokens, started) => (.string false "" :: tokens, started)
      else
        (StringKind.step? ⟨quote, false⟩ [] c (.text 0)).map fun (state, text) =>
          ([], .string ⟨quote, false⟩ state text)
  | .string kind state text =>
      match state.mayClose with
      | some quotes =>
          if c = kind.quote then
            if kind.multiLine then
              if quotes < 5 then some ([], .string kind (.text (quotes + 1)) text) else none
            else some ([.string false (String.ofList text.reverse)], .nothing)
          else if 3 ≤ quotes then do
            let token ← ofMultiLine? kind quotes text
            let (tokens, started) ← begin? c
            some (token :: tokens, started)
          else (kind.step? text c state).map fun (state, text) => ([], .string kind state text)
      | none => (kind.step? text c state).map fun (state, text) => ([], .string kind state text)

/-- The tokens of a text, after what has been begun before it. -/
def scanAfter? : Started → List Char → Option (List Token)
  | started, [] => started.finish?
  | started, c :: rest => do
      let (tokens, started) ← started.step? c
      let others ← scanAfter? started rest
      some (tokens ++ others)

/-- The tokens of a text.  A byte order mark at its start is passed over. -/
def scan? (text : String) : Option (List Token) :=
  match text.toList with
  | '\uFEFF' :: rest => scanAfter? .nothing rest
  | cs => scanAfter? .nothing cs

end Token

end QmlAssist.Settings
