import QmlAssist.Text.Bytes
import QmlAssist.Text.Digits
import QmlAssist.Text.Pattern
import QmlAssist.Text.Pieces

/-!
# Log filters

A log filter is a list of directives, separated by commas.  A directive sets a
level for the lines whose target begins with a text; it may ask for a field that a
line has to carry, and it may be about the lines inside a span of work.  In full it
is written `target[span{field=value}]=level`, and every part may be left out.

Of the directives that apply to a line, the most specific one decides: the one with
the longest target, then one that asks for a field.

## Main Definitions

* `LogLevel` — the levels of log lines.
* `LogLine` — what a filter can see of a line.
* `LogDirective.parse`, `LogFilter.parse` — what a text describes.
* `LogFilter.choose?` — the first of several texts that describes a filter.
* `LogFilter.allows` — whether a line is written.
-/

namespace QmlAssist

/-- How important a log line is, and how much of a log is kept. -/
inductive LogLevel where
  | off
  | error
  | warn
  | info
  | debug
  | trace
deriving DecidableEq, Repr

namespace LogLevel

/-- The rank of a level; a log that keeps a level keeps all of lower rank. -/
def rank : LogLevel → Nat
  | .off => 0
  | .error => 1
  | .warn => 2
  | .info => 3
  | .debug => 4
  | .trace => 5

/-- All levels, by rank. -/
def all : List LogLevel := [.off, .error, .warn, .info, .debug, .trace]

/-- The name of a level. -/
def name : LogLevel → String
  | .off => "off"
  | .error => "error"
  | .warn => "warn"
  | .info => "info"
  | .debug => "debug"
  | .trace => "trace"

/-- The number that a text denotes; it may have a plus sign and leading zeros. -/
def number? : List Char → Option Nat
  | '+' :: digits => Text.natural? digits
  | digits => Text.natural? digits

/-- The level of a name, in upper or lower case, or of a rank. -/
def parse? (text : List Char) : Option LogLevel :=
  let lowered := String.ofList (text.map Char.toLower)
  all.find? fun level => level.name == lowered || number? text == some level.rank

end LogLevel

/-- What a filter can see of a log line.  No line here is written inside a span. -/
structure LogLine where
  target : String
  level : LogLevel
  /-- The names of the fields that the line carries. -/
  fields : List String
deriving DecidableEq, Repr

/-- Why a text describes no filter. -/
inductive LogFilterError where
  | malformed
  /-- The text would have to be cut inside of a character. -/
  | insideCharacter
deriving DecidableEq, Repr

/-- A field that a directive asks for, perhaps with a value. -/
structure LogField where
  name : List Char
  value : Option (List Char)
deriving DecidableEq, Repr

namespace LogField

/-- Whether a text is a decimal number, as far as it has no sign. -/
def isUnsignedNumber (text : List Char) : Bool :=
  let lowered := text.map Char.toLower
  let mantissa := lowered.takeWhile (· != 'e')
  let whole := mantissa.takeWhile Char.isDigit
  let fraction := mantissa.dropWhile Char.isDigit
  let fractionFits :=
    match fraction with
    | [] => !whole.isEmpty
    | c :: digits => c == '.' && digits.all Char.isDigit && !(whole.isEmpty && digits.isEmpty)
  let exponentFits :=
    match lowered.dropWhile (· != 'e') with
    | [] => true
    | _ :: '+' :: digits => (Text.natural? digits).isSome
    | _ :: '-' :: digits => (Text.natural? digits).isSome
    | _ :: digits => (Text.natural? digits).isSome
  (fractionFits && exponentFits) ||
    ["inf", "infinity", "nan"].contains (String.ofList lowered)

/-- Whether a text can be the value of a field.  A value is a truth value, a number or
a pattern; of these, only a number with a plus sign is not written like a pattern. -/
def isValue (text : List Char) : Bool :=
  Text.Pattern.isWellFormed text ||
    match text with
    | '+' :: number => isUnsignedNumber number
    | _ => false

/-- The field that a text describes. -/
def parse (text : List Char) : Except LogFilterError LogField :=
  match Text.cut '=' text with
  | none => if text = [] then .error .malformed else .ok ⟨text, none⟩
  | some (name, rest) =>
      let value := rest.takeWhile (· != '=')
      if isValue value then .ok ⟨name, some value⟩ else .error .malformed

end LogField

/-- A level for some of the lines. -/
structure LogDirective where
  /-- What the target of a line has to begin with. -/
  target : List Char
  /-- The span that a line has to be inside of. -/
  span : Option (List Char)
  /-- The field that a line has to carry. -/
  field : Option LogField
  level : LogLevel
deriving DecidableEq, Repr

namespace LogDirective

/-- The directive that keeps everything. -/
def everything : LogDirective := ⟨[], none, none, .trace⟩

/-- The characters that the target or level of a directive may begin with. -/
def mayBegin (c : Char) : Bool :=
  isWordChar c || c == '-' || c == ':'

/-- Text that is still to be read.  A text is looked at without the blanks around it,
but its parts are cut out of the whole text at the same positions.  So leading blanks
put every part of a directive out of place. -/
structure Source where
  whole : List Char
  /-- What is still to be looked at. -/
  ahead : List Char
  /-- The position of what is ahead, in bytes. -/
  position : Nat
deriving DecidableEq, Repr

namespace Source

/-- A text of which nothing has been read. -/
def ofText (text : List Char) : Source := ⟨text, Text.trim text, 0⟩

/-- What is cut out, unless a character would be cut. -/
def aligned (part : Option (List Char)) : Except LogFilterError (List Char) :=
  match part with
  | some text => .ok text
  | none => .error .insideCharacter

/-- All that is left of the whole text. -/
def text (source : Source) : Except LogFilterError (List Char) :=
  aligned (Text.dropBytes? source.position source.whole)

/-- The source after its first character. -/
def tail (source : Source) : Source :=
  let next := source.ahead.take 1
  ⟨source.whole, source.ahead.drop 1, source.position + Text.byteLength next⟩

/-- The part up to the first mark, the mark, and what comes after it. -/
def upTo? (isMark : Char → Bool) (source : Source) :
    Option (Except LogFilterError (List Char) × Char × Source) :=
  match source.ahead.dropWhile (!isMark ·) with
  | [] => none
  | mark :: rest =>
      let stop :=
        source.position + Text.byteLength (source.ahead.takeWhile (!isMark ·))
      some (aligned (Text.slice? source.position stop source.whole), mark,
        ⟨source.whole, rest, stop + mark.utf8Size⟩)

end Source

/-- The directive with the level that the rest spells.  Without a rest, everything is
kept. -/
def withLevel (d : LogDirective) (rest : Source) : Except LogFilterError LogDirective := do
  let text ← rest.text
  if text = [] then .ok d
  else
    match LogLevel.parse? text with
    | some level => .ok { d with level := level }
    | none => .error .malformed

/-- The directive after the closing bracket of its span. -/
def afterSpan (d : LogDirective) (rest : Source) : Except LogFilterError LogDirective :=
  match rest.ahead with
  | [] => .ok d
  | c :: _ => if c = '=' then d.withLevel rest.tail else .error .malformed

/-- The directive after the closing brace of its field. -/
def afterField (d : LogDirective) (rest : Source) : Except LogFilterError LogDirective :=
  match rest.ahead with
  | [] => .error .malformed
  | c :: _ => if c = ']' then d.afterSpan rest.tail else .error .malformed

/-- The directive with the field that follows. -/
def withField (d : LogDirective) (rest : Source) : Except LogFilterError LogDirective :=
  match rest.upTo? (· == '\x7d') with
  | none => .error .malformed
  | some (text, _, rest) => do
      let field ← LogField.parse (← text)
      afterField { d with field := some field } rest

/-- The directive with the span that follows. -/
def withSpan (d : LogDirective) (rest : Source) : Except LogFilterError LogDirective :=
  match rest.upTo? fun c => c == ']' || c == '\x7b' with
  | none => .error .malformed
  | some (text, mark, rest) => do
      let name ← text
      if mark = ']' then afterSpan { d with span := some name } rest
      else withField { d with span := if name = [] then none else some name } rest

/-- The directive that begins with a target, or is a target or a level alone. -/
def ofTarget (source : Source) : Except LogFilterError LogDirective :=
  match source.upTo? fun c => c == '=' || c == '[' with
  | some (text, mark, rest) => do
      let d := { everything with target := ← text }
      if mark = '=' then d.withLevel rest else d.withSpan rest
  | none => do
      let text ← source.text
      match LogLevel.parse? text with
      | some level => .ok { everything with level := level }
      | none => .ok { everything with target := text }

/-- The directive that a text describes. -/
def parse (text : List Char) : Except LogFilterError LogDirective :=
  let source := Source.ofText text
  match source.ahead with
  | [] => .error .malformed
  | c :: _ =>
      if c = '[' then everything.withSpan source.tail
      else if mayBegin c then ofTarget source
      else .error .malformed

/-- Whether a directive applies to a line.  The value of a field is known inside of
spans only. -/
def appliesTo (d : LogDirective) (line : LogLine) : Bool :=
  d.target.isPrefixOf line.target.toList && d.span.isNone &&
    d.field.all fun field =>
      field.value.isNone && line.fields.contains (String.ofList field.name)

/-- Whether a directive is less specific than another that applies to the same
line. -/
def lessSpecific (d e : LogDirective) : Bool :=
  if d.target.length = e.target.length then
    match d.field, e.field with
    | _, none => false
    | none, some _ => true
    | some f, some g => String.ofList f.name < String.ofList g.name
  else d.target.length < e.target.length

end LogDirective

/-- Directives in order. -/
abbrev LogFilter := List LogDirective

namespace LogFilter

/-- The filter that a text describes. -/
def parse (text : String) : Except LogFilterError LogFilter :=
  ((Text.pieces ',' text.toList).filter (· ≠ [])).mapM LogDirective.parse

/-- The filter that the first well-formed one of several texts describes, or the empty
filter.  There is none if a text before it would have to be cut inside of a
character. -/
def choose? : List String → Option LogFilter
  | [] => some []
  | text :: rest =>
      match parse text with
      | .ok filter => some filter
      | .error .malformed => choose? rest
      | .error .insideCharacter => none

/-- The directive for a line: of those that apply, the most specific one, and of
equals the last. -/
def directive? (filter : LogFilter) (line : LogLine) : Option LogDirective :=
  (filter.filter (·.appliesTo line)).foldl
    (fun best d =>
      match best with
      | some b => if d.lessSpecific b then some b else some d
      | none => some d)
    none

/-- Whether a line is written. -/
def allows (filter : LogFilter) (line : LogLine) : Bool :=
  (filter.directive? line).any fun d => line.level.rank ≤ d.level.rank

end LogFilter

end QmlAssist
