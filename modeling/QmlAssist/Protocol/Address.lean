import QmlAssist.Text.Digits
import QmlAssist.Text.Hex
import QmlAssist.Text.Pieces

/-!
# Addresses of documents

An editor names documents by addresses such as `file:///home/me/Main.qml`.  Two
spellings of one address name the same document, so addresses are compared in a normal
form: the scheme and the host in lower case, dots in paths resolved, and characters
that have no place in an address written as percent signs with two digits.

## Main Definitions

* `Address.normalize?` — the normal form of an address.
-/

namespace QmlAssist.Address

/-! ### Characters -/

/-- A byte as a percent sign and two digits. -/
def percentByte (byte : UInt8) : List Char :=
  ['%', (Text.hexDigit (byte.toNat / 16)).toUpper, (Text.hexDigit (byte.toNat % 16)).toUpper]

/-- A text in which some characters are written byte by byte. -/
def percentEncode (isEncoded : Char → Bool) (cs : List Char) : List Char :=
  cs.flatMap fun c =>
    if isEncoded c then (String.utf8EncodeChar c).flatMap percentByte else [c]

/-- Control characters and all that is not ASCII. -/
def isControl (c : Char) : Bool :=
  c.toNat < 0x20 || 0x7F ≤ c.toNat

/-- The characters that a fragment encodes. -/
def fragmentEncodes (c : Char) : Bool :=
  isControl c || [' ', '"', '<', '>', '\x60'].contains c

/-- The characters that a path encodes. -/
def pathEncodes (c : Char) : Bool :=
  fragmentEncodes c || ['#', '?', '\x7b', '\x7d'].contains c

/-- The characters that the name of a user encodes. -/
def userEncodes (c : Char) : Bool :=
  pathEncodes c || ['/', ':', ';', '=', '@', '[', '\\', ']', '^', '|'].contains c

/-- The characters that a query encodes; the apostrophe is one of them for some
schemes. -/
def queryEncodes (special : Bool) (c : Char) : Bool :=
  isControl c || [' ', '"', '#', '<', '>'].contains c || (special && c == '\x27')

/-! ### Paths -/

/-- Whether a segment stands for the place where it is. -/
def isSingleDot (segment : List Char) : Bool :=
  [".", "%2e"].contains (String.ofList (segment.map Char.toLower))

/-- Whether a segment stands for the place above. -/
def isDoubleDot (segment : List Char) : Bool :=
  ["..", ".%2e", "%2e.", "%2e%2e"].contains (String.ofList (segment.map Char.toLower))

/-- Whether a segment names a drive: a letter with a colon or a bar. -/
def isDrive : List Char → Bool
  | [letter, mark] => letter.isAlpha && (mark == ':' || mark == '|')
  | _ => false

/-- A path, the last segment first, without its last segment.  A drive stays. -/
def shorten (file : Bool) : List (List Char) → List (List Char)
  | [] => []
  | [segment] => if file && isDrive segment then [segment] else []
  | _ :: rest => rest

/-- The path that segments lead to, the last segment first.  A dot at the end leaves an
empty segment. -/
def resolve (file : Bool) (path : List (List Char)) : List (List Char) → List (List Char)
  | [] => path
  | segment :: rest =>
      let base :=
        if isDoubleDot segment then shorten file path
        else if isSingleDot segment then path
        else if file && path.isEmpty && isDrive segment then
          [segment.take 1 ++ [':']]
        else segment :: path
      if rest.isEmpty && (isDoubleDot segment || isSingleDot segment) then [] :: base
      else resolve file base rest

/-- Whether a character ends a path. -/
def endsPath (c : Char) : Bool :=
  c == '?' || c == '#'

/-- A path in normal form.  A backslash counts as a slash for some schemes. -/
def path (special file : Bool) (text : List Char) : List Char :=
  let slashes := if special then text.map fun c => if c = '\\' then '/' else c else text
  let segments := (Text.pieces '/' slashes).map (percentEncode pathEncodes)
  let segments := if slashes.head? = some '/' then segments.drop 1 else segments
  let whole := (resolve file [] segments).reverse.flatMap ('/' :: ·)
  if file then '/' :: whole.dropWhile (· == '/') else whole

/-- The query and the fragment in normal form, each with its mark. -/
def ending (special : Bool) (text : List Char) : List Char :=
  let query := text.takeWhile (· != '#')
  let fragment := text.dropWhile (· != '#')
  query.take 1 ++ percentEncode (queryEncodes special) (query.drop 1) ++
    fragment.take 1 ++ percentEncode fragmentEncodes (fragment.drop 1)

/-- A path with query and fragment, in normal form. -/
def afterHost (special file : Bool) (text : List Char) : List Char :=
  path special file (text.takeWhile (!endsPath ·)) ++
    ending special (text.dropWhile (!endsPath ·))

/-! ### Hosts -/

/-- The characters that a host cannot have. -/
def forbiddenInHost : List Char :=
  ['\x00', '\x09', '\x0a', '\x0d', ' ', '#', '/', ':', '<', '>', '?', '@', '[', '\\', ']', '^', '|']

/-- A host in normal form.  The hosts of some schemes are names of the network, which
are plain ASCII here and written in lower case. -/
def host? (special : Bool) (text : List Char) : Option (List Char) :=
  if text.any forbiddenInHost.contains then none
  else if special then
    if text.any fun c => isControl c || c == '%' then none else some (text.map Char.toLower)
  else some (percentEncode isControl text)

/-- The port that a scheme has without saying so. -/
def defaultPort? (scheme : String) : Option Nat :=
  match scheme with
  | "http" => some 80
  | "ws" => some 80
  | "https" => some 443
  | "wss" => some 443
  | "ftp" => some 21
  | _ => none

/-- A port in normal form, with its colon. -/
def port? (scheme : String) (digits : List Char) : Option (List Char) :=
  if digits = [] then some []
  else do
    let number ← Text.natural? digits
    if number ≥ 0x10000 then none
    else if defaultPort? scheme = some number then some []
    else some (':' :: (toString number).toList)

/-- User and password in normal form, with the sign after them. -/
def credentials (text : List Char) : List Char :=
  match Text.cut ':' text with
  | some (user, []) => percentEncode userEncodes user ++ (if user = [] then [] else ['@'])
  | some (user, word) =>
      percentEncode userEncodes user ++ ':' :: percentEncode userEncodes word ++ ['@']
  | none => if text = [] then [] else percentEncode userEncodes text ++ ['@']

/-- The part between the slashes and the path, in normal form. -/
def authority? (scheme : String) (special : Bool) (text : List Char) : Option (List Char) := do
  let reversed := text.reverse
  let server := (reversed.takeWhile (· != '@')).reverse
  let user := ((reversed.dropWhile (· != '@')).drop 1).reverse
  let name := server.takeWhile (· != ':')
  let host ← host? special name
  let port ← port? scheme ((server.dropWhile (· != ':')).drop 1)
  if host = [] ∧ (special ∨ port ≠ [] ∨ text.contains '@') then none
  else some (credentials user ++ host ++ port)

/-! ### Addresses -/

/-- The schemes whose addresses always have slashes. -/
def specialSchemes : List String := ["http", "https", "ws", "wss", "ftp", "file"]

/-- Whether a character is a slash, or counts as one. -/
def isSlash (special : Bool) (c : Char) : Bool :=
  c == '/' || (special && c == '\\')

/-- The address of a file, after its scheme.  The own host is not named, and neither is
a host before a drive. -/
def file? (text : List Char) : Option (List Char) :=
  match text with
  | a :: b :: after =>
      if isSlash true a && isSlash true b then do
        let name := after.takeWhile fun c => !isSlash true c && !endsPath c
        if isDrive name then some ("//".toList ++ afterHost true true after)
        else
          let host ← host? true name
          let rest := afterHost true true (after.drop name.length)
          let drive := (rest.drop 1).takeWhile (· != '/')
          let shown := if host = "localhost".toList ∨ isDrive drive then [] else host
          some ("//".toList ++ shown ++ rest)
      else some ("//".toList ++ afterHost true true text)
  | _ => some ("//".toList ++ afterHost true true text)

/-- An address with a host, after its scheme and the slashes. -/
def hosted? (scheme : String) (special : Bool) (text : List Char) : Option (List Char) := do
  let name := text.takeWhile fun c => !isSlash special c && !endsPath c
  let authority ← authority? scheme special name
  let rest := text.drop name.length
  let tail :=
    if special ∨ rest.head?.any (isSlash special) then afterHost special false rest
    else ending special rest
  some ("//".toList ++ authority ++ tail)

/-- An address without a host, after its scheme.  A dot keeps a path that begins with
two slashes from looking like a host. -/
def plain (text : List Char) : List Char :=
  if text.head? = some '/' then
    let rest := afterHost false false text
    if "//".toList.isPrefixOf rest then "/.".toList ++ rest else rest
  else
    percentEncode isControl (text.takeWhile (!endsPath ·)) ++
      ending false (text.dropWhile (!endsPath ·))

/-- The scheme of an address, in lower case, and what comes after its colon. -/
def scheme? (text : List Char) : Option (String × List Char) := do
  let (name, rest) ← Text.cut ':' text
  if name.head?.any Char.isAlpha &&
      name.all fun c => c.isAlphanum || c == '+' || c == '-' || c == '.' then
    some (String.ofList (name.map Char.toLower), rest)
  else none

/-- The text without control characters and spaces around it, and without line ends
and tabs in it. -/
def clean (text : List Char) : List Char :=
  let isOuter := fun (c : Char) => c.toNat ≤ 0x20
  let trimmed := ((text.dropWhile isOuter).reverse.dropWhile isOuter).reverse
  trimmed.filter fun c => c != '\t' && c != '\n' && c != '\r'

/-- The normal form of an address, if a text is an address. -/
def normalize? (text : String) : Option String := do
  let (scheme, rest) ← scheme? (clean text.toList)
  let rest ←
    if scheme = "file" then file? rest
    else if specialSchemes.contains scheme then
      hosted? scheme true (rest.dropWhile (isSlash true))
    else
      match rest with
      | '/' :: '/' :: rest => hosted? scheme false rest
      | _ => some (plain rest)
  some (scheme ++ ":" ++ String.ofList rest)

end QmlAssist.Address
