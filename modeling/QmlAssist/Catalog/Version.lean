import QmlAssist.Text.Digits
import QmlAssist.Text.Pieces

/-!
# Module versions

A version is written as numbers joined by dots, such as `2.15`.  Version texts
come from exports and from import clauses and may hold anything, so only their
leading number is read: `2.15 as Controls` means `2.15`.

## Main Definitions

* `Version.parse?` — the leading version of a text.
* `Version.cmp` — comparison, number by number.
* `Version.satisfies` — whether an available version serves a requested one.
-/

namespace QmlAssist

/-- The numbers of a version, without superfluous zeros at its end. -/
structure Version where
  numbers : List Nat
deriving DecidableEq, Repr

namespace Version

/-- Numbers from this bound on, which need more than 32 bits, are not read. -/
def numberBound : Nat := 0x100000000

/-- The number that a text of ASCII digits denotes, if it is below the bound. -/
def number? (digits : List Char) : Option Nat :=
  let n := Text.digitsValue digits
  if n < numberBound then some n else none

/-- The characters that a version text consists of. -/
def isVersionChar (c : Char) : Bool :=
  c.isDigit || c == '.'

/-- The digit texts that a version text begins with, up to the first empty one. -/
def digitTexts (text : String) : List (List Char) :=
  (Text.pieces '.' ((Text.trimStart text.toList).takeWhile isVersionChar)).takeWhile (· ≠ [])

/-- Drop zeros at the end, but keep the first number. -/
def dropTrailingZeros : List Nat → List Nat
  | [] => []
  | n :: rest => n :: (rest.reverse.dropWhile (· = 0)).reverse

/-- The version that a text begins with.  There is none if the text does not
begin with a digit, or if a number is too large. -/
def parse? (text : String) : Option Version := do
  let numbers ← (digitTexts text).mapM number?
  if numbers = [] then none else some ⟨dropTrailingZeros numbers⟩

/-- Compare number by number; a version that ends first is the smaller one. -/
def cmpNumbers : List Nat → List Nat → Ordering
  | [], [] => .eq
  | [], _ :: _ => .lt
  | _ :: _, [] => .gt
  | a :: as, b :: bs => (compare a b).then (cmpNumbers as bs)

/-- Comparison of versions. -/
def cmp (a b : Version) : Ordering :=
  cmpNumbers a.numbers b.numbers

/-- Whether a module of version `available` serves an import that asks for
`requested`.  A request without version accepts every module, and a module
without version serves every request. -/
def satisfies (available requested : String) : Bool :=
  match parse? requested, parse? available with
  | some r, some a => (a.cmp r).isLE
  | _, _ => true

/-- Comparison of version texts, in which a text without version stands last. -/
def cmpTexts (a b : String) : Ordering :=
  match parse? a, parse? b with
  | some a, some b => a.cmp b
  | some _, none => .lt
  | none, some _ => .gt
  | none, none => .eq

end Version

end QmlAssist
