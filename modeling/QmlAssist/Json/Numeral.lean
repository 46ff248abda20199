import QmlAssist.Text.Digits

/-!
# JSON numbers

A number is written in decimal, and its text is kept.  It has to lie in the range
of a double: the leading digits, as many as fit into 64 bits, are taken as a
double and scaled by a power of ten, and the product must not overflow.

## Main Definitions

* `Numeral` — the parts of a number's text.
* `Numeral.read?` — the number that a text begins with.
* `Numeral.inRange` — whether it lies in the range of a double.
-/

namespace QmlAssist.Json

/-- The parts of a decimal number, digits as written. -/
structure Numeral where
  negative : Bool
  whole : List Char
  fraction : List Char
  /-- The exponent; `true` marks a negative one. -/
  exponent : Option (Bool × List Char)
deriving DecidableEq, Repr

namespace Numeral

/-- A non-empty run of digits and the text after it. -/
def digits? (cs : List Char) : Option (List Char × List Char) :=
  match cs.takeWhile Char.isDigit with
  | [] => none
  | digits => some (digits, cs.dropWhile Char.isDigit)

/-- The digits before the point: a lone zero, or digits that begin with none. -/
def whole? (cs : List Char) : Option (List Char × List Char) := do
  let (digits, rest) ← digits? cs
  if digits.head? = some '0' ∧ digits ≠ ['0'] then none else some (digits, rest)

/-- The digits after the point, if there is a point. -/
def fraction? : List Char → Option (List Char × List Char)
  | '.' :: rest => digits? rest
  | cs => some ([], cs)

/-- The sign and the digits of the exponent, if there is an exponent. -/
def exponent? : List Char → Option (Option (Bool × List Char) × List Char)
  | c :: rest =>
      if c = 'e' ∨ c = 'E' then do
        let (negative, rest) :=
          match rest with
          | '-' :: rest => (true, rest)
          | '+' :: rest => (false, rest)
          | _ => (false, rest)
        let (digits, rest) ← digits? rest
        some (some (negative, digits), rest)
      else some (none, c :: rest)
  | [] => some (none, [])

/-- The number that a text begins with, and the text after it. -/
def read? (cs : List Char) : Option (Numeral × List Char) := do
  let (negative, cs) :=
    match cs with
    | '-' :: rest => (true, rest)
    | _ => (false, cs)
  let (whole, cs) ← whole? cs
  let (fraction, cs) ← fraction? cs
  let (exponent, cs) ← exponent? cs
  some (⟨negative, whole, fraction, exponent⟩, cs)

/-- The leading digits, as long as their value fits into 64 bits, together with
the number of digits taken and the number left over. -/
def leadingDigits (start : Nat) : List Char → Nat × Nat × Nat
  | [] => (start, 0, 0)
  | c :: rest =>
      let next := 10 * start + Text.digitValue c
      if next < 0x10000000000000000 then
        let (value, taken, left) := leadingDigits next rest
        (value, taken + 1, left)
      else (start, 0, rest.length + 1)

/-- A natural number rounded to 53 binary digits, half to even. -/
def toDouble (n : Nat) : Nat :=
  if n < Nat.pow 2 53 then n
  else
    let shift := n.log2 - 52
    let kept := n / Nat.pow 2 shift
    let rest := n % Nat.pow 2 shift
    let half := Nat.pow 2 (shift - 1)
    if half < rest ∨ (rest = half ∧ kept % 2 = 1) then (kept + 1) * Nat.pow 2 shift
    else kept * Nat.pow 2 shift

/-- The leading digits of a number and the exponent of ten that goes with them. -/
def scaled (n : Numeral) : Nat × Int :=
  let (whole, _, dropped) := leadingDigits 0 n.whole
  let (value, places, _) := leadingDigits whole n.fraction
  let written : Int :=
    match n.exponent with
    | none => 0
    | some (true, digits) => -(Text.digitsValue digits : Int)
    | some (false, digits) => Text.digitsValue digits
  (value, written + dropped - places)

/-- Whether a number lies in the range of a double. -/
def inRange (n : Numeral) : Bool :=
  let (value, exponent) := n.scaled
  value = 0 || exponent < 0 ||
    (exponent ≤ 308 &&
      toDouble (toDouble value * toDouble (Nat.pow 10 exponent.toNat)) < Nat.pow 2 1024)

end Numeral

end QmlAssist.Json
