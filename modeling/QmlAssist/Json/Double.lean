import QmlAssist.Json.Numeral

/-!
# Doubles

A JSON number that is no integer of 64 bits counts as a double.  It is read digit by
digit: the leading digits are taken as a double, which a power of ten scales.  It is
written with the fewest digits that tell it from all other doubles.

## Main Definitions

* `Double` — a natural number times a power of two.
* `Double.ofRatio` — the double nearest to a ratio.
* `Double.ofNumeral` — the double that a text stands for.
* `Double.shortest`, `Double.render` — the fewest digits, and the text with them.
-/

namespace QmlAssist.Json

/-- A double without its sign: `significand` times two to the power `exponent`. -/
structure Double where
  significand : Nat
  exponent : Int
deriving DecidableEq, Repr

/-- A ratio of natural numbers. -/
structure Ratio where
  num : Nat
  den : Nat
deriving DecidableEq, Repr

namespace Ratio

/-- A power, also with a negative exponent. -/
def power (base : Nat) (exponent : Int) : Ratio :=
  if 0 ≤ exponent then ⟨Nat.pow base exponent.toNat, 1⟩
  else ⟨1, Nat.pow base (-exponent).toNat⟩

/-- The product of two ratios. -/
def mul (a b : Ratio) : Ratio := ⟨a.num * b.num, a.den * b.den⟩

/-- The quotient of two ratios. -/
def div (a b : Ratio) : Ratio := ⟨a.num * b.den, a.den * b.num⟩

/-- Comparison of ratios by cross multiplication. -/
def cmp (a b : Ratio) : Ordering := compare (a.num * b.den) (b.num * a.den)

/-- The natural number below a ratio. -/
def floor (a : Ratio) : Nat := a.num / a.den

/-- The natural number nearest to a ratio, half to even. -/
def round (a : Ratio) : Nat :=
  let below := a.num / a.den
  match compare (2 * (a.num % a.den)) a.den with
  | .lt => below
  | .eq => below + below % 2
  | .gt => below + 1

end Ratio

namespace Double

/-- The exponent of the smallest doubles. -/
def minExponent : Int := -1074

/-- The number of values that a significand can have. -/
def significandBound : Nat := Nat.pow 2 53

/-- The double nearest to a ratio. -/
def ofRatio (r : Ratio) : Double :=
  if r.num = 0 then ⟨0, minExponent⟩
  else
    let guess : Int := (r.num.log2 : Int) - r.den.log2 - 53
    let tooFine := significandBound ≤ (r.div (Ratio.power 2 guess)).floor
    let exponent := max (if tooFine then guess + 1 else guess) minExponent
    ⟨(r.div (Ratio.power 2 exponent)).round, exponent⟩

/-- The value of a double. -/
def value (d : Double) : Ratio :=
  (⟨d.significand, 1⟩ : Ratio).mul (Ratio.power 2 d.exponent)

/-- The double nearest to a power of ten. -/
def powerOfTen (exponent : Nat) : Double :=
  ofRatio ⟨Nat.pow 10 exponent, 1⟩

/-- The greatest power of ten among the doubles. -/
def maxPower : Nat := 308

/-- A double scaled down by a power of ten, in as many divisions as it takes.  Five
divisions leave nothing of any double. -/
def scaleDown : Nat → Nat → Double → Double
  | 0, _, _ => ⟨0, minExponent⟩
  | steps + 1, places, d =>
      if places ≤ maxPower then ofRatio (d.value.div (powerOfTen places).value)
      else scaleDown steps (places - maxPower) (ofRatio (d.value.div (powerOfTen maxPower).value))

/-- The double that a number stands for, without its sign. -/
def ofNumeral (n : Numeral) : Double :=
  let (significand, exponent) := n.scaled
  let d := ofRatio ⟨significand, 1⟩
  if 0 ≤ exponent then ofRatio (d.value.mul (powerOfTen exponent.toNat).value)
  else scaleDown 5 (-exponent).toNat d

/-- The number of decimal digits before the point of a number that is at least one;
below one, the number of zeros after the point, as a negative number. -/
def magnitude (r : Ratio) : Int :=
  if r.den ≤ r.num then ((toString r.floor).length : Int)
  else
    Int.negOfNat ((List.range 400).findIdx fun n => r.den ≤ r.num * Nat.pow 10 (n + 1))

/-- Whether a decimal is nearer to a double than to any other.  Ties go to even
significands. -/
def isNearest (d : Double) (decimal : Ratio) : Bool :=
  let unit := Ratio.power 2 (d.exponent - 2)
  let isSmallest := d.significand = Nat.pow 2 52 && minExponent < d.exponent
  let low := unit.mul ⟨4 * d.significand - (if isSmallest then 1 else 2), 1⟩
  let high := unit.mul ⟨4 * d.significand + 2, 1⟩
  let even := d.significand % 2 = 0
  match low.cmp decimal, decimal.cmp high with
  | .lt, .lt => true
  | .eq, _ => even
  | _, .eq => even
  | _, _ => false

/-- The decimal of the given number of digits for a double, if one is nearest to it:
the digits and the exponent of ten.  A power of ten needs one digit only. -/
def decimal? (d : Double) (magnitude : Int) (digits : Nat) : Option (Nat × Int) :=
  let exponent := magnitude - digits
  let unit := Ratio.power 10 exponent
  let exact := d.value.div unit
  let below := exact.floor
  let fits := fun n => 0 < n && d.isNearest (unit.mul ⟨n, 1⟩)
  let nearer := exact.round
  let farther := if nearer = below then below + 1 else below
  let normal := fun n => if n = Nat.pow 10 digits then (1, magnitude) else (n, exponent)
  if fits nearer then some (normal nearer)
  else if fits farther then some (normal farther)
  else none

/-- The fewest digits that stand for a double, and the exponent of ten.  Seventeen
digits are always enough. -/
def shortest (d : Double) : Nat × Int :=
  let size := magnitude d.value
  ((List.range 17).findSome? fun n => d.decimal? size (n + 1)).getD (0, 0)

/-- Digits are written out up to this place before the point. -/
def maxPlain : Int := 16

/-- Digits are written out down to this number of zeros after the point. -/
def minPlain : Int := -5

/-- The text of a double.  Very large and very small ones are written with an
exponent. -/
def render (d : Double) : String :=
  if d.significand = 0 then "0.0"
  else
    let (whole, exponent) := d.shortest
    let digits := (toString whole).toList
    let point : Int := digits.length + exponent
    let zeros := fun (n : Int) => List.replicate n.toNat '0'
    if 0 ≤ exponent ∧ point ≤ maxPlain then
      String.ofList (digits ++ zeros exponent ++ ['.', '0'])
    else if 0 < point ∧ point ≤ maxPlain then
      String.ofList (digits.take point.toNat ++ '.' :: digits.drop point.toNat)
    else if minPlain < point ∧ point ≤ 0 then
      String.ofList (['0', '.'] ++ zeros (-point) ++ digits)
    else
      let fraction := if digits.length = 1 then [] else '.' :: digits.drop 1
      String.ofList (digits.take 1 ++ fraction) ++ "e" ++ toString (point - 1)

end Double

/-- The integer that the text of a number stands for, if it has 64 bits.  The negative
zero is no integer. -/
def integer? (literal : String) : Option Int :=
  match literal.toList with
  | '-' :: digits =>
      (Text.natural? digits).bind fun n =>
        if 0 < n ∧ n ≤ 0x8000000000000000 then some (-(n : Int)) else none
  | digits =>
      (Text.natural? digits).bind fun n =>
        if n < 0x10000000000000000 then some (n : Int) else none

/-- The text of a number by its value: an integer, or else a double. -/
def numberText (literal : String) : String :=
  match integer? literal with
  | some n => toString n
  | none =>
      match Numeral.read? literal.toList with
      | some (n, _) => (if n.negative then "-" else "") ++ (Double.ofNumeral n).render
      | none => literal

end QmlAssist.Json
