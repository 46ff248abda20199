/-!
# Decimal digits

Natural numbers as texts of the ten ASCII digits.

## Main Definitions

* `digitsValue` — the number that digits denote.
* `natural?` — the number that a text denotes, if it consists of digits.
-/

namespace QmlAssist.Text

/-- The value of a digit. -/
def digitValue (c : Char) : Nat :=
  c.toNat - '0'.toNat

/-- The value of a text of digits. -/
def digitsValue (digits : List Char) : Nat :=
  digits.foldl (fun n c => 10 * n + digitValue c) 0

/-- The value of a text that consists of digits, of which there is at least one. -/
def natural? (text : List Char) : Option Nat :=
  if text ≠ [] ∧ text.all Char.isDigit then some (digitsValue text) else none

end QmlAssist.Text
