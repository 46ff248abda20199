/-!
# Letter-case mappings

Case mappings are regular over long stretches of the character set.  A run
records one such stretch, in which either every scalar value or every second one
is shifted by the same amount.  The few characters that map to several
characters are listed one by one.

## Main Definitions

* `CaseRun` — one stretch of a mapping.
* `mapCase` — the image of a character under runs and expansions.
-/

namespace QmlAssist.Unicode

/-- The scalar values `first`, `first + stride`, … up to `last`, which map to
`target`, `target + stride`, … in the same order. -/
structure CaseRun where
  first : Nat
  last : Nat
  stride : Nat
  target : Nat
deriving DecidableEq, Repr

/-- The image of a scalar value under one run, if the run speaks of it. -/
def CaseRun.image? (run : CaseRun) (n : Nat) : Option Nat :=
  if run.first ≤ n ∧ n ≤ run.last ∧ (n - run.first) % run.stride = 0 then
    some (run.target + (n - run.first))
  else none

/-- The image of a character: its expansion if it has one, else its image under
the runs, else the character itself. -/
def mapCase (runs : List CaseRun) (expansions : List (Nat × List Nat)) (c : Char) :
    List Char :=
  match expansions.lookup c.toNat with
  | some image => image.map Char.ofNat
  | none =>
      match runs.findSome? fun run => run.image? c.toNat with
      | some n => [Char.ofNat n]
      | none => [c]

end QmlAssist.Unicode
