/-! Sets of characters and case mappings, written as runs of code points. -/

namespace WireDictionary.Text

/-- The code points from `first` to `last`, both included. -/
structure CodeRange where
  first : Nat
  last : Nat
  deriving DecidableEq, Repr

def CodeRange.holds (ranges : List CodeRange) (c : Char) : Bool :=
  ranges.any fun r => r.first ≤ c.toNat && c.toNat ≤ r.last

/-- Every `step`-th code point from `first` to `last`, carried to the code point at the same
distance from `target`. -/
structure CaseRun where
  first : Nat
  last : Nat
  step : Nat
  target : Nat
  deriving DecidableEq, Repr

/-- The code point that a run carries `n` to, if the run holds `n`. -/
def CaseRun.image? (r : CaseRun) (n : Nat) : Option Nat :=
  if r.first ≤ n ∧ n ≤ r.last ∧ (n - r.first) % r.step = 0 then some (n - r.first + r.target)
  else none

/-- The single character that the first matching run carries `c` to. -/
def CaseRun.find? (runs : List CaseRun) (c : Char) : Option Char :=
  (runs.findSome? (·.image? c.toNat)).map Char.ofNat

end WireDictionary.Text
