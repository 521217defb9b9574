/-
SyntaxCorpus.Number.Shortest — the fewest decimal digits that read back.

Every real number in an interval around a floating-point number rounds to it;
the ends belong to the interval when its rank is even. The shortest decimal is
on the coarsest decimal grid with a point in the interval, and there it is the
point nearest to the number, a tie going to the even point. On any grid one of
the two neighbours of the number is in the interval if any point is, so only
these two are tried.

* `Interval`, `intervalOf` — the interval of a rank.
* `onGrid?` — the point to take on one grid.
* `shortest` — the digits and the decimal exponent of a positive rank.
-/
import SyntaxCorpus.Number.Binary64

namespace SyntaxCorpus.Binary64

/-- The numbers that round to one rank, in half units. -/
structure Interval where
  low : Nat
  value : Nat
  high : Nat
  closed : Bool

/-- The interval of a positive rank. -/
def intervalOf (rank : Nat) : Interval where
  low := units (rank - 1) + units rank
  value := 2 * units rank
  high := units rank + units (rank + 1)
  closed := rank % 2 == 0

/-- Whether `point / scale` half units is in the interval. -/
def Interval.has (i : Interval) (point scale : Nat) : Bool :=
  if i.closed then i.low * scale ≤ point && point ≤ i.high * scale
  else i.low * scale < point && point < i.high * scale

/-- Half units in one. -/
def halfUnitsPerOne : Nat := 2 * unitsPerOne

/-- The distance between two natural numbers. -/
def distance (a b : Nat) : Nat := (a - b) + (b - a)

/-- The multiple of 10 ^ `exponent` to write for an interval, if one lies in
it: the nearer of the two neighbours of the value, or the even one. -/
def onGrid? (i : Interval) (exponent : Int) : Option Nat :=
  let step := halfUnitsPerOne * Nat.pow 10 exponent.toNat
  let scale := Nat.pow 10 (-exponent).toNat
  let below := i.value * scale / step
  let above := below + 1
  match i.has (below * step) scale, i.has (above * step) scale with
  | true, true =>
    let d := distance (below * step) (i.value * scale)
    let e := distance (above * step) (i.value * scale)
    if d < e then some below
    else if e < d then some above
    else some (if below % 2 == 0 then below else above)
  | true, false => some below
  | false, true => some above
  | false, false => none

/-- The first grid with a point in the interval, from the exponent `top`
downwards, with that point. -/
def searchGrids (i : Interval) (top : Int) : Nat → Nat × Int
  | 0 => (0, top)
  | fuel + 1 =>
    match onGrid? i top with
    | some d => (d, top)
    | none => searchGrids i (top - 1) fuel

/-- The shortest decimal of a positive rank: its digits as a number, and the
power of ten to multiply it by. No number reaches 10³⁰⁹, and every number is a
multiple of 10⁻¹⁰⁷⁴, so the search ends. -/
def shortest (rank : Nat) : Nat × Int :=
  searchGrids (intervalOf rank) 309 1400

end SyntaxCorpus.Binary64
