/-
SyntaxCorpus.Number.Binary64 — 64-bit binary floating-point numbers.

A finite number is a sign and a rank: the position of its magnitude among the
non-negative finite numbers in ascending order. Rank 0 is zero, rank 1 the
least positive number, and neighbours in value are neighbours in rank. Every
finite number is a whole multiple of the least positive one, so `units`, the
factor, gives its value exactly as a natural number.

* `Binary64`, `units` — the numbers and their values in units of 2⁻¹⁰⁷⁴.
* `nearestRank` — the rank whose value is nearest to a fraction, a tie going
  to the even rank.
* `ofDecimal` — the number nearest to a decimal.
* `toInt?` — the integer that a number is.
-/
namespace SyntaxCorpus

/-- How many magnitudes are finite: 2047 binary exponents of 2⁵² each. -/
def Binary64.rankCount : Nat := 2047 * Nat.pow 2 52

/-- A 64-bit binary floating-point number. -/
inductive Binary64
  | finite (negative : Bool) (rank : Fin Binary64.rankCount)
  | infinite (negative : Bool)
  | nan
  deriving DecidableEq

namespace Binary64

/-- The value of a rank, as a multiple of the least positive number. Below
2⁵² the ranks count the multiples; above, each block of 2⁵² ranks has steps
twice as wide as the block before it. -/
def units (rank : Nat) : Nat :=
  let block := Nat.pow 2 52
  if rank < block then rank
  else (block + rank % block) * Nat.pow 2 (rank / block - 1)

/-- How many units make one. -/
def unitsPerOne : Nat := Nat.pow 2 1074

/-- The greatest rank whose value is at most this many units. -/
def rankBelow (u : Nat) : Nat :=
  let block := Nat.pow 2 52
  if u < 2 * block then u
  else
    let step := u.log2 - 52
    (step + 1) * block + (u / Nat.pow 2 step - block)

/-- The rank whose value is nearest to `num / den` units; of two equally near
ones, the even rank. -/
def nearestRank (num den : Nat) : Nat :=
  let r := rankBelow (num / den)
  let middle := (units r + units (r + 1)) * den
  if 2 * num < middle then r
  else if middle < 2 * num then r + 1
  else if r % 2 == 0 then r else r + 1

/-- The number of a sign and a rank; a rank beyond the finite ones is
infinite. -/
def ofRank (negative : Bool) (rank : Nat) : Binary64 :=
  if h : rank < rankCount then .finite negative ⟨rank, h⟩ else .infinite negative

/-- How many decimal digits a natural number has; zero has none. -/
def digitCount (n : Nat) : Nat :=
  if n = 0 then 0 else (Nat.toDigits 10 n).length

/-- The number nearest to `digits · 10 ^ exponent`. Magnitudes of 10³¹⁰ and
more are beyond the greatest number, and those below 10⁻³²⁶ are nearer to zero
than to the least positive one, so no power with a greater exponent is ever
formed. -/
def ofDecimal (negative : Bool) (digits : Nat) (exponent : Int) : Binary64 :=
  let order := exponent + digitCount digits
  if digits = 0 || order < -325 then ofRank negative 0
  else if 311 ≤ order then .infinite negative
  else if 0 ≤ exponent then
    ofRank negative (nearestRank (digits * Nat.pow 10 exponent.toNat * unitsPerOne) 1)
  else
    ofRank negative (nearestRank (digits * unitsPerOne) (Nat.pow 10 (-exponent).toNat))

/-- The integer that a finite number is, if it has no fraction. -/
def toInt? : Binary64 → Option Int
  | .finite negative rank =>
    let u := units rank.val
    if u % unitsPerOne == 0 then
      let n : Int := (u / unitsPerOne : Nat)
      some (if negative then -n else n)
    else none
  | _ => none

/-- Zero, whatever its sign. -/
def isZero : Binary64 → Bool
  | .finite _ rank => rank.val == 0
  | _ => false

/-- Equality of values: the two zeros are equal, and a `nan` differs from
everything. -/
def sameValue (x y : Binary64) : Bool :=
  match x, y with
  | .nan, _ => false
  | _, .nan => false
  | x, y => x == y || (x.isZero && y.isZero)

end Binary64
end SyntaxCorpus
