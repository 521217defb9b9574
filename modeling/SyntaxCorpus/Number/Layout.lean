/-
SyntaxCorpus.Number.Layout — how a floating-point number is written.

The digits are always the shortest ones. A `FloatLayout` fixes the rest: which
numbers are written without an exponent, how wide an exponent is, and what
stands for the values that have no digits. A number without a fraction keeps
`.0` unless it has an exponent, and a zero keeps its sign.
-/
import SyntaxCorpus.Number.Shortest

namespace SyntaxCorpus

/-- The decisions of one way to write floating-point numbers. -/
structure FloatLayout where
  /-- The least exponent of a leading digit that is written by position. -/
  leastPositional : Int
  /-- The exponent of a leading digit from which an exponent is written. -/
  leastScientific : Int
  /-- The least number of digits of a written exponent. -/
  exponentWidth : Nat
  nan : String
  infinity : String
  minusInfinity : String

namespace FloatLayout

/-- The decimal digits of a number. -/
def digitsOf (n : Nat) : List Char := Nat.toDigits 10 n

/-- Digits with a point after the first `whole` of them. Missing digits are
zeros, and each side of the point has at least one digit. -/
def withPoint (digits : List Char) (whole : Int) : List Char :=
  if whole ≤ 0 then '0' :: '.' :: (List.replicate (-whole).toNat '0' ++ digits)
  else
    let n := whole.toNat
    let front := digits.take n ++ List.replicate (n - digits.length) '0'
    let back := digits.drop n
    front ++ '.' :: (if back.isEmpty then ['0'] else back)

/-- An exponent with its sign and at least `width` digits. -/
def exponentText (width : Nat) (e : Int) : List Char :=
  let digits := digitsOf e.natAbs
  'e' :: (if e < 0 then '-' else '+') ::
    (List.replicate (width - digits.length) '0' ++ digits)

/-- The digits and the exponent of a positive decimal, laid out. -/
def decimalText (layout : FloatLayout) (digits : List Char) (exponent : Int) : List Char :=
  let lead := exponent + digits.length - 1
  if layout.leastPositional ≤ lead && lead < layout.leastScientific then
    withPoint digits (lead + 1)
  else
    let mantissa := match digits with
      | [] => []
      | [d] => [d]
      | d :: ds => d :: '.' :: ds
    mantissa ++ exponentText layout.exponentWidth lead

/-- A floating-point number, written. -/
def write (layout : FloatLayout) : Binary64 → String
  | .nan => layout.nan
  | .infinite false => layout.infinity
  | .infinite true => layout.minusInfinity
  | .finite negative rank =>
    let magnitude :=
      if rank.val = 0 then ['0', '.', '0']
      else
        let (digits, exponent) := Binary64.shortest rank.val
        layout.decimalText (digitsOf digits) exponent
    String.ofList (if negative then '-' :: magnitude else magnitude)

end FloatLayout
end SyntaxCorpus
