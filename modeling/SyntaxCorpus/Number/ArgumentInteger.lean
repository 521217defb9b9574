/-
SyntaxCorpus.Number.ArgumentInteger — integers as arguments give them.

Blanks may stand around the integer, a sign in front of it and single underscores
between its digits. The digits may be those of any script, and zeros in front count like
other digits.

* `decimalZeros`, `digitValue?` — the decimal digits of Unicode.
* `argumentInteger?` — the integer of an argument.
-/
import SyntaxCorpus.Number.IntegerText

namespace SyntaxCorpus

/-- The zero of every script with decimal digits; the other nine come after it. -/
def decimalZeros : List Nat :=
  [0x30, 0x660, 0x6F0, 0x7C0, 0x966, 0x9E6, 0xA66, 0xAE6, 0xB66, 0xBE6, 0xC66, 0xCE6, 0xD66,
    0xDE6, 0xE50, 0xED0, 0xF20, 0x1040, 0x1090, 0x17E0, 0x1810, 0x1946, 0x19D0, 0x1A80,
    0x1A90, 0x1B50, 0x1BB0, 0x1C40, 0x1C50, 0xA620, 0xA8D0, 0xA900, 0xA9D0, 0xA9F0, 0xAA50,
    0xABF0, 0xFF10, 0x104A0, 0x10D30, 0x11066, 0x110F0, 0x11136, 0x111D0, 0x112F0, 0x11450,
    0x114D0, 0x11650, 0x116C0, 0x11730, 0x118E0, 0x11950, 0x11C50, 0x11D50, 0x11DA0,
    0x16A60, 0x16AC0, 0x16B50, 0x1D7CE, 0x1D7D8, 0x1D7E2, 0x1D7EC, 0x1D7F6, 0x1E140,
    0x1E2F0, 0x1E950, 0x1FBF0]

/-- The value of a decimal digit of any script. -/
def digitValue? (c : Char) : Option Nat :=
  (decimalZeros.find? fun first => first ≤ c.toNat && c.toNat < first + 10).map (c.toNat - ·)

/-- The values of digits, the underscores between them left out. `isDigitBefore` tells
whether an underscore may come next. -/
def digitValues? (isDigitBefore : Bool) : List Char → Option (List Nat)
  | [] => if isDigitBefore then some [] else none
  | '_' :: cs => if isDigitBefore then digitValues? false cs else none
  | c :: cs => do
    let value ← digitValue? c
    return value :: (← digitValues? true cs)

/-- The integer of an argument. It has no more digits than integers are written with. -/
def argumentInteger? (s : String) : Option Int := do
  let (negative, rest) := scanSign (Text.strip s).toList
  let values ← digitValues? false rest
  guard (values.length ≤ maxWrittenDigits)
  let n : Nat := values.foldl (fun n value => n * 10 + value) 0
  return if negative then -(n : Int) else n

/-- Blanks, a sign, zeros in front and underscores are no part of the number. -/
example : argumentInteger? " +0_05 " = some 5 ∧ argumentInteger? "٣" = some 3 ∧
    argumentInteger? "5.0" = none ∧ argumentInteger? "1__0" = none := by decide +kernel

end SyntaxCorpus
