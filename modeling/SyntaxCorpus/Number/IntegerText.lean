/-
SyntaxCorpus.Number.IntegerText — integers as people type them.

The canonical text of an integer is an optional minus and digits without
leading zeros. A typed integer may have white space around it, a plus or a
minus, zeros in front, single underscores between digits, and a point with
zeros behind it; without these it has to be canonical. Underscores between
leading zeros go with them, however many there are.

* `readCanonical` — the integer of a canonical text that is not too long.
* `canonicalPart?` — what is left of a typed text when its decoration is taken
  away.
* `readInteger` — the integer of a typed text.
* `isWritable`, `messageWith` — integers that are not too long to be written, and
  messages that show integers.
-/
import SyntaxCorpus.Number.DecimalText
import SyntaxCorpus.Text.Blank

namespace SyntaxCorpus

/-- The greatest length of the canonical text of an integer. -/
def maxIntegerLength : Nat := 4300

/-- Why a text is read as no integer. -/
inductive IntegerTextError
  | malformed
  | tooLong
  deriving DecidableEq

/-- Whether a character is a digit other than zero. -/
def isNonzeroDigit (c : Char) : Bool := c.isDigit && c != '0'

/-- The digits of a text that starts with a digit other than zero, or a zero
alone. -/
def canonicalDigits (cs : List Char) : List Char :=
  match cs with
  | '0' :: _ => ['0']
  | cs => cs.takeWhile Char.isDigit

/-- The integer of a canonical text. -/
def readCanonical (cs : List Char) : Except IntegerTextError Int :=
  let (negative, rest) := scanMinus cs
  let digits := canonicalDigits rest
  if digits.isEmpty then .error .malformed
  else if maxIntegerLength < cs.length - rest.length + digits.length then .error .tooLong
  else if digits.length < rest.length then .error .malformed
  else
    let n : Int := natOfDigits digits
    .ok (if negative then -n else n)

/-- A text after a leading zero, without the zeros and underscores that follow.
`before` is the last character that was taken away. -/
def dropZerosAfter (before : Char) : List Char → Option (List Char)
  | [] => some [before]
  | c :: cs =>
    if c == '0' || c == '_' then dropZerosAfter c cs
    else if isNonzeroDigit c || c == '-' then some (c :: cs)
    else if c == '.' then some (before :: c :: cs)
    else none

/-- A text that starts with a digit, without its leading zeros. One zero stays
if there are no other digits before the point. -/
def dropLeadingZeros : List Char → Option (List Char)
  | '0' :: cs => dropZerosAfter '0' cs
  | c :: cs => if isNonzeroDigit c then some (c :: cs) else none
  | [] => none

/-- A text without a point that has nothing but zeros behind it. -/
def dropZeroFraction (cs : List Char) : List Char :=
  match cs.dropWhile (· != '.') with
  | '.' :: '0' :: zeros => if zeros.all (· == '0') then cs.takeWhile (· != '.') else cs
  | _ => cs

/-- Whether two underscores stand side by side. -/
def hasDoubleUnderscore : List Char → Bool
  | '_' :: '_' :: _ => true
  | _ :: cs => hasDoubleUnderscore cs
  | [] => false

/-- A text without its underscores, if each stands alone between two other
characters. -/
def dropUnderscores (cs : List Char) : List Char :=
  if cs.head? == some '_' || cs.getLast? == some '_' || hasDoubleUnderscore cs then cs
  else cs.filter (· != '_')

/-- What is left of a typed text without its decoration. -/
def canonicalPart? (s : String) : Option (List Char) :=
  let bare := match (Text.trimWhiteSpace s).toList with
    | '+' :: cs => dropLeadingZeros cs
    | '-' :: cs => (dropLeadingZeros cs).map ('-' :: ·)
    | cs => dropLeadingZeros cs
  bare.map fun cs => dropUnderscores (dropZeroFraction cs)

/-- The integer of a typed text. Only a text without any decoration is told to
be too long. -/
def readInteger (s : String) : Except IntegerTextError Int :=
  match readCanonical s.toList with
  | .ok n => .ok n
  | .error .tooLong => .error .tooLong
  | .error .malformed =>
    match (canonicalPart? s).map readCanonical with
    | some (.ok n) => .ok n
    | _ => .error .malformed

/-- The greatest number of digits of an integer that is written as text. -/
def maxWrittenDigits : Nat := 4300

/-- Whether an integer has no more digits than are written. -/
def isWritable (n : Int) : Bool := (Nat.toDigits 10 n.natAbs).length ≤ maxWrittenDigits

/-- What is said of an integer with more digits. -/
def unwritableMessage : String :=
  s!"Exceeds the limit ({maxWrittenDigits} digits) for integer string conversion; use sys.set_int_max_str_digits() to increase the limit"

/-- A message that shows integers. Where one of them is too long, this is all that is
said. -/
def messageWith (shown : List Int) (message : String) : String :=
  if shown.all isWritable then message else unwritableMessage

end SyntaxCorpus
