/-
SyntaxCorpus.Text.Quoted — a text between quotes, as messages show it.

The quote is `'`, or `"` for a text with `'` and without `"`. Inside, the
quote and the backslash are written after a backslash, the tab and the two
line breaks by a letter, and every other unprintable character by its code
point in two, four or eight hexadecimal digits.
-/
import SyntaxCorpus.Text.Printable

namespace SyntaxCorpus.Text

/-- A number in hexadecimal with at least `width` digits. -/
def hexPadded (width n : Nat) : String :=
  let digits := Nat.toDigits 16 n
  String.ofList (List.replicate (width - digits.length) '0' ++ digits)

/-- The quote that a text is shown in. -/
def quoteFor (s : String) : Char :=
  if s.toList.contains '\'' && !s.toList.contains '"' then '"' else '\''

/-- How one character of a text is shown between two quotes. -/
def showQuotedChar (quote c : Char) : String :=
  if c == quote || c == '\\' then String.ofList ['\\', c]
  else if c == '\n' then "\\n"
  else if c == '\r' then "\\r"
  else if c == '\t' then "\\t"
  else if isPrintable c then c.toString
  else
    let n := c.toNat
    if n < 0x100 then "\\x" ++ hexPadded 2 n
    else if n < 0x10000 then "\\u" ++ hexPadded 4 n
    else "\\U" ++ hexPadded 8 n

/-- A text as messages show it. -/
def quoted (s : String) : String :=
  let quote := quoteFor s
  quote.toString ++ String.join (s.toList.map (showQuotedChar quote)) ++ quote.toString

/-- A list of texts as messages show it. -/
def quotedList (xs : List String) : String :=
  "[" ++ String.intercalate ", " (xs.map quoted) ++ "]"

end SyntaxCorpus.Text
