/-
SyntaxCorpus.Console.Line — what a console prints of a text.

Characters that ring, move back or feed the page are left out. A tab is filled
up with spaces to the next of its stops, which are eight columns apart. A line
that is wider than the console is broken between words; a word that is wider
than the console starts on a line of its own and is broken where a line is
full.

* `expandTabs` — a line without tabs.
* `breakLine` — a line in lines that fit.
* `printed` — a text as it is printed on a console of some width, with a line break
  after it.
-/
import SyntaxCorpus.Console.CellWidth
import SyntaxCorpus.Text.Blank
import SyntaxCorpus.Text.Split

namespace SyntaxCorpus.Console

/-- Whether a character controls the console and is left out. -/
def isControl (c : Char) : Bool := [7, 8, 11, 12, 13].contains c.toNat

/-- The distance of the stops of tabs. -/
def tabWidth : Nat := 8

/-- A line from a column on, with spaces for its tabs. -/
def expandTabs (column : Nat) : List Char → List Char
  | [] => []
  | c :: cs =>
    if c == '\t' then
      let width := tabWidth - column % tabWidth
      List.replicate width ' ' ++ expandTabs (column + width) cs
    else c :: expandTabs (column + cellWidth c) cs

/-- The words of a line, each with the blanks after it; the first one has the
blanks before it, too. `word` is what was read of the current word, the last
character first. -/
def wordsAfter (word : List Char) : List Char → List (List Char)
  | [] => [word.reverse]
  | c :: cs =>
    let isComplete := (word.head?.map Text.isBlank) == some true && !word.all Text.isBlank
    if isComplete && !Text.isBlank c then word.reverse :: wordsAfter [c] cs
    else wordsAfter (c :: word) cs

/-- A word in parts that fill the width. `part` is what was read of the current
part, the last character first, with its width. -/
def chopAfter (width : Nat) (part : List Char) (column : Nat) : List Char → List (List Char)
  | [] => [part.reverse]
  | c :: cs =>
    if width < column + cellWidth c then part.reverse :: chopAfter width [c] (cellWidth c) cs
    else chopAfter width (c :: part) (column + cellWidth c) cs

/-- A word without the blanks at its end. -/
def withoutBlankEnd (word : List Char) : List Char :=
  (word.reverse.dropWhile Text.isBlank).reverse

/-- Lines that hold some words, after a line that ends at a column. -/
def fillLines (width : Nat) (line : List Char) (column : Nat) :
    List (List Char) → List (List Char)
  | [] => [line]
  | word :: words =>
    let size := cellLength (withoutBlankEnd word)
    if column + size ≤ width then
      fillLines width (line ++ word) (column + cellLength word) words
    else if width < size then
      let parts := chopAfter width [] 0 word
      let last := parts.getLast?.getD []
      (if line.isEmpty then [] else [line]) ++ parts.dropLast ++
        fillLines width last (cellLength last) words
    else line :: fillLines width word (cellLength word) words

/-- A line without the blanks at its end that stand beyond the width. -/
def dropBlankExcess (width : Nat) (line : List Char) : List Char :=
  let blanks := (line.reverse.takeWhile Text.isBlank).length
  line.take (line.length - min blanks (line.length - width))

/-- What fits into some columns. A wide character that fits by half becomes a
space. -/
def crop (columns : Nat) : List Char → List Char
  | [] => []
  | c :: cs =>
    if cellWidth c ≤ columns then c :: crop (columns - cellWidth c) cs
    else List.replicate columns ' '

/-- A line in lines that fit. -/
def breakLine (width : Nat) (line : List Char) : List (List Char) :=
  (fillLines width [] 0 (wordsAfter [] line)).map fun l => crop width (dropBlankExcess width l)

/-- The lines that a text has on a console of some width. -/
def linesOf (width : Nat) (s : String) : List (List Char) :=
  (Text.splitOn '\n' (s.toList.filter (!isControl ·))).flatMap fun l =>
    breakLine width (expandTabs 0 l)

/-- A text as it is printed. A console without columns shows nothing. -/
def printed (width : Nat) (s : String) : String :=
  if width = 0 then ""
  else String.intercalate "\n" ((linesOf width s).map String.ofList) ++ "\n"

end SyntaxCorpus.Console
