/-
SyntaxCorpus.Text.Blank — blank characters, the words between them, and text
on one line.

* `isWhiteSpace` — the Unicode property `White_Space`.
* `isBlank` — `White_Space` and the four information separators; what
  separates words here.
* `words`, `oneLine` — the words of a text, and the words joined by single
  spaces. A line break is blank, so the joined text is one line.
* `strip`, `trimWhiteSpace` — a text without the blanks at its two ends, for
  each of the two classes.
-/
namespace SyntaxCorpus.Text

/-- The Unicode property `White_Space`. -/
def isWhiteSpace (c : Char) : Bool :=
  let n := c.toNat
  (9 ≤ n && n ≤ 13) || n == 0x20 || n == 0x85 || n == 0xA0 || n == 0x1680
    || (0x2000 ≤ n && n ≤ 0x200A) || n == 0x2028 || n == 0x2029 || n == 0x202F
    || n == 0x205F || n == 0x3000

/-- What separates words: `White_Space` and the information separators
U+001C to U+001F. -/
def isBlank (c : Char) : Bool :=
  isWhiteSpace c || (0x1C ≤ c.toNat && c.toNat ≤ 0x1F)

/-- The maximal runs of characters that are not blank, in order. -/
def wordsOf : List Char → List (List Char)
  | [] => []
  | c :: cs =>
    if isBlank c then wordsOf cs
    else
      match cs, wordsOf cs with
      | d :: _, w :: ws => if isBlank d then [c] :: w :: ws else (c :: w) :: ws
      | _, ws => [c] :: ws

/-- The words of a text, in order. -/
def words (s : String) : List String :=
  (wordsOf s.toList).map String.ofList

/-- The words of a text joined by single spaces. -/
def oneLine (s : String) : String :=
  String.intercalate " " (words s)

/-- A list without the elements of `p` at its two ends. -/
def dropEnds (p : Char → Bool) (cs : List Char) : List Char :=
  ((cs.dropWhile p).reverse.dropWhile p).reverse

/-- A text without the blanks at its two ends. -/
def strip (s : String) : String :=
  String.ofList (dropEnds isBlank s.toList)

/-- A text without the `White_Space` at its two ends. -/
def trimWhiteSpace (s : String) : String :=
  String.ofList (dropEnds isWhiteSpace s.toList)

/-- A text with no character other than blanks. -/
def isAllBlank (s : String) : Bool :=
  s.toList.all isBlank

end SyntaxCorpus.Text
