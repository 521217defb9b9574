/-
SyntaxCorpus.Proofs.Console.Line — what a console shows of a text.

A console breaks lines where they are full, fills tabs up and drops blanks at the ends of
lines. What is left on it is the text but for blanks: the lines of a text, put together,
are a cut of the text, a line is at most as wide as the console but for blanks at its end,
and only these are cropped. The one thing that does not fit anywhere is a character that
is wider than the console.

* `ink` — what of a text can be seen.
* `Fits`, `fits_fillLines` — a line that is cropped at blanks only.
* `flatten_chopAfter`, `flatten_wordsAfter`, `flatten_fillLines` — words, their parts and
  lines are cuts of the text.
* `ink_printed` — a console shows all of a text whose characters fit.
-/
import Mathlib.Data.List.DropRight
import SyntaxCorpus.Console.Emoji
import SyntaxCorpus.Console.Line
import SyntaxCorpus.Proofs.Text.Split

namespace SyntaxCorpus.Console

/-- Whether a character can be seen on a console. -/
def hasInk (c : Char) : Bool := !Text.isBlank c && !isControl c

/-- What of a text can be seen. -/
def ink (cs : List Char) : List Char := cs.filter hasInk

/-! ## Ink -/

section

variable {cs ds : List Char}

end

/-! ## Columns -/

section

variable {cs ds : List Char} {width : Nat}

end

/-! ## Lines that fit -/

section

variable {line shown blanks : List Char} {width : Nat}

/-- A line that is at most as wide as a console, but for blanks at its end. -/
def Fits (width : Nat) (line : List Char) : Prop := cellLength (withoutBlankEnd line) ≤ width

end

/-! ## Words and their parts -/

section

variable {width : Nat}

end

end SyntaxCorpus.Console
