/-
SyntaxCorpus.Console.Style — styles by their names.

A style is named by words: attributes, a colour, `on` with a colour of the
background, `link` with a target, and `not` before an attribute. Attributes
have short names. Names with the same meaning have one canonical name; names
without a meaning are told apart as well, but not by the case of letters.

* `Style.ofWords` — the style of some words.
* `Style.name` — the canonical name of a style.
* `canonicalName` — the canonical name for a name.
-/
import SyntaxCorpus.Console.Color
import SyntaxCorpus.Text.Blank
import SyntaxCorpus.Text.LowerCase

namespace SyntaxCorpus.Console

/-- The attributes of styles, in the order in which a canonical name lists
them. -/
def attributes : List String :=
  ["bold", "dim", "italic", "underline", "blink", "blink2", "reverse", "conceal", "strike",
    "underline2", "frame", "encircle", "overline"]

/-- The short names of attributes. -/
def shortNames : List (String × String) :=
  [("b", "bold"), ("d", "dim"), ("i", "italic"), ("u", "underline"), ("r", "reverse"),
    ("c", "conceal"), ("s", "strike"), ("uu", "underline2"), ("o", "overline")]

/-- The attribute with a name, be it a short one. -/
def attribute? (word : String) : Option String :=
  if attributes.contains word then some word
  else (shortNames.find? (·.1 == word)).map (·.2)

/-- A style. -/
structure Style where
  /-- The attributes that are named, and whether they are wanted; the last
  mention comes first, and counts. -/
  mentions : List (String × Bool) := []
  color : Option String := none
  background : Option String := none
  link : Option String := none

namespace Style

/-- A style with what some words add to it, if they have a meaning. -/
def ofWords (s : Style) : List String → Option Style
  | [] => some s
  | word :: rest =>
    let lowered := Text.lower word
    match lowered, attribute? lowered, rest with
    | "on", _, color :: rest =>
      if isColor (Text.lower color) then
        ofWords { s with background := some (Text.lower color) } rest
      else none
    | "not", _, negated :: rest =>
      match attribute? negated with
      | some a => ofWords { s with mentions := (a, false) :: s.mentions } rest
      | none => none
    | "link", _, target :: rest => ofWords { s with link := some target } rest
    | _, some a, rest => ofWords { s with mentions := (a, true) :: s.mentions } rest
    | _, none, rest =>
      if isColor lowered then ofWords { s with color := some lowered } rest else none

/-- The words that a canonical name has for an attribute. -/
def attributeWords (s : Style) (word : String) : List String :=
  match s.mentions.find? (·.1 == word) with
  | some (_, true) => [word]
  | some (_, false) => ["not", word]
  | none => []

/-- The canonical name of a style. -/
def name (s : Style) : String :=
  let words := attributes.flatMap s.attributeWords ++ s.color.toList ++
    (s.background.map (["on", ·])).getD [] ++ (s.link.map (["link", ·])).getD []
  if words.isEmpty then "none" else String.intercalate " " words

end Style

/-- The canonical name for a name. -/
def canonicalName (name : String) : String :=
  if Text.strip name == "none" then "none"
  else
    match Style.ofWords {} (Text.words name) with
    | some s => s.name
    | none => Text.lower (Text.strip name)

end SyntaxCorpus.Console
