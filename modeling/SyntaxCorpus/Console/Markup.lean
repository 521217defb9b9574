/-
SyntaxCorpus.Console.Markup — texts with style tags in them.

A tag is a name in square brackets: `[bold]` opens a style, `[/bold]` closes
it, and `[/]` closes the style that was opened last. A backslash before a tag
makes it plain text, and another backslash before that one is a backslash. A
console without styles shows the plain text and leaves the tags out.

* `tokens` — the tags of a text and the characters between them.
* `escape` — a text with a backslash before every tag.
* `plain` — what is shown of a text; an error, if a tag closes a style that is
  not open.
-/
import SyntaxCorpus.Console.Emoji
import SyntaxCorpus.Console.Style

namespace SyntaxCorpus.Markup

/-- A part of a text with tags. -/
inductive Token
  | char (c : Char)
  /-- A tag by what stands between its brackets, and the number of backslashes
  before it. -/
  | tag (backslashes : Nat) (content : List Char)
  deriving DecidableEq

/-- Whether a tag may start with a character. -/
def startsTag (c : Char) : Bool :=
  ('a' ≤ c && c ≤ 'z') || c == '#' || c == '/' || c == '@'

/-- Whether a character may stand in a tag after the first one. -/
def continuesTag (c : Char) : Bool := c != '[' && c != ']'

/-- The tag at the front of a text, and the rest. -/
def scanTag : List Char → Option (List Char × List Char)
  | '[' :: c :: cs =>
    match startsTag c, cs.dropWhile continuesTag with
    | true, ']' :: rest => some (c :: cs.takeWhile continuesTag, rest)
    | _, _ => none
  | _ => none

/-- The backslashes at the front of a text, and a tag after them. -/
def scanEscapedTag (cs : List Char) : Option (Token × List Char) :=
  (scanTag (cs.dropWhile (· == '\\'))).map fun (content, rest) =>
    (.tag (cs.takeWhile (· == '\\')).length content, rest)

theorem length_scanTag {cs content rest : List Char} (h : scanTag cs = some (content, rest)) :
    rest.length < cs.length := by
  unfold scanTag at h
  split at h
  next c cs =>
    split at h
    next hr =>
      cases h
      have := (List.dropWhile_suffix (l := cs) continuesTag).length_le
      rw [hr] at this
      simp only [List.length_cons] at this ⊢
      omega
    next => cases h
  next => cases h

theorem length_scanEscapedTag {cs rest : List Char} {t : Token}
    (h : scanEscapedTag cs = some (t, rest)) : rest.length < cs.length := by
  simp only [scanEscapedTag, Option.map_eq_some_iff, Prod.mk.injEq, Prod.exists] at h
  obtain ⟨_, _, hs, _, rfl⟩ := h
  have := (List.dropWhile_suffix (l := cs) (· == '\\')).length_le
  have := length_scanTag hs
  omega

/-- The parts of a text. -/
def tokens (cs : List Char) : List Token :=
  match cs with
  | [] => []
  | c :: tail =>
    match _next : scanEscapedTag (c :: tail) with
    | some (t, rest) => t :: tokens rest
    | none => .char c :: tokens tail
termination_by cs.length
decreasing_by
  · exact length_scanEscapedTag ‹scanEscapedTag _ = _›
  · simp

/-- A part of a text with an escaped tag, as it is written. -/
def Token.escaped : Token → List Char
  | char c => [c]
  | tag n content => List.replicate (2 * n + 1) '\\' ++ '[' :: (content ++ [']'])

/-- Whether a text ends in a backslash that stands alone. -/
def endsInLoneBackslash (cs : List Char) : Bool :=
  (cs.reverse.takeWhile (· == '\\')).length == 1

/-- A text that shows every tag of `s`. A backslash alone at the end is
doubled, so that it does not escape what comes after it. -/
def escape (s : String) : String :=
  let cs := (tokens s.toList).flatMap Token.escaped
  String.ofList (if endsInLoneBackslash cs then cs ++ ['\\'] else cs)

/-- Why a text with tags is not shown. -/
inductive MarkupError
  /-- A tag closes a style that is not open. -/
  | unopened (content : List Char) (position : Nat)
  /-- A tag closes the last style, and none is open. -/
  | nothingOpen (position : Nat)
  deriving DecidableEq

/-- The error in words. -/
def MarkupError.message : MarkupError → String
  | unopened content position =>
    s!"closing tag '[{String.ofList content}]' at position {position} doesn't match any open tag"
  | nothingOpen position => s!"closing tag '[/]' at position {position} has nothing to close"

/-- The name of a style as a tag gives it, in one spelling. -/
def styleName (cs : List Char) : String := Console.canonicalName (String.ofList cs)

/-- The name in a tag: what comes before an equals sign. -/
def tagName (content : List Char) : List Char := content.takeWhile (· != '=')

/-- The open styles, the last one first, after a tag. -/
def applyTag (styles : List String) (position : Nat) (content : List Char) :
    Except MarkupError (List String) :=
  match tagName content with
  | '/' :: name =>
    if Text.isAllBlank (String.ofList name) then
      match styles with
      | [] => .error (.nothingOpen position)
      | _ :: styles => .ok styles
    else
      let name := styleName (Text.dropEnds Text.isBlank name)
      if styles.contains name then .ok (styles.erase name)
      else .error (.unopened content position)
  | name => .ok (styleName name :: styles)

/-- A character before the pieces of the text that follows it. It belongs to
the first piece if a character follows, too; a backslash before an opening
bracket is left out. -/
def addChar (c : Char) (rest : List Token) (pieces : List (List Char)) : List (List Char) :=
  match rest, pieces with
  | .char d :: _, piece :: pieces =>
    if c == '\\' && d == '[' then piece :: pieces else (c :: piece) :: pieces
  | _, pieces => [c] :: pieces

/-- What is shown of the parts of a text while `styles` are open, in pieces:
the characters between two tags, the backslashes before a tag, and a tag that
is plain text are pieces each. The parts start at `position`. -/
def shownPieces (styles : List String) (position : Nat) :
    List Token → Except MarkupError (List (List Char))
  | [] => .ok []
  | .char c :: rest => (shownPieces styles (position + 1) rest).map (addChar c rest)
  | .tag n content :: rest =>
    let next := position + n + content.length + 2
    let backslashes := List.replicate (n / 2) '\\'
    if n % 2 == 1 then
      (shownPieces styles next rest).map fun pieces =>
        backslashes :: ('[' :: (content ++ [']'])) :: pieces
    else
      (applyTag styles (position + n) content).bind fun styles =>
        (shownPieces styles next rest).map (backslashes :: ·)

/-- What is shown of a text. Names of emoji stand for them within each
piece. -/
def plain (s : String) : Except MarkupError String :=
  (shownPieces [] 0 (tokens s.toList)).map fun pieces =>
    String.ofList (pieces.flatMap Console.replaceEmoji)

end SyntaxCorpus.Markup
