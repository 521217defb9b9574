/-
SyntaxCorpus.Language.Resolve — which language a source is in.

A language is given by its name or an alias, in any case and with blanks
around it; if none is given, the ending of the file decides.

* `ofName` — the language that a name stands for.
* `ofPath` — the language of a file, by its ending.
* `resolve` — the name wins over the file.
* `wrapperOf` — the wrapper of a language, by its exact name.
-/
import SyntaxCorpus.Language.Basic
import SyntaxCorpus.Path.Basic
import SyntaxCorpus.Text.Blank
import SyntaxCorpus.Text.LowerCase
import SyntaxCorpus.Text.Quoted

namespace SyntaxCorpus

/-- Why no language is found. -/
inductive LanguageError
  | unknownName (given : String)
  /-- The ending of the file, or its name if that has no ending. -/
  | unknownEnding (shown : String)
  | notGiven
  | noWrapper (name : String)
  deriving DecidableEq

/-- The cause in words. -/
def LanguageError.message : LanguageError → String
  | unknownName given =>
    s!"Unsupported language '{given}'. Supported: {Text.quotedList (languages.map (·.name))}"
  | unknownEnding shown => s!"Unsupported file extension: {shown}"
  | notGiven => "no language given and no file to detect it from"
  | noWrapper name => s!"method mode is not supported for {name}"

namespace Language

/-- Whether a text is the name or an alias of the language. -/
def isCalled (l : Language) (s : String) : Bool := s == l.name || l.aliases.contains s

/-- The name of the language that a given name stands for. -/
def ofName (given : String) : Except LanguageError String :=
  match languages.find? (·.isCalled (Text.lower (Text.strip given))) with
  | some l => .ok l.name
  | none => .error (.unknownName given)

/-- The name of the language of a file. -/
def ofPath (p : Path) : Except LanguageError String :=
  match languages.find? (·.endings.contains (Text.lower p.suffix)) with
  | some l => .ok l.name
  | none => .error (.unknownEnding (if p.suffix.isEmpty then p.name else p.suffix))

/-- The name of the language of a source: the given one, or the one of its
file. An empty name counts as none. -/
def resolve (given : Option String) (file : Option Path) : Except LanguageError String :=
  match given, file with
  | some name, file =>
    if name.isEmpty then (file.map ofPath).getD (.error .notGiven) else ofName name
  | none, some p => ofPath p
  | none, none => .error .notGiven

/-- The wrapper of the language with this name. -/
def wrapperOf (name : String) : Except LanguageError Wrapper :=
  match languages.find? (·.name == name) with
  | some l => .ok l.wrapper
  | none => .error (.noWrapper name)

end Language
end SyntaxCorpus
