/-
SyntaxCorpus.Grammar.Session — parsing with grammars.

A grammar is loaded when it is first needed, once for every thread and
language; a grammar that does not load is tried again the next time. Threads
share no grammars.

* `Grammars` — how grammars are loaded and used. `γ` is the type of a loaded
  grammar.
* `Session` — the grammars that are loaded, by thread and language.
* `GrammarFailure` — why a source has no tree.
* `Session.parse` — the tree of a source, with what was loaded and parsed.
* `Grammars.parser` — a parser without a session.
-/
import SyntaxCorpus.Grammar.SyntaxError
import SyntaxCorpus.Parser.Basic

namespace SyntaxCorpus

/-- What a grammar makes of a source. -/
structure Parsed where
  tree : Cst
  /-- The grammar rejects the source. -/
  hasError : Bool

/-- How grammars are loaded and used. -/
structure Grammars (γ : Type) where
  load : String → Except Crash γ
  run : γ → ByteArray → Except Crash Parsed

/-- The loaded grammars, by thread and language. -/
structure Session (γ : Type) where
  loaded : List ((String × String) × γ)

/-- Why a source has no tree. -/
inductive GrammarFailure
  | language (e : LanguageError)
  | crashed (c : Crash)
  | syntaxError (e : SyntaxError)
  | noDeclaration
  deriving DecidableEq

/-- The outcome of a parser that fails for this reason. -/
def GrammarFailure.outcome : GrammarFailure → ParserOutcome
  | language e => .failure e.message
  | crashed c => .crash c
  | syntaxError e => .failure e.message
  | noDeclaration => .failure "no declaration found"

/-- What was done with grammars in a call. -/
structure GrammarUse where
  /-- The language that a grammar was asked for. -/
  loaded : Option String := none
  /-- The source that a grammar was given. -/
  parsed : Option ByteArray := none

/-- The tree of what a grammar made of a source, in its wrapper if it has
one. -/
def Parsed.tree? (p : Parsed) (wrapper : Option Wrapper) (source : ByteArray) :
    Except GrammarFailure (Tree Label) :=
  let offset := (wrapper.map Wrapper.lineOffset).getD 0
  if p.hasError then .error (.syntaxError (.locate offset p.tree))
  else
    match wrapper with
    | none => .ok (p.tree.normalise source)
    | some w =>
      match p.tree.declaration? w.container with
      | some d => .ok (d.normalise source)
      | none => .error .noDeclaration

namespace Session

variable {γ : Type}

/-- The session before anything is loaded. -/
def start : Session γ := ⟨[]⟩

/-- The grammar that a thread has for a language. -/
def grammar? (s : Session γ) (thread language : String) : Option γ :=
  (s.loaded.find? (·.1 == (thread, language))).map (·.2)

/-- The session with one more grammar. -/
def add (s : Session γ) (thread language : String) (g : γ) : Session γ :=
  ⟨((thread, language), g) :: s.loaded⟩

/-- A source parsed with a grammar. -/
def parseWith (grammars : Grammars γ) (g : γ) (wrapper : Option Wrapper) (source : ByteArray) :
    Except GrammarFailure (Tree Label) :=
  match grammars.run g source with
  | .error c => .error (.crashed c)
  | .ok p => p.tree? wrapper source

/-- A source parsed by a thread, in its wrapper if it has one: with the
grammar that the thread has for the language, or with a new one. -/
def parseIn (s : Session γ) (grammars : Grammars γ) (thread language : String)
    (wrapper : Option Wrapper) (source : ByteArray) :
    Except GrammarFailure (Tree Label) × GrammarUse × Session γ :=
  match s.grammar? thread language with
  | some g => (parseWith grammars g wrapper source, { parsed := some source }, s)
  | none =>
    match grammars.load language with
    | .error c => (.error (.crashed c), { loaded := some language }, s)
    | .ok g =>
      (parseWith grammars g wrapper source,
        { loaded := some language, parsed := some source },
        s.add thread language g)

/-- A call parsed by a thread. A single declaration is put into the wrapper of
its language; a language without one fails before a grammar is loaded. -/
def parse (s : Session γ) (grammars : Grammars γ) (thread : String) (call : ParseCall) :
    Except GrammarFailure (Tree Label) × GrammarUse × Session γ :=
  if call.methodOnly then
    match Language.wrapperOf call.language with
    | .error e => (.error (.language e), {}, s)
    | .ok w => s.parseIn grammars thread call.language (some w) (w.wrap call.source)
  else s.parseIn grammars thread call.language none call.source

end Session

/-- The outcome of a parser that has this result. -/
def ParserOutcome.ofResult : Except GrammarFailure (Tree Label) → ParserOutcome
  | .ok t => .tree (t.map Label.toRaw)
  | .error e => e.outcome

/-- The parser that loads a grammar for each call. -/
def Grammars.parser {γ : Type} (grammars : Grammars γ) : SourceParser where
  parse call := .ofResult (Session.start.parse grammars "main" call).1

end SyntaxCorpus
