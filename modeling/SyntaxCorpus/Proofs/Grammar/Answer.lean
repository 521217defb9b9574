/-
SyntaxCorpus.Proofs.Grammar.Answer — what comes of a call of the parser.

A call ends with a tree or with one failure. The causes of a failure overlap,
so their order is part of the rule: the language, the grammar, the syntax of the
source, the declaration.

* `FirstIn` — the first tree of a list with a property.
* `Locates` — where a source is wrong, in words; `locates_iff`: `locate` finds
  that place.
* `ReadsAs`, `readsAs_iff` — what is made of the tree of a source.
* `AnswersIn`, `answersIn_parseIn` — what comes of a source and a language.
* `Answers`, `answers_iff` — what comes of a call.
* `parseSource_answers` — every call has exactly one answer, and it is a tree or
  a failure.
-/
import SyntaxCorpus.Grammar.Session

namespace SyntaxCorpus

/-! ## The first tree with a property -/

/-- The first tree of a list with a property. -/
def FirstIn (P : Cst → Prop) (ts : List Cst) (t : Cst) : Prop :=
  P t ∧ ∃ before after, ts = before ++ t :: after ∧ ∀ u ∈ before, ¬ P u

section

variable {P : Cst → Prop} {p : Cst → Bool} {ts : List Cst} {t : Cst}

theorem firstIn_iff (h : ∀ u, p u = true ↔ P u) : FirstIn P ts t ↔ ts.find? p = some t := by
  simp only [FirstIn, List.find?_eq_some_iff_append, ← h, Bool.not_eq_true', Bool.not_eq_true]

theorem forall_not_iff (h : ∀ u, p u = true ↔ P u) :
    (∀ u ∈ ts, ¬ P u) ↔ ts.find? p = none := by
  simp only [List.find?_eq_none, ← h]

end

/-! ## Where a source is wrong -/

/-- Whether a node is wrong or missing. -/
def IsFault (t : Cst) : Prop := t.label.isError = true ∨ t.label.isMissing = true

/-- The first fault of a tree in document order, in words. `offset` lines stand
before the source as it was given; lines and columns are counted from one on. -/
inductive Locates (offset : Nat) (t : Cst) : String → Prop
  | missing {n line column} (h : FirstIn IsFault t.preorder n)
      (hmissing : n.label.isMissing = true) (hline : line = n.label.position.row - offset + 1)
      (hcolumn : column = n.label.position.column + 1) :
      Locates offset t s!"missing {n.label.type} at line {line}, column {column}"
  | unexpected {n line column} (h : FirstIn IsFault t.preorder n)
      (hmissing : n.label.isMissing = false) (hline : line = n.label.position.row - offset + 1)
      (hcolumn : column = n.label.position.column + 1) :
      Locates offset t s!"syntax error at line {line}, column {column}"
  | nowhere (h : ∀ n ∈ t.preorder, ¬ IsFault n) : Locates offset t "syntax error"

theorem isFault_iff (t : Cst) : SyntaxError.isFault t.label = true ↔ IsFault t := by
  rw [SyntaxError.isFault, Bool.or_eq_true, IsFault]

section

variable {offset : Nat} {t n : Cst} {message : String}

theorem locate_of_firstIn (h : FirstIn IsFault t.preorder n) :
    SyntaxError.locate offset t = SyntaxError.atNode offset n.label := by
  rw [firstIn_iff isFault_iff] at h
  rw [SyntaxError.locate, Tree.find?, h]

theorem locate_of_forall (h : ∀ n ∈ t.preorder, ¬ IsFault n) :
    SyntaxError.locate offset t = .somewhere := by
  rw [forall_not_iff isFault_iff] at h
  rw [SyntaxError.locate, Tree.find?, h]

theorem locates_locate (offset : Nat) (t : Cst) :
    Locates offset t (SyntaxError.locate offset t).message := by
  cases hfind : t.preorder.find? (SyntaxError.isFault ·.label) with
  | none =>
    have hnone := (forall_not_iff isFault_iff).mpr hfind
    rw [locate_of_forall hnone]
    exact .nowhere hnone
  | some n =>
    have hfirst := (firstIn_iff isFault_iff).mpr hfind
    rw [locate_of_firstIn hfirst, SyntaxError.atNode]
    split
    · rename_i hmissing
      exact .missing hfirst hmissing rfl rfl
    · rename_i hmissing
      exact .unexpected hfirst (eq_false_of_ne_true hmissing) rfl rfl

/-- `locate` finds the first fault. -/
theorem locates_iff : Locates offset t message ↔
    message = (SyntaxError.locate offset t).message := by
  constructor
  · intro h
    cases h with
    | missing h hmissing hline hcolumn =>
      rw [locate_of_firstIn h, SyntaxError.atNode, if_pos hmissing, hline, hcolumn]
      rfl
    | unexpected h hmissing hline hcolumn =>
      rw [locate_of_firstIn h, SyntaxError.atNode, if_neg (ne_true_of_eq_false hmissing), hline,
        hcolumn]
      rfl
    | nowhere h =>
      rw [locate_of_forall h]
      rfl
  · rintro rfl
    exact locates_locate offset t

end

/-! ## What is made of a tree -/

/-- Whether a node is a named one and no extra. -/
def IsKept (t : Cst) : Prop := t.label.isNamed = true ∧ t.label.isExtra = false

theorem isKept_iff (t : Cst) : Cst.isKept t.label = true ↔ IsKept t := by
  rw [Cst.isKept, Bool.and_eq_true, Bool.not_eq_true', IsKept]

/-- The declaration in a tree: the first kept child of the first container.
Later containers do not count. -/
def Declares (container : String) (t d : Cst) : Prop :=
  ∃ n, FirstIn (·.label.type = container) t.preorder n ∧ FirstIn IsKept n.children d

/-- A tree without a declaration has no container, or nothing is kept in the
first one. -/
inductive DeclaresNone (container : String) (t : Cst) : Prop
  | noContainer (h : ∀ n ∈ t.preorder, n.label.type ≠ container)
  | nothingKept {n} (h : FirstIn (·.label.type = container) t.preorder n)
      (hnone : ∀ c ∈ n.children, ¬ IsKept c)

section

variable {container : String} {t d : Cst}

theorem isContainer_iff (container : String) (u : Cst) :
    (u.label.type == container) = true ↔ u.label.type = container := beq_iff_eq

theorem declares_iff : Declares container t d ↔ t.declaration? container = some d := by
  simp only [Declares, firstIn_iff (isContainer_iff container), firstIn_iff isKept_iff,
    Cst.declaration?, Tree.find?, Option.bind_eq_some_iff]

theorem declaresNone_iff : DeclaresNone container t ↔ t.declaration? container = none := by
  constructor
  · intro h
    cases h with
    | noContainer h =>
      have hfind := (forall_not_iff (isContainer_iff container)).mp h
      rw [Cst.declaration?, Tree.find?, hfind, Option.bind_none]
    | nothingKept h hnone =>
      have hfind := (firstIn_iff (isContainer_iff container)).mp h
      rw [Cst.declaration?, Tree.find?, hfind, Option.bind_some]
      exact (forall_not_iff isKept_iff).mp hnone
  · intro h
    cases hfind : t.preorder.find? (·.label.type == container) with
    | none => exact .noContainer ((forall_not_iff (isContainer_iff container)).mpr hfind)
    | some n =>
      rw [Cst.declaration?, Tree.find?, hfind, Option.bind_some] at h
      have hfirst := (firstIn_iff (isContainer_iff container)).mpr hfind
      exact .nothingKept hfirst ((forall_not_iff isKept_iff).mpr h)

end

/-- A tree, or the message of a failure. -/
abbrev Answer := Except String (Tree RawLabel)

/-- What is made of the tree of a source, in its wrapper if it has one. -/
inductive ReadsAs (source : ByteArray) (p : Parsed) : Option Wrapper → Answer → Prop
  | rejected {wrapper message} (herror : p.hasError = true)
      (h : Locates ((wrapper.map Wrapper.lineOffset).getD 0) p.tree message) :
      ReadsAs source p wrapper (.error message)
  | whole (herror : p.hasError = false) :
      ReadsAs source p none (.ok ((p.tree.normalise source).map Label.toRaw))
  | declaration {w d} (herror : p.hasError = false) (h : Declares w.container p.tree d) :
      ReadsAs source p (some w) (.ok ((d.normalise source).map Label.toRaw))
  | noDeclaration {w} (herror : p.hasError = false) (h : DeclaresNone w.container p.tree) :
      ReadsAs source p (some w) (.error "no declaration found")

/-- A failure in words. -/
def GrammarFailure.message : GrammarFailure → String
  | language e => e.message
  | crashed c => s!"{c.kind}: {c.text}"
  | syntaxError e => e.message
  | noDeclaration => "no declaration found"

/-- The answer that a result is shown as. -/
def answerOf : Except GrammarFailure (Tree Label) → Answer
  | .ok t => .ok (t.map Label.toRaw)
  | .error e => .error e.message

theorem readsAs_iff {source : ByteArray} {p : Parsed} {wrapper : Option Wrapper}
    {answer : Answer} :
    ReadsAs source p wrapper answer ↔ answer = answerOf (p.tree? wrapper source) := by
  constructor
  · intro h
    cases h with
    | rejected herror h =>
      simp only [Parsed.tree?, herror, if_true, locates_iff.mp h]
      rfl
    | whole herror =>
      simp only [Parsed.tree?, herror]
      rfl
    | declaration herror h =>
      simp only [Parsed.tree?, herror, declares_iff.mp h]
      rfl
    | noDeclaration herror h =>
      simp only [Parsed.tree?, herror, declaresNone_iff.mp h]
      rfl
  · rintro rfl
    unfold Parsed.tree?
    split
    · rename_i herror
      exact .rejected herror (locates_iff.mpr rfl)
    · rename_i herror
      have herror := eq_false_of_ne_true herror
      split
      · exact .whole herror
      · split
        · rename_i hd
          exact .declaration herror (declares_iff.mpr hd)
        · rename_i hd
          exact .noDeclaration herror (declaresNone_iff.mpr hd)

/-! ## What comes of a source -/

variable {γ : Type}

/-- The grammar that a thread has for a language, or a new one if it has none;
with the language that is asked for. -/
inductive Provides (s : Session γ) (grammars : Grammars γ) (thread language : String) (g : γ) :
    Option String → Prop
  | kept (h : s.grammar? thread language = some g) : Provides s grammars thread language g none
  | new (h : s.grammar? thread language = none) (hload : grammars.load language = .ok g) :
      Provides s grammars thread language g (some language)

/-- What comes of a source in its wrapper, if it has one; with what was loaded
and parsed. A grammar that fails while it runs is named like one that does not
load. -/
inductive AnswersIn (s : Session γ) (grammars : Grammars γ) (thread language : String)
    (wrapper : Option Wrapper) (source : ByteArray) : Answer → GrammarUse → Prop
  | unloaded {c} (h : s.grammar? thread language = none)
      (hload : grammars.load language = .error c) :
      AnswersIn s grammars thread language wrapper source (.error s!"{c.kind}: {c.text}")
        ⟨some language, none⟩
  | stopped {g asked c} (hg : Provides s grammars thread language g asked)
      (hrun : grammars.run g source = .error c) :
      AnswersIn s grammars thread language wrapper source (.error s!"{c.kind}: {c.text}")
        ⟨asked, some source⟩
  | parsed {g asked p answer} (hg : Provides s grammars thread language g asked)
      (hrun : grammars.run g source = .ok p) (h : ReadsAs source p wrapper answer) :
      AnswersIn s grammars thread language wrapper source answer ⟨asked, some source⟩

section

variable {s : Session γ} {grammars : Grammars γ} {thread language : String}
  {wrapper : Option Wrapper} {source : ByteArray} {g : γ} {asked : Option String}
  {answer : Answer} {use : GrammarUse}

theorem Provides.parseIn (h : Provides s grammars thread language g asked)
    (wrapper : Option Wrapper) (source : ByteArray) :
    ∃ s', s.parseIn grammars thread language wrapper source
      = (Session.parseWith grammars g wrapper source, ⟨asked, some source⟩, s') := by
  cases h with
  | kept h => exact ⟨s, by rw [Session.parseIn, h]⟩
  | new h hload => exact ⟨s.add thread language g, by rw [Session.parseIn, h, hload]⟩

theorem parseIn_of_error {c : Crash} (h : s.grammar? thread language = none)
    (hload : grammars.load language = .error c) :
    s.parseIn grammars thread language wrapper source
      = (.error (.crashed c), ⟨some language, none⟩, s) := by
  rw [Session.parseIn, h, hload]

/-- A thread has a grammar, or gets one, or a grammar does not load. -/
theorem provides_or_error (s : Session γ) (grammars : Grammars γ) (thread language : String) :
    (∃ g asked, Provides s grammars thread language g asked) ∨
      ∃ c, s.grammar? thread language = none ∧ grammars.load language = .error c := by
  cases h : s.grammar? thread language with
  | some g => exact .inl ⟨g, none, .kept h⟩
  | none =>
    cases hload : grammars.load language with
    | ok g => exact .inl ⟨g, some language, .new h hload⟩
    | error c => exact .inr ⟨c, rfl, rfl⟩

theorem AnswersIn.eq (h : AnswersIn s grammars thread language wrapper source answer use) :
    answer = answerOf (s.parseIn grammars thread language wrapper source).1 ∧
      use = (s.parseIn grammars thread language wrapper source).2.1 := by
  cases h with
  | unloaded h hload =>
    rw [parseIn_of_error h hload]
    exact ⟨rfl, rfl⟩
  | stopped hg hrun =>
    obtain ⟨s', heq⟩ := hg.parseIn wrapper source
    rw [heq, Session.parseWith, hrun]
    exact ⟨rfl, rfl⟩
  | parsed hg hrun h =>
    obtain ⟨s', heq⟩ := hg.parseIn wrapper source
    rw [heq, Session.parseWith, hrun]
    exact ⟨readsAs_iff.mp h, rfl⟩

theorem answersIn_parseIn (s : Session γ) (grammars : Grammars γ) (thread language : String)
    (wrapper : Option Wrapper) (source : ByteArray) :
    AnswersIn s grammars thread language wrapper source
      (answerOf (s.parseIn grammars thread language wrapper source).1)
      (s.parseIn grammars thread language wrapper source).2.1 := by
  rcases provides_or_error s grammars thread language with ⟨g, asked, hg⟩ | ⟨c, h, hload⟩
  · obtain ⟨s', heq⟩ := hg.parseIn wrapper source
    rw [heq, Session.parseWith]
    cases hrun : grammars.run g source with
    | error c => exact .stopped hg hrun
    | ok p => exact .parsed hg hrun (readsAs_iff.mpr rfl)
  · rw [parseIn_of_error h hload]
    exact .unloaded h hload

end

/-! ## What comes of a call -/

/-- What a grammar is given: the source itself, or a single declaration in the
wrapper of its language. -/
inductive Prepares (call : ParseCall) : Option Wrapper → ByteArray → Prop
  | whole (h : call.methodOnly = false) : Prepares call none call.source
  | wrapped {l} (h : call.methodOnly = true) (hl : l ∈ languages)
      (hname : l.name = call.language) :
      Prepares call (some l.wrapper) (l.wrapper.wrap call.source)

/-- What comes of a call; with what was loaded and parsed. -/
inductive Answers (s : Session γ) (grammars : Grammars γ) (thread : String) (call : ParseCall) :
    Answer → GrammarUse → Prop
  | unwrapped (h : call.methodOnly = true) (hname : ∀ l ∈ languages, l.name ≠ call.language) :
      Answers s grammars thread call
        (.error s!"method mode is not supported for {call.language}") ⟨none, none⟩
  | prepared {wrapper source answer use} (hcall : Prepares call wrapper source)
      (h : AnswersIn s grammars thread call.language wrapper source answer use) :
      Answers s grammars thread call answer use

/-- No two languages have one name. -/
theorem find?_name : ∀ l ∈ languages, languages.find? (·.name == l.name) = some l := by decide

theorem wrapperOf_eq {l : Language} (hl : l ∈ languages) :
    Language.wrapperOf l.name = .ok l.wrapper := by
  rw [Language.wrapperOf, find?_name l hl]

/-- Without a language of the name there is no wrapper. -/
theorem wrapperOf_eq_error {name : String} (h : ∀ l ∈ languages, l.name ≠ name) :
    Language.wrapperOf name = .error (.noWrapper name) := by
  have hfind : languages.find? (·.name == name) = none := by
    rw [List.find?_eq_none]
    intro l hl
    simpa using h l hl
  rw [Language.wrapperOf, hfind]

section

variable {s : Session γ} {grammars : Grammars γ} {thread : String} {call : ParseCall}
  {wrapper : Option Wrapper} {source : ByteArray} {answer : Answer} {use : GrammarUse}

theorem Prepares.parse (h : Prepares call wrapper source) :
    s.parse grammars thread call = s.parseIn grammars thread call.language wrapper source := by
  cases h with
  | whole h => rw [Session.parse, if_neg (ne_true_of_eq_false h)]
  | wrapped h hl hname => rw [Session.parse, if_pos h, ← hname, wrapperOf_eq hl]

/-- A call has a source to be parsed, or it wants a single declaration of a
language that has no wrapper. -/
theorem prepares_or_error (call : ParseCall) : (∃ wrapper source, Prepares call wrapper source) ∨
    call.methodOnly = true ∧ ∀ l ∈ languages, l.name ≠ call.language := by
  cases h : call.methodOnly with
  | false => exact .inl ⟨none, call.source, .whole h⟩
  | true =>
    by_cases hname : ∃ l ∈ languages, l.name = call.language
    · obtain ⟨l, hl, hname⟩ := hname
      exact .inl ⟨some l.wrapper, l.wrapper.wrap call.source, .wrapped h hl hname⟩
    · exact .inr ⟨rfl, by simpa using hname⟩

theorem parse_of_error (h : call.methodOnly = true)
    (hname : ∀ l ∈ languages, l.name ≠ call.language) :
    s.parse grammars thread call
      = (.error (.language (.noWrapper call.language)), ⟨none, none⟩, s) := by
  rw [Session.parse, if_pos h, wrapperOf_eq_error hname]

theorem answers_iff : Answers s grammars thread call answer use ↔
    answer = answerOf (s.parse grammars thread call).1 ∧
      use = (s.parse grammars thread call).2.1 := by
  constructor
  · intro h
    cases h with
    | unwrapped h hname =>
      rw [parse_of_error h hname]
      exact ⟨rfl, rfl⟩
    | prepared hcall h =>
      rw [hcall.parse]
      exact h.eq
  · rintro ⟨rfl, rfl⟩
    rcases prepares_or_error call with ⟨wrapper, source, hcall⟩ | ⟨h, hname⟩
    · rw [hcall.parse]
      exact .prepared hcall (answersIn_parseIn s grammars thread call.language wrapper source)
    · rw [parse_of_error h hname]
      exact .unwrapped h hname

end

/-- The parser of a thread in a session. -/
def Session.parser (s : Session γ) (grammars : Grammars γ) (thread : String) : SourceParser where
  parse call := .ofResult (s.parse grammars thread call).1

/-- A result is a tree, or a failure with its message; not an interrupt. -/
def Shows (r : Except ParseStop (Tree RawLabel)) : Answer → Prop
  | .ok t => r = .ok t
  | .error message => ∃ f, r = .error (.failed f) ∧ f.message = message

theorem shows_parseSource (s : Session γ) (grammars : Grammars γ) (thread : String)
    (origin : Origin) (call : ParseCall) :
    Shows (parseSource (s.parser grammars thread) origin call).1
      (answerOf (s.parse grammars thread call).1) := by
  have hparse : (s.parser grammars thread).parse call
      = .ofResult (s.parse grammars thread call).1 := rfl
  rw [parseSource, hparse]
  cases (s.parse grammars thread call).1 with
  | ok t => exact rfl
  | error e =>
    cases e with
    | language e => exact ⟨.reported e.message, rfl, rfl⟩
    | crashed c => exact ⟨.crashed c, rfl, rfl⟩
    | syntaxError e => exact ⟨.reported e.message, rfl, rfl⟩
    | noDeclaration => exact ⟨.reported "no declaration found", rfl, rfl⟩

/-- **Every call has exactly one answer, and it is a tree or a failure.** -/
theorem parseSource_answers (s : Session γ) (grammars : Grammars γ) (thread : String)
    (origin : Origin) (call : ParseCall) :
    ∃ answer use, Shows (parseSource (s.parser grammars thread) origin call).1 answer ∧
      (s.parse grammars thread call).2.1 = use ∧
      ∀ answer' use', Answers s grammars thread call answer' use' ↔
        answer' = answer ∧ use' = use :=
  ⟨_, _, shows_parseSource s grammars thread origin call, rfl, fun _ _ => answers_iff⟩

end SyntaxCorpus
