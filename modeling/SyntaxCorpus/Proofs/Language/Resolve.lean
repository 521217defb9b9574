/-
SyntaxCorpus.Proofs.Language.Resolve — the language that a name, or the ending of
a file, stands for.

The names and endings of the table belong to one language each, so the first
language found for a word is the only one.

* `find?_isCalled`, `find?_endings` — one language for each word of the table.
* `IsCalledBy`, `ofName_eq_ok_iff` — languages by their names.
* `HasFile`, `ofPath_eq_ok_iff` — languages by the endings of their files.
* `Designates`, `resolve_designates` — the language of a source: the given one, or
  that of its file. Declarations can be wrapped in every one of them.
-/
import SyntaxCorpus.Proofs.Grammar.Answer
import SyntaxCorpus.Proofs.Parser.File
import SyntaxCorpus.Proofs.Path.Suffix
import SyntaxCorpus.Proofs.Text.Blank
import SyntaxCorpus.Proofs.Text.LowerCase

namespace SyntaxCorpus

namespace Language

variable {l : Language} {given : String}

/-! ## The words of the table -/

theorem find?_isCalled : ∀ l ∈ languages, ∀ word ∈ l.name :: l.aliases,
    languages.find? (·.isCalled word) = some l := by decide

theorem find?_endings : ∀ l ∈ languages, ∀ ending ∈ l.endings,
    languages.find? (·.endings.contains ending) = some l := by decide

/-- A name has no capital letters and no blanks. -/
theorem lower_strip_name (hl : l ∈ languages) : Text.lower (Text.strip l.name) = l.name := by
  have hlow : ∀ l ∈ languages, l.name.toList.all Text.isLowAscii = true := by decide
  have hblank : ∀ l ∈ languages, l.name.toList.all (!Text.isBlank ·) = true := by decide
  have hstrip : Text.strip l.name = l.name := by
    refine Text.strip_eq_self fun c hc => ?_
    rw [← Bool.not_eq_true']
    exact List.all_eq_true.mp (hblank l hl) c hc
  rw [hstrip, Text.lower_eq_self (hlow l hl)]

theorem isCalled_iff {word : String} : l.isCalled word = true ↔ word ∈ l.name :: l.aliases := by
  simp [isCalled]

/-! ## Names -/

/-- A text gives the name or an alias of a language, in any case and with blanks
around it. -/
def IsCalledBy (l : Language) (given : String) : Prop :=
  Text.lower (Text.strip given) = l.name ∨ Text.lower (Text.strip given) ∈ l.aliases

theorem ofName_eq_ok_iff {name : String} :
    ofName given = .ok name ↔ ∃ l ∈ languages, l.name = name ∧ l.IsCalledBy given := by
  unfold ofName
  constructor
  · intro h
    cases hfind : languages.find? (·.isCalled (Text.lower (Text.strip given))) with
    | none =>
      rw [hfind] at h
      cases h
    | some l =>
      rw [hfind] at h
      have hcalled := List.find?_some hfind
      exact ⟨l, List.mem_of_find?_eq_some hfind, Except.ok.inj h,
        List.mem_cons.mp (isCalled_iff.mp hcalled)⟩
  · rintro ⟨l, hl, rfl, hcalled⟩
    rw [find?_isCalled l hl _ (List.mem_cons.mpr hcalled)]

/-! ## Endings -/

/-- A written path leads to a file with an ending of a language, in any case. -/
def HasFile (l : Language) (path : String) : Prop :=
  ∃ name ending, Path.HasLastName path name ∧ Path.EndsWith name ending ∧
    Text.lower ending ∈ l.endings

/-- No ending is empty or a point alone. -/
theorem ne_of_lower_mem_endings (hl : l ∈ languages) {ending : String}
    (h : Text.lower ending ∈ l.endings) : ending ≠ "" ∧ ending ≠ "." := by
  have hendings : ∀ l ∈ languages, "" ∉ l.endings ∧ "." ∉ l.endings := by decide
  constructor
  · rintro rfl
    rw [Text.lower_eq_self rfl] at h
    exact (hendings l hl).1 h
  · rintro rfl
    rw [Text.lower_eq_self rfl] at h
    exact (hendings l hl).2 h

/-- The ending of a path is that of its last name. -/
theorem hasFile_iff {path : String} (hl : l ∈ languages) :
    l.HasFile path ↔ Text.lower (Path.ofText path).suffix ∈ l.endings := by
  have hsuffix : ∀ {name}, Path.HasLastName path name →
      (Path.ofText path).suffix = Path.suffixOf name := by
    intro name hname
    rw [Path.suffix, Path.name, Path.getLast?_names_iff.mpr hname]
    rfl
  constructor
  · rintro ⟨name, ending, hname, hends, hmem⟩
    obtain ⟨hne, hpoint⟩ := ne_of_lower_mem_endings hl hmem
    rwa [hsuffix hname, (Path.suffixOf_eq_iff hne).mpr ⟨hends, hpoint⟩]
  · intro hmem
    obtain ⟨hne, -⟩ := ne_of_lower_mem_endings hl hmem
    cases hlast : (Path.ofText path).names.getLast? with
    | none =>
      rw [Path.suffix, Path.name, hlast] at hne
      exact (hne (by decide)).elim
    | some name =>
      have hname := Path.getLast?_names_iff.mp hlast
      rw [hsuffix hname] at hne hmem
      exact ⟨name, _, hname, ((Path.suffixOf_eq_iff hne).mp rfl).1, hmem⟩

theorem ofPath_eq_ok_iff {path name : String} :
    ofPath (Path.ofText path) = .ok name ↔ ∃ l ∈ languages, l.name = name ∧ l.HasFile path := by
  unfold ofPath
  constructor
  · intro h
    cases hfind : languages.find? (·.endings.contains (Text.lower (Path.ofText path).suffix)) with
    | none =>
      rw [hfind] at h
      cases h
    | some l =>
      rw [hfind] at h
      have hl := List.mem_of_find?_eq_some hfind
      have hcontains := List.find?_some hfind
      exact ⟨l, hl, Except.ok.inj h, (hasFile_iff hl).mpr (by simpa using hcontains)⟩
  · rintro ⟨l, hl, rfl, hfile⟩
    rw [find?_endings l hl _ ((hasFile_iff hl).mp hfile)]

/-! ## Sources -/

/-- A language is that of a source: the given name stands for it, or none is given,
or an empty one, and the file is of this language. -/
inductive Designates (l : Language) : Option String → String → Prop
  | named {given path} (hgiven : given ≠ "") (h : l.IsCalledBy given) :
      Designates l (some given) path
  | unnamed {given path} (hgiven : given = none ∨ given = some "") (h : l.HasFile path) :
      Designates l given path

/-- Without a name the file decides. -/
theorem resolve_unnamed {given : Option String} (h : given = none ∨ given = some "") (p : Path) :
    resolve given (some p) = ofPath p := by
  rcases h with rfl | rfl
  · rw [resolve]
  · have hempty : "".isEmpty = true := by decide
    rw [resolve, if_pos hempty, Option.map_some, Option.getD_some]

/-- A name decides alone. -/
theorem resolve_named (h : given ≠ "") (file : Option Path) :
    resolve (some given) file = ofName given := by
  rw [resolve, if_neg (by simpa using h)]

theorem resolve_eq_ok_iff {given : Option String} {path name : String} :
    resolve given (some (Path.ofText path)) = .ok name ↔
      ∃ l ∈ languages, l.name = name ∧ l.Designates given path := by
  by_cases hgiven : given = none ∨ given = some ""
  · rw [resolve_unnamed hgiven, ofPath_eq_ok_iff]
    constructor
    · rintro ⟨l, hl, hname, hfile⟩
      exact ⟨l, hl, hname, .unnamed hgiven hfile⟩
    · rintro ⟨l, hl, hname, h⟩
      cases h with
      | named hne => simp [hne] at hgiven
      | unnamed _ hfile => exact ⟨l, hl, hname, hfile⟩
  · rw [not_or] at hgiven
    obtain ⟨given, rfl⟩ := Option.ne_none_iff_exists'.mp hgiven.1
    have hne : given ≠ "" := fun h => hgiven.2 (h ▸ rfl)
    rw [resolve_named hne, ofName_eq_ok_iff]
    constructor
    · rintro ⟨l, hl, hname, hcalled⟩
      exact ⟨l, hl, hname, .named hne hcalled⟩
    · rintro ⟨l, hl, hname, h⟩
      cases h with
      | named _ hcalled => exact ⟨l, hl, hname, hcalled⟩
      | unnamed hnone => exact (not_or.mpr hgiven hnone).elim

/-- A source is never refused for a missing wrapper. -/
theorem resolve_ne_noWrapper (given : Option String) (p : Path) (name : String) :
    resolve given (some p) ≠ .error (.noWrapper name) := by
  have hname : ∀ s, ofName s ≠ .error (.noWrapper name) := by
    intro s
    unfold ofName
    split <;> simp
  have hpath : ofPath p ≠ .error (.noWrapper name) := by
    unfold ofPath
    split <;> simp
  by_cases hgiven : given = none ∨ given = some ""
  · rw [resolve_unnamed hgiven]
    exact hpath
  · rw [not_or] at hgiven
    obtain ⟨given, rfl⟩ := Option.ne_none_iff_exists'.mp hgiven.1
    rw [resolve_named fun h => hgiven.2 (h ▸ rfl)]
    exact hname given

end Language

namespace Session

variable {γ : Type} {s : Session γ} {grammars : Grammars γ} {thread : String}

/-- A source that is given to a grammar is not refused for its language. -/
theorem parseIn_ne_language (language : String) (wrapper : Option Wrapper) (source : ByteArray)
    (e : LanguageError) :
    (s.parseIn grammars thread language wrapper source).1 ≠ .error (.language e) := by
  have htree : ∀ p : Parsed, p.tree? wrapper source ≠ .error (.language e) := by
    intro p
    unfold Parsed.tree?
    split
    · simp
    · split
      · simp
      · split <;> simp
  have hwith : ∀ g, parseWith grammars g wrapper source ≠ .error (.language e) := by
    intro g
    unfold parseWith
    split
    · simp
    · exact htree _
  unfold parseIn
  split
  · exact hwith _
  · split
    · simp
    · exact hwith _

/-- Declarations of a language of the table are not refused for it. -/
theorem parse_ne_language {call : ParseCall} {l : Language} (hl : l ∈ languages)
    (hcall : l.name = call.language) (e : LanguageError) :
    (s.parse grammars thread call).1 ≠ .error (.language e) := by
  rcases prepares_or_error call with ⟨wrapper, source, hprepares⟩ | ⟨_, hnone⟩
  · rw [hprepares.parse]
    exact parseIn_ne_language call.language wrapper source e
  · exact (hnone l hl hcall).elim

end Session

/-- **A source has the language that its name, or else its file, stands for, and no
other one; and declarations of this language can be parsed.** -/
theorem resolve_designates (given : Option String) (path : String) :
    (∀ name, Language.resolve given (some (Path.ofText path)) = .ok name ↔
      ∃ l ∈ languages, l.name = name ∧ l.Designates given path) ∧
    ((∃ e, Language.resolve given (some (Path.ofText path)) = .error e) ↔
      ∀ l ∈ languages, ¬ l.Designates given path) ∧
    (∀ name, Language.resolve given (some (Path.ofText path)) = .ok name →
      Language.ofName name = .ok name ∧ ∃ w, Language.wrapperOf name = .ok w) ∧
    ∀ {γ : Type} (fs : FileSystem) (s : Session γ) (grammars : Grammars γ) (thread : String)
      (origin : Origin),
      (∀ name, (parseFile fs (s.parser grammars thread) origin ⟨true, given⟩ path).1
        ≠ .error (.failed (.language (.noWrapper name)))) ∧
      ∀ call ∈ parseCalls (parseFile fs (s.parser grammars thread) origin ⟨true, given⟩ path).2,
        ∀ e, (s.parse grammars thread call).1 ≠ .error (.language e) := by
  refine ⟨fun name => Language.resolve_eq_ok_iff, ?_, fun name h => ?_,
    fun fs s grammars thread origin => ?_⟩
  · constructor
    · rintro ⟨e, he⟩ l hl h
      cases he.symm.trans (Language.resolve_eq_ok_iff.mpr ⟨l, hl, rfl, h⟩)
    · intro hnone
      cases h : Language.resolve given (some (Path.ofText path)) with
      | error e => exact ⟨e, rfl⟩
      | ok name =>
        obtain ⟨l, hl, _, hdesignates⟩ := Language.resolve_eq_ok_iff.mp h
        exact (hnone l hl hdesignates).elim
  · obtain ⟨l, hl, rfl, _⟩ := Language.resolve_eq_ok_iff.mp h
    have hself : l.IsCalledBy l.name := .inl (Language.lower_strip_name hl)
    exact ⟨Language.ofName_eq_ok_iff.mpr ⟨l, hl, rfl, hself⟩, _, wrapperOf_eq hl⟩
  · have hstage := parseFile_stage fs (s.parser grammars thread) origin ⟨true, given⟩ path
    generalize parseFile fs (s.parser grammars thread) origin ⟨true, given⟩ path = out at hstage
    cases hstage with
    | language hlanguage =>
      refine ⟨fun name h => ?_, fun call hcall => nomatch hcall⟩
      cases h
      exact Language.resolve_ne_noWrapper given _ name hlanguage
    | @read _ cause hlanguage hread =>
      refine ⟨fun name h => ?_, fun call hcall => nomatch hcall⟩
      cases cause <;> simp [readFailure] at h
    | call hlanguage hread =>
      refine ⟨fun name => ?_, fun call hcall => ?_⟩
      · rw [parseSource_fst]
        split <;> simp
      · rw [parseCalls_parseSource, List.mem_singleton] at hcall
        obtain ⟨l, hl, hname, _⟩ := Language.resolve_eq_ok_iff.mp hlanguage
        exact Session.parse_ne_language hl (hcall ▸ hname)

end SyntaxCorpus
