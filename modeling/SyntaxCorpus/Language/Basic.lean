/-
SyntaxCorpus.Language.Basic — the languages that can be parsed.

* `Language`, `languages` — the table: names, aliases, file endings, and how a
  single declaration is wrapped.
* `Wrapper` — the text around a declaration. Where a language has
  declarations only inside of a class, the wrapper is a class.
-/
namespace SyntaxCorpus

/-- How a single declaration is made a whole source file, and how it is found
in its tree: it is the first named node, comments apart, in the first node of
type `container`. -/
structure Wrapper where
  opening : String
  closing : String
  container : String
  deriving DecidableEq

/-- A declaration in its wrapper. -/
def Wrapper.wrap (w : Wrapper) (source : ByteArray) : ByteArray :=
  w.opening.toUTF8 ++ source ++ w.closing.toUTF8

/-- The number of lines before the declaration. -/
def Wrapper.lineOffset (w : Wrapper) : Nat := w.opening.toList.count '\n'

/-- The wrapper for declarations that stand in a class. -/
def Wrapper.inClass (container : String) : Wrapper :=
  ⟨"class __Fragment__ \x7b\n", "\n\x7d", container⟩

/-- The wrapper for declarations that stand by themselves. -/
def Wrapper.topLevel (container : String) : Wrapper := ⟨"", "", container⟩

/-- A language. -/
structure Language where
  name : String
  endings : List String
  aliases : List String
  wrapper : Wrapper
  deriving DecidableEq

/-- All languages, in the order of their names. -/
def languages : List Language := [
  ⟨"c", [".c", ".h"], [], .topLevel "translation_unit"⟩,
  ⟨"cpp", [".cc", ".cpp", ".cxx", ".hh", ".hpp"], ["c++"], .topLevel "translation_unit"⟩,
  ⟨"csharp", [".cs"], ["c#", "cs"], .inClass "declaration_list"⟩,
  ⟨"go", [".go"], ["golang"], .topLevel "source_file"⟩,
  ⟨"java", [".java"], [], .inClass "class_body"⟩,
  ⟨"javascript", [".js", ".jsx", ".mjs", ".cjs"], ["js"], .inClass "class_body"⟩,
  ⟨"python", [".py"], ["py"], .topLevel "module"⟩,
  ⟨"ruby", [".rb"], ["rb"], .topLevel "program"⟩,
  ⟨"rust", [".rs"], ["rs"], .topLevel "source_file"⟩,
  ⟨"tsx", [".tsx"], [], .inClass "class_body"⟩,
  ⟨"typescript", [".ts"], ["ts"], .inClass "class_body"⟩]

end SyntaxCorpus
