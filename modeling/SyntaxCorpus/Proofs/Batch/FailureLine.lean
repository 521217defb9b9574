/-
SyntaxCorpus.Proofs.Batch.FailureLine — what is written is on one line.

* `not_mem_escapePath` — an escaped path has no line break and no tab.
* `toList_escapePath`, `unescapePath_escapePath` — a path is escaped character
  by character, and the escapes can be read back.
* `IsEscaped`, `exists_escapePath_iff` — the texts that are escaped paths.
* `escapePath_readsBack` — all of this, for every path.
* `pathField_eq_iff` — which paths have the same field, only some of them being
  escaped.
* `failureLine_eq` — the line of a path and a reason ends with its only line
  break, if the path has none.
-/
import SyntaxCorpus.Batch.FailureLine
import SyntaxCorpus.Proofs.Text.Words

namespace SyntaxCorpus

/-! ## Paths -/

/-- Characters are replaced without bringing one back. -/
theorem not_mem_replaceChar {c d : Char} {by_ cs : List Char} (hby : d ∉ by_)
    (h : d = c ∨ d ∉ cs) : d ∉ replaceChar c by_ cs := by
  simp only [replaceChar, List.mem_flatMap, not_exists, not_and]
  intro e he
  split
  · exact hby
  · rename_i hec
    rcases h with rfl | h
    · simpa using fun hde : d = e => hec (by simp [hde])
    · simpa using fun hde : d = e => h (by rwa [hde])

/-- The characters that are escaped are not in an escaped path, the backslash
apart. -/
theorem not_mem_escapePath (path : String) {c : Char} (hc : c = '\n' ∨ c = '\r' ∨ c = '\t') :
    c ∉ (escapePath path).toList := by
  simp only [escapePath, pathEscapes, List.foldl_cons, List.foldl_nil, String.toList_ofList]
  rcases hc with rfl | rfl | rfl
  · refine not_mem_replaceChar (by decide) (.inr ?_)
    refine not_mem_replaceChar (by decide) (.inr ?_)
    exact not_mem_replaceChar (by decide) (.inl rfl)
  · refine not_mem_replaceChar (by decide) (.inr ?_)
    exact not_mem_replaceChar (by decide) (.inl rfl)
  · exact not_mem_replaceChar (by decide) (.inl rfl)

theorem hasLineBreak_eq_false_iff {path : String} :
    hasLineBreak path = false ↔ '\n' ∉ path.toList ∧ '\r' ∉ path.toList := by
  simp only [hasLineBreak, List.any_eq_false, Bool.or_eq_true, beq_iff_eq, not_or]
  constructor
  · intro h
    exact ⟨fun hc => (h _ hc).1 rfl, fun hc => (h _ hc).2 rfl⟩
  · rintro ⟨hn, hr⟩ c hc
    exact ⟨fun heq => hn (heq ▸ hc), fun heq => hr (heq ▸ hc)⟩

/-! ## Escapes -/

/-- What a character of a path is written as. -/
def escapedChar : Char → List Char
  | '\\' => ['\\', '\\']
  | '\n' => ['\\', 'n']
  | '\r' => ['\\', 'r']
  | '\t' => ['\\', 't']
  | c => [c]

/-- Characters that are replaced one after the other are replaced in every
character of a text. -/
theorem foldl_replaceChar (table : List (Char × List Char)) : ∀ cs : List Char,
    table.foldl (fun cs (c, by_) => replaceChar c by_ cs) cs
      = cs.flatMap fun d => table.foldl (fun cs (c, by_) => replaceChar c by_ cs) [d] := by
  induction table with
  | nil =>
    intro cs
    simp
  | cons entry table ih =>
    intro cs
    obtain ⟨c, by_⟩ := entry
    have hone : ∀ d, replaceChar c by_ [d] = if d == c then by_ else [d] :=
      fun d => List.flatMap_singleton _ d
    simp only [List.foldl_cons, hone]
    rw [ih, replaceChar, List.flatMap_assoc]
    refine congrArg cs.flatMap (funext fun d => ?_)
    exact (ih _).symm

theorem foldl_pathEscapes (d : Char) :
    pathEscapes.foldl (fun cs (c, by_) => replaceChar c by_ cs) [d] = escapedChar d := by
  unfold escapedChar
  split
  · decide
  · decide
  · decide
  · decide
  · rename_i hslash hnewline hreturn htab
    have hsame : ∀ c by_, d ≠ c → replaceChar c by_ [d] = [d] := by
      intro c by_ hne
      simp [replaceChar, hne]
    simp only [pathEscapes, List.foldl_cons, List.foldl_nil]
    rw [hsame '\\' _ hslash, hsame '\n' _ hnewline, hsame '\r' _ hreturn, hsame '\t' _ htab]

/-- A path is escaped character by character. -/
theorem toList_escapePath (path : String) :
    (escapePath path).toList = path.toList.flatMap escapedChar := by
  rw [escapePath, String.toList_ofList, foldl_replaceChar]
  exact congrArg path.toList.flatMap (funext foldl_pathEscapes)

/-- The character that an escape stands for. -/
def escapeMeaning : Char → Char
  | 'n' => '\n'
  | 'r' => '\r'
  | 't' => '\t'
  | c => c

/-- Characters with their escapes read. -/
def unescapeChars : List Char → List Char
  | '\\' :: c :: cs => escapeMeaning c :: unescapeChars cs
  | c :: cs => c :: unescapeChars cs
  | [] => []

/-- A path with its escapes read. -/
def unescapePath (path : String) : String := String.ofList (unescapeChars path.toList)

theorem unescapeChars_cons {c : Char} (hc : c ≠ '\\') (cs : List Char) :
    unescapeChars (c :: cs) = c :: unescapeChars cs := by
  rw [unescapeChars]
  intro d ds h
  exact absurd h hc

theorem unescapeChars_escapedChar (c : Char) (cs : List Char) :
    unescapeChars (escapedChar c ++ cs) = c :: unescapeChars cs := by
  unfold escapedChar
  split
  · rfl
  · rfl
  · rfl
  · rfl
  · rename_i hslash _ _ _
    rw [List.singleton_append, unescapeChars_cons hslash]

theorem unescapeChars_flatMap : ∀ cs : List Char, unescapeChars (cs.flatMap escapedChar) = cs
  | [] => rfl
  | c :: cs => by
    rw [List.flatMap_cons, unescapeChars_escapedChar, unescapeChars_flatMap cs]

theorem unescapePath_escapePath (path : String) : unescapePath (escapePath path) = path := by
  rw [unescapePath, toList_escapePath, unescapeChars_flatMap, String.ofList_toList]

/-- Characters in which every backslash starts an escape, and which have no other
line break or tab. -/
inductive IsEscaped : List Char → Prop
  | nil : IsEscaped []
  | plain {c cs} (hc : c ∉ ['\\', '\n', '\r', '\t']) (h : IsEscaped cs) : IsEscaped (c :: cs)
  | escape {c cs} (hc : c ∈ ['\\', 'n', 'r', 't']) (h : IsEscaped cs) :
      IsEscaped ('\\' :: c :: cs)

theorem isEscaped_flatMap : ∀ cs : List Char, IsEscaped (cs.flatMap escapedChar)
  | [] => .nil
  | c :: cs => by
    rw [List.flatMap_cons]
    have h := isEscaped_flatMap cs
    unfold escapedChar
    split
    · exact .escape (by decide) h
    · exact .escape (by decide) h
    · exact .escape (by decide) h
    · exact .escape (by decide) h
    · rename_i hslash hnewline hreturn htab
      refine .plain ?_ h
      simp only [List.mem_cons, List.not_mem_nil, or_false, not_or]
      exact ⟨hslash, hnewline, hreturn, htab⟩

theorem IsEscaped.flatMap_unescapeChars {cs : List Char} (h : IsEscaped cs) :
    (unescapeChars cs).flatMap escapedChar = cs := by
  induction h with
  | nil => rfl
  | @plain c cs hc _ ih =>
    simp only [List.mem_cons, List.not_mem_nil, or_false, not_or] at hc
    obtain ⟨hslash, hnewline, hreturn, htab⟩ := hc
    have hsame : escapedChar c = [c] := by
      unfold escapedChar
      split
      · exact absurd rfl hslash
      · exact absurd rfl hnewline
      · exact absurd rfl hreturn
      · exact absurd rfl htab
      · rfl
    rw [unescapeChars_cons hslash, List.flatMap_cons, hsame, ih, List.singleton_append]
  | @escape c cs hc _ ih =>
    have hescapes : ['\\', 'n', 'r', 't'].all
        (fun c => escapedChar (escapeMeaning c) == ['\\', c]) = true := by decide
    have hescape := eq_of_beq (List.all_eq_true.mp hescapes c hc)
    rw [unescapeChars, List.flatMap_cons, hescape, ih]
    rfl

/-- The escaped paths are the texts that are read and written again without a
change. -/
theorem exists_escapePath_iff {text : String} :
    (∃ path, escapePath path = text) ↔ IsEscaped text.toList := by
  constructor
  · rintro ⟨path, rfl⟩
    rw [toList_escapePath]
    exact isEscaped_flatMap path.toList
  · intro h
    refine ⟨unescapePath text, ?_⟩
    rw [← String.toList_inj, toList_escapePath, unescapePath, String.toList_ofList,
      h.flatMap_unescapeChars]

theorem escapePath_inj {a b : String} : escapePath a = escapePath b ↔ a = b := by
  constructor
  · intro h
    rw [← unescapePath_escapePath a, h, unescapePath_escapePath]
  · exact congrArg escapePath

/-- **An escaped path has no line break and no tab; it is written character by
character and can be read back, whatever escapes the path itself looks like; so no
two paths have one escaped form.** -/
theorem escapePath_readsBack :
    (∀ path, '\n' ∉ (escapePath path).toList ∧ '\r' ∉ (escapePath path).toList ∧
      '\t' ∉ (escapePath path).toList) ∧
    (∀ path, (escapePath path).toList = path.toList.flatMap escapedChar) ∧
    Function.LeftInverse unescapePath escapePath ∧ Function.Injective escapePath ∧
    ∀ text : String, (∃ path, escapePath path = text) ↔ IsEscaped text.toList := by
  refine ⟨fun path => ⟨?_, ?_, ?_⟩, toList_escapePath, unescapePath_escapePath,
    fun a b => escapePath_inj.mp, fun text => exists_escapePath_iff⟩
  · exact not_mem_escapePath path (.inl rfl)
  · exact not_mem_escapePath path (.inr (.inl rfl))
  · exact not_mem_escapePath path (.inr (.inr rfl))

example : escapePath "a\nb" = "a\\nb" ∧ escapePath "a\\nb" = "a\\\\nb" := by decide

/-! ## Path fields -/

/-- The path of a file in its line of the failure log. -/
def pathField (path : String) : String := if hasLineBreak path then escapePath path else path

theorem pathField_of_broken {path : String} (h : hasLineBreak path = true) :
    pathField path = escapePath path := if_pos h

theorem pathField_of_unbroken {path : String} (h : hasLineBreak path = false) :
    pathField path = path := by
  rw [pathField, h, if_neg Bool.false_ne_true]

theorem hasLineBreak_escapePath (path : String) : hasLineBreak (escapePath path) = false :=
  hasLineBreak_eq_false_iff.mpr
    ⟨not_mem_escapePath path (.inl rfl), not_mem_escapePath path (.inr (.inl rfl))⟩

/-- A tab gets into a path field if nothing is escaped in the path. -/
theorem tab_mem_pathField_iff {path : String} :
    '\t' ∈ (pathField path).toList ↔ hasLineBreak path = false ∧ '\t' ∈ path.toList := by
  cases hbreak : hasLineBreak path with
  | true => simp [pathField_of_broken hbreak, not_mem_escapePath path]
  | false => simp [pathField_of_unbroken hbreak]

/-- Two paths have one field if one of them is written like the escapes of the
other. -/
theorem pathField_eq_iff {a b : String} :
    pathField a = pathField b ↔ a = b ∨ (hasLineBreak a = true ∧ b = escapePath a) ∨
      (hasLineBreak b = true ∧ a = escapePath b) := by
  cases ha : hasLineBreak a with
  | true =>
    cases hb : hasLineBreak b with
    | true =>
      rw [pathField_of_broken ha, pathField_of_broken hb, escapePath_inj]
      constructor
      · exact .inl
      · rintro (h | ⟨-, rfl⟩ | ⟨-, rfl⟩)
        · exact h
        · rw [hasLineBreak_escapePath] at hb
          cases hb
        · rw [hasLineBreak_escapePath] at ha
          cases ha
    | false =>
      rw [pathField_of_broken ha, pathField_of_unbroken hb]
      constructor
      · exact fun h => .inr (.inl ⟨rfl, h.symm⟩)
      · rintro (rfl | ⟨-, h⟩ | ⟨h, -⟩)
        · rw [ha] at hb
          cases hb
        · exact h.symm
        · cases h
  | false =>
    cases hb : hasLineBreak b with
    | true =>
      rw [pathField_of_unbroken ha, pathField_of_broken hb]
      constructor
      · exact fun h => .inr (.inr ⟨rfl, h⟩)
      · rintro (rfl | ⟨h, -⟩ | ⟨-, h⟩)
        · rw [ha] at hb
          cases hb
        · cases h
        · exact h
    | false => simp [pathField_of_unbroken ha, pathField_of_unbroken hb]

example : pathField "a\nb" = pathField "a\\nb" := by decide

/-! ## Lines -/

/-- The line of a path and a reason without its end. -/
def failureText (path reason : String) : String := path ++ "\t" ++ Text.oneLine reason

theorem failureLine_eq (path reason : String) :
    failureLine path reason = failureText path reason ++ "\n" := rfl

theorem not_mem_failureText {path : String} (h : '\n' ∉ path.toList) (reason : String) :
    '\n' ∉ (failureText path reason).toList := by
  have hreason := Text.not_mem_oneLine (by decide : Text.isBlank '\n' = true) (by decide) reason
  simp [failureText, h, hreason]

end SyntaxCorpus
