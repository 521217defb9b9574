/-
SyntaxCorpus.Proofs.Text.Words — the words of a text, and texts on one line.

Which words a text has is said by a relation: blanks are skipped, the longest run
of other characters is a word, and so on with what follows it. Words joined by
single spaces have these words again, so all that a text loses on one line is what
stands between its words.

* `HasWords`, `hasWords_iff`, `existsUnique_hasWords` — every text has one list of
  words.
* `SingleSpaced`, `singleSpaced_intercalate` — texts with single spaces between
  their words, and no other blank.
* `FallsInto.intercalate_eq`, `oneLine_eq_self_iff` — such a text is given by its
  words, so these are the texts that stay as they are.
* `oneLine_sameWords` — what a text on one line keeps, and which texts become the
  same line.
-/
import Mathlib.Data.List.Chain
import SyntaxCorpus.Proofs.Text.Blank

namespace SyntaxCorpus.Text

/-! ## Words -/

/-- A word has characters, and none of them is blank. -/
def IsWord (w : List Char) : Prop := w ≠ [] ∧ ∀ c ∈ w, isBlank c = false

/-- The words that characters fall into: the longest runs of characters that are
not blank, in order. -/
inductive FallsInto : List Char → List (List Char) → Prop
  | blanks {gap} (hgap : ∀ c ∈ gap, isBlank c = true) : FallsInto gap []
  | word {gap word rest ws} (hgap : ∀ c ∈ gap, isBlank c = true) (hword : IsWord word)
      (hends : ∀ c ∈ rest.head?, isBlank c = true) (h : FallsInto rest ws) :
      FallsInto (gap ++ word ++ rest) (word :: ws)

/-- The words of a text. -/
def HasWords (s : String) (ws : List String) : Prop := FallsInto s.toList (ws.map String.toList)

variable {c : Char} {cs gap word rest : List Char} {ws : List (List Char)}

namespace FallsInto

theorem isWord (h : FallsInto cs ws) : ∀ w ∈ ws, IsWord w := by
  induction h with
  | blanks => simp
  | word _ hword _ _ ih => exact List.forall_mem_cons.mpr ⟨hword, ih⟩

/-- A blank at the front is no part of a word. -/
theorem cons_blank (hc : isBlank c = true) (h : FallsInto cs ws) : FallsInto (c :: cs) ws := by
  cases h with
  | blanks hgap => exact .blanks (List.forall_mem_cons.mpr ⟨hc, hgap⟩)
  | @word gap word rest ws hgap hword hends h =>
    have hlonger : ∀ d ∈ c :: gap, isBlank d = true := List.forall_mem_cons.mpr ⟨hc, hgap⟩
    have hfalls : FallsInto (c :: gap ++ word ++ rest) (word :: ws) := .word hlonger hword hends h
    exact hfalls

/-- A word ends where a blank or nothing follows. -/
theorem append_word (hword : IsWord word) (hends : ∀ c ∈ rest.head?, isBlank c = true)
    (h : FallsInto rest ws) : FallsInto (word ++ rest) (word :: ws) := by
  have hnone : ∀ c ∈ ([] : List Char), isBlank c = true := by simp
  have hfalls : FallsInto ([] ++ word ++ rest) (word :: ws) := .word hnone hword hends h
  exact hfalls

/-- A character in front of a word belongs to it. -/
theorem cons_letter {d : Char} (hc : isBlank c = false) (hd : isBlank d = false)
    (h : FallsInto (d :: cs) ws) :
    ∃ w ws', ws = w :: ws' ∧ FallsInto (c :: d :: cs) ((c :: w) :: ws') := by
  generalize htext : d :: cs = text at h
  cases h with
  | blanks hgap =>
    have hblank := hgap d (htext ▸ List.mem_cons_self ..)
    rw [hd] at hblank
    cases hblank
  | @word gap word rest ws' hgap hword hends h =>
    cases gap with
    | nil =>
      refine ⟨word, ws', rfl, ?_⟩
      have hlonger : IsWord (c :: word) :=
        ⟨List.cons_ne_nil c word, List.forall_mem_cons.mpr ⟨hc, hword.2⟩⟩
      exact append_word hlonger hends h
    | cons e gap =>
      obtain ⟨rfl, -⟩ := List.cons.inj htext
      have hblank := hgap d (List.mem_cons_self ..)
      rw [hd] at hblank
      cases hblank

end FallsInto

/-! ## Words found -/

theorem wordsOf_cons (c : Char) (cs : List Char) :
    wordsOf (c :: cs) =
      if isBlank c then wordsOf cs
      else
        match cs, wordsOf cs with
        | d :: _, w :: ws => if isBlank d then [c] :: w :: ws else (c :: w) :: ws
        | _, ws => [c] :: ws := rfl

theorem wordsOf_cons_of_blank (hc : isBlank c = true) (cs : List Char) :
    wordsOf (c :: cs) = wordsOf cs := by
  rw [wordsOf_cons, if_pos hc]

theorem wordsOf_cons_of_ends (hc : isBlank c = false)
    (hends : ∀ d ∈ cs.head?, isBlank d = true) : wordsOf (c :: cs) = [c] :: wordsOf cs := by
  rw [wordsOf_cons, if_neg (by simp [hc])]
  split
  · rename_i d cs w ws hws
    rw [if_pos (hends d rfl), hws]
  · rfl

theorem wordsOf_cons_of_letter {d : Char} {w : List Char} (hc : isBlank c = false)
    (hd : isBlank d = false) (h : wordsOf (d :: cs) = w :: ws) :
    wordsOf (c :: d :: cs) = (c :: w) :: ws := by
  rw [wordsOf_cons, if_neg (by simp [hc]), h]
  simp [hd]

theorem wordsOf_blanks_append (hgap : ∀ c ∈ gap, isBlank c = true) (cs : List Char) :
    wordsOf (gap ++ cs) = wordsOf cs := by
  induction gap with
  | nil => rfl
  | cons c gap ih =>
    obtain ⟨hc, hgap⟩ := List.forall_mem_cons.mp hgap
    rw [List.cons_append, wordsOf_cons_of_blank hc, ih hgap]

theorem wordsOf_word_append (hword : IsWord word)
    (hends : ∀ c ∈ rest.head?, isBlank c = true) :
    wordsOf (word ++ rest) = word :: wordsOf rest := by
  induction word with
  | nil => exact absurd rfl hword.1
  | cons c word ih =>
    obtain ⟨hc, hletters⟩ := List.forall_mem_cons.mp hword.2
    cases word with
    | nil => exact wordsOf_cons_of_ends hc hends
    | cons d word =>
      have hd := hletters d (List.mem_cons_self ..)
      exact wordsOf_cons_of_letter hc hd (ih ⟨List.cons_ne_nil d word, hletters⟩)

/-- The words that are found are the words of the characters. -/
theorem fallsInto_wordsOf (cs : List Char) : FallsInto cs (wordsOf cs) := by
  induction cs with
  | nil => exact .blanks (by simp)
  | cons c cs ih =>
    cases hc : isBlank c with
    | true =>
      rw [wordsOf_cons_of_blank hc]
      exact ih.cons_blank hc
    | false =>
      by_cases hends : ∀ d ∈ cs.head?, isBlank d = true
      · rw [wordsOf_cons_of_ends hc hends]
        exact ih.append_word ⟨List.cons_ne_nil c [], by simpa using hc⟩ hends
      · -- the next character is in a word, and this one with it
        cases cs with
        | nil => simp at hends
        | cons d cs =>
          have hd : isBlank d = false := by simpa using hends
          obtain ⟨w, ws, hws, h⟩ := ih.cons_letter hc hd
          rw [wordsOf_cons_of_letter hc hd hws]
          exact h

/-- Characters fall into the words that are found, and into no others. -/
theorem fallsInto_iff : FallsInto cs ws ↔ ws = wordsOf cs := by
  constructor
  · intro h
    induction h with
    | @blanks gap hgap =>
      have hnone := wordsOf_blanks_append hgap []
      rw [List.append_nil] at hnone
      exact hnone.symm
    | word hgap hword hends _ ih =>
      rw [List.append_assoc, wordsOf_blanks_append hgap, wordsOf_word_append hword hends, ih]
  · rintro rfl
    exact fallsInto_wordsOf cs

theorem hasWords_iff {s : String} {ws : List String} : HasWords s ws ↔ ws = words s := by
  have hlists : ws = words s ↔ ws.map String.toList = wordsOf s.toList := by
    constructor
    · rintro rfl
      simp [words, Function.comp_def]
    · intro h
      rw [words, ← h, List.map_map]
      simp [Function.comp_def]
  rw [hlists, HasWords, fallsInto_iff]

/-- Every text has one list of words. -/
theorem existsUnique_hasWords (s : String) : ∃! ws, HasWords s ws :=
  ⟨words s, hasWords_iff.mpr rfl, fun _ h => hasWords_iff.mp h⟩

/-! ## Single spaces -/

/-- Whether the only blanks are single spaces, each between two other
characters. -/
structure SingleSpaced (cs : List Char) : Prop where
  spaces : ∀ c ∈ cs, isBlank c = true → c = ' '
  /-- Of two characters side by side one is not blank. -/
  apart : cs.IsChain fun c d => isBlank c = false ∨ isBlank d = false
  starts : ∀ c ∈ cs.head?, isBlank c = false
  ends : ∀ c ∈ cs.getLast?, isBlank c = false

theorem IsWord.starts (h : IsWord word) (rest : List Char) :
    ∀ c ∈ (word ++ rest).head?, isBlank c = false := by
  intro c hc
  rw [List.head?_append_of_ne_nil _ h.1] at hc
  exact h.2 c (List.mem_of_mem_head? hc)

theorem IsWord.isChain (h : IsWord word) :
    word.IsChain fun c d => isBlank c = false ∨ isBlank d = false :=
  (List.pairwise_of_forall_mem_list fun c hc _ _ => .inl (h.2 c hc)).isChain

/-- A word by itself. -/
theorem IsWord.singleSpaced (h : IsWord word) : SingleSpaced word where
  spaces c hc hblank := by
    rw [h.2 c hc] at hblank
    cases hblank
  apart := h.isChain
  starts c hc := h.2 c (List.mem_of_mem_head? hc)
  ends c hc := h.2 c (List.mem_of_getLast? hc)

/-- A word, a space and a text that starts with a word. -/
theorem SingleSpaced.append_word (hword : IsWord word) (hne : rest ≠ []) (h : SingleSpaced rest) :
    SingleSpaced (word ++ ' ' :: rest) where
  spaces c hc hblank := by
    rcases List.mem_append.mp hc with hc | hc
    · exact hword.singleSpaced.spaces c hc hblank
    · rcases List.mem_cons.mp hc with rfl | hc
      · rfl
      · exact h.spaces c hc hblank
  apart := by
    refine List.isChain_append.mpr ⟨hword.isChain, ?_, fun c hc _ _ => ?_⟩
    · exact List.isChain_cons.mpr ⟨fun d hd => .inr (h.starts d hd), h.apart⟩
    · exact .inl (hword.2 c (List.mem_of_getLast? hc))
  starts := hword.starts (' ' :: rest)
  ends c hc := by
    rw [List.getLast?_append_of_ne_nil _ (List.cons_ne_nil ' ' rest),
      List.getLast?_cons_of_ne_nil hne] at hc
    exact h.ends c hc

theorem intercalate_space_cons_cons (v w : List Char) (ws : List (List Char)) :
    [' '].intercalate (v :: w :: ws) = v ++ ' ' :: [' '].intercalate (w :: ws) := by
  rw [List.intercalate_cons_cons, List.append_assoc, List.singleton_append]

/-- Words joined by spaces are single-spaced, and the words come back. -/
theorem singleSpaced_intercalate (h : ∀ w ∈ ws, IsWord w) :
    SingleSpaced ([' '].intercalate ws) ∧ FallsInto ([' '].intercalate ws) ws := by
  induction ws with
  | nil => exact ⟨⟨by simp, by simp, by simp, by simp⟩, .blanks (by simp)⟩
  | cons w ws ih =>
    obtain ⟨hw, hws⟩ := List.forall_mem_cons.mp h
    obtain ⟨hspaced, hfalls⟩ := ih hws
    cases ws with
    | nil =>
      rw [List.intercalate_singleton]
      have hword : FallsInto (w ++ []) [w] := hfalls.append_word hw (by simp)
      rw [List.append_nil] at hword
      exact ⟨hw.singleSpaced, hword⟩
    | cons v ws =>
      have hne : [' '].intercalate (v :: ws) ≠ [] := by
        intro hnil
        rw [hnil] at hfalls
        cases fallsInto_iff.mp hfalls
      have hspace : isBlank ' ' = true := by decide
      rw [intercalate_space_cons_cons]
      refine ⟨hspaced.append_word hw hne, (hfalls.cons_blank hspace).append_word hw ?_⟩
      simpa using hspace

/-- A text with single spaces is given by its words. Blanks at its start are left
out here, so that the statement holds of what follows a word, too. -/
theorem FallsInto.intercalate_eq (h : FallsInto cs ws)
    (hspaces : ∀ c ∈ cs, isBlank c = true → c = ' ')
    (hapart : cs.IsChain fun c d => isBlank c = false ∨ isBlank d = false)
    (hends : ∀ c ∈ cs.getLast?, isBlank c = false) :
    [' '].intercalate ws = cs.dropWhile isBlank := by
  induction h with
  | @blanks gap hgap =>
    rw [List.dropWhile_eq_nil_iff.mpr hgap]
    rfl
  | @word gap word rest ws hgap hword hnext h ih =>
    rw [List.append_assoc, List.dropWhile_append_of_pos hgap, dropWhile_isBlank (hword.starts rest)]
    cases rest with
    | nil =>
      obtain rfl : ws = [] := fallsInto_iff.mp h
      rw [List.intercalate_singleton, List.append_nil]
    | cons c rest =>
      -- the blank after the word is a space, and no other one follows it
      have hc := hnext c rfl
      obtain rfl := hspaces c (by simp) hc
      have hchain := (List.isChain_append.mp hapart).2.1
      have hstarts : ∀ d ∈ rest.head?, isBlank d = false := fun d hd =>
        ((List.isChain_cons.mp hchain).1 d hd).resolve_left (by simp [hc])
      have hrest := ih (fun c hm => hspaces c (List.mem_append_right _ hm)) hchain
        (by simpa using hends)
      rw [List.dropWhile_cons_of_pos hc, dropWhile_isBlank hstarts] at hrest
      cases ws with
      | nil =>
        obtain rfl : [] = rest := hrest
        simp [hc] at hends
      | cons v ws => rw [intercalate_space_cons_cons, hrest]

/-! ## One line -/

theorem toList_oneLine (s : String) :
    (oneLine s).toList = [' '].intercalate (wordsOf s.toList) := by
  rw [oneLine, String.toList_intercalate, words, List.map_map]
  simp [Function.comp_def]

theorem singleSpaced_oneLine (s : String) : SingleSpaced (oneLine s).toList := by
  rw [toList_oneLine]
  exact (singleSpaced_intercalate (fallsInto_wordsOf _).isWord).1

/-- A text has the same words on one line. -/
theorem words_oneLine (s : String) : words (oneLine s) = words s := by
  have hwords := (singleSpaced_intercalate (fallsInto_wordsOf s.toList).isWord).2
  rw [words, words, toList_oneLine, ← fallsInto_iff.mp hwords]

/-- A text on one line has no blank but the space. -/
theorem not_mem_oneLine (hblank : isBlank c = true) (hspace : c ≠ ' ') (s : String) :
    c ∉ (oneLine s).toList :=
  fun hc => hspace ((singleSpaced_oneLine s).spaces c hc hblank)

/-- The texts that stay as they are on one line are those with single spaces. -/
theorem oneLine_eq_self_iff {s : String} : oneLine s = s ↔ SingleSpaced s.toList := by
  constructor
  · intro h
    rw [← h]
    exact singleSpaced_oneLine s
  · intro h
    have htext := (fallsInto_wordsOf s.toList).intercalate_eq h.spaces h.apart h.ends
    rw [← String.toList_inj, toList_oneLine, htext, dropWhile_isBlank h.starts]

/-- The characters that end a line, in any convention. -/
def lineEnds : List Char :=
  ['\n', '\x0b', '\x0c', '\r', '\x1c', '\x1d', '\x1e', '\u0085', '\u2028', '\u2029']

/-- **On one line a text keeps its words, with single spaces between them and no
other blank; and two texts become the same line exactly if they have the same
words.** -/
theorem oneLine_sameWords (s : String) :
    SingleSpaced (oneLine s).toList ∧
    (∀ c ∈ '\t' :: lineEnds, c ∉ (oneLine s).toList) ∧
    (∃! ws, HasWords s ws) ∧
    (∀ ws, HasWords (oneLine s) ws ↔ HasWords s ws) ∧
    oneLine (oneLine s) = oneLine s ∧
    ∀ t, oneLine s = oneLine t ↔ ∃ ws, HasWords s ws ∧ HasWords t ws := by
  have hends : ('\t' :: lineEnds).all (fun c => isBlank c && c != ' ') = true := by decide
  refine ⟨singleSpaced_oneLine s, fun c hc => ?_, existsUnique_hasWords s, fun ws => ?_,
    oneLine_eq_self_iff.mpr (singleSpaced_oneLine s), fun t => ?_⟩
  · obtain ⟨hblank, hspace⟩ := Bool.and_eq_true_iff.mp (List.all_eq_true.mp hends c hc)
    exact not_mem_oneLine hblank (bne_iff_ne.mp hspace) s
  · rw [hasWords_iff, hasWords_iff, words_oneLine]
  · constructor
    · intro h
      have hwords := words_oneLine t
      rw [← h, words_oneLine] at hwords
      exact ⟨_, hasWords_iff.mpr rfl, hasWords_iff.mpr hwords⟩
    · rintro ⟨ws, hs, ht⟩
      rw [oneLine, oneLine, ← hasWords_iff.mp hs, ← hasWords_iff.mp ht]

end SyntaxCorpus.Text
