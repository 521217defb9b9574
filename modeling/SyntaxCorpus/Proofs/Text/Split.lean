/-
SyntaxCorpus.Proofs.Text.Split — texts put together and cut again.

* `splitOn_eq` — cutting a text is the library's `List.splitOn`, so its theory
  holds here.
* `exists_mem_pieces_iff` — the characters of a text are those of its pieces and
  the one that it is cut at.
* `pieces_intercalate` — texts joined by a character come back, if none of them
  has it.
* `intercalate_pieces` — the pieces of a text, joined, are the text.
* `exists_last_occurrence` — the last place at which a text can be cut.
* `pieces_join_lines` — so do lines that each end with a line break; the last
  piece is what follows the last break.
-/
import Mathlib.Algebra.Ring.Nat
import SyntaxCorpus.Text.Split

namespace SyntaxCorpus.Text

variable {sep : Char}

theorem splitOn_eq (sep : Char) (cs : List Char) : splitOn sep cs = cs.splitOn sep := by
  induction cs with
  | nil => rfl
  | cons c cs ih =>
    rw [splitOn, List.splitOn_cons_eq_if_modifyHead, ← ih]
    split
    · rfl
    · cases h : splitOn sep cs with
      | nil => exact absurd h (splitOn_ne_nil sep cs)
      | cons piece rest => rfl

theorem pieces_ne_nil (sep : Char) (s : String) : pieces sep s ≠ [] := by
  simp [pieces, splitOn_ne_nil]

theorem not_mem_of_mem_splitOn :
    ∀ {cs piece : List Char}, piece ∈ splitOn sep cs → sep ∉ piece := by
  intro cs
  induction cs with
  | nil =>
    intro piece h
    simp only [splitOn, List.mem_singleton] at h
    simp [h]
  | cons c cs ih =>
    intro piece h
    rw [splitOn] at h
    split at h
    · rcases List.mem_cons.mp h with rfl | h
      · simp
      · exact ih h
    · rename_i hc
      split at h
      · rename_i first rest heq
        rw [heq] at ih
        rcases List.mem_cons.mp h with rfl | h
        · have hfirst := ih (List.mem_cons_self ..)
          simp only [List.mem_cons, not_or]
          exact ⟨fun hsep => hc (by simp [hsep]), hfirst⟩
        · exact ih (List.mem_cons_of_mem _ h)
      · rename_i heq
        exact absurd heq (splitOn_ne_nil sep cs)

theorem exists_mem_splitOn_iff {c : Char} (hc : c ≠ sep) (cs : List Char) :
    (∃ piece ∈ splitOn sep cs, c ∈ piece) ↔ c ∈ cs := by
  induction cs with
  | nil => simp [splitOn]
  | cons d cs ih =>
    rw [splitOn, List.mem_cons, ← ih]
    split
    · rename_i hd
      have hcd : c ≠ d := by simpa [eq_of_beq hd] using hc
      simp [hcd]
    · cases hsplit : splitOn sep cs with
      | nil => exact absurd hsplit (splitOn_ne_nil sep cs)
      | cons first rest => simp [or_assoc]

/-- The pieces have every character of a text but the one that it is cut at. -/
theorem exists_mem_pieces_iff {c : Char} (hc : c ≠ sep) (s : String) :
    (∃ piece ∈ pieces sep s, c ∈ piece.toList) ↔ c ∈ s.toList := by
  rw [← exists_mem_splitOn_iff hc]
  constructor
  · rintro ⟨piece, hpiece, hmem⟩
    obtain ⟨cs, hcs, rfl⟩ := List.mem_map.mp hpiece
    exact ⟨cs, hcs, by rwa [String.toList_ofList] at hmem⟩
  · rintro ⟨cs, hcs, hmem⟩
    exact ⟨_, List.mem_map_of_mem hcs, by rwa [String.toList_ofList]⟩

/-- No piece has the character that the text is cut at. -/
theorem not_mem_of_mem_pieces {s piece : String} (h : piece ∈ pieces sep s) :
    sep ∉ piece.toList := by
  obtain ⟨cs, hcs, rfl⟩ := List.mem_map.mp h
  rw [String.toList_ofList]
  exact not_mem_of_mem_splitOn hcs

theorem pieces_append_cons {first : List Char} (h : sep ∉ first) (rest : List Char) :
    pieces sep (String.ofList (first ++ sep :: rest))
      = String.ofList first :: pieces sep (String.ofList rest) := by
  simp only [pieces, String.toList_ofList, splitOn_eq]
  rw [List.splitOn_append_cons_self_of_not_mem h, List.map_cons]

/-- Texts joined by a character come back. -/
theorem pieces_intercalate {names : List String} (hne : names ≠ [])
    (h : ∀ name ∈ names, sep ∉ name.toList) :
    pieces sep (String.intercalate (String.singleton sep) names) = names := by
  have hsplit : ([sep].intercalate (names.map String.toList)).splitOn sep
      = names.map String.toList :=
    List.splitOn_intercalate sep (by simpa using h) (by simpa using hne)
  rw [pieces, splitOn_eq, String.toList_intercalate, String.toList_singleton, hsplit, List.map_map]
  simp

/-- A text is its pieces, joined. -/
theorem intercalate_pieces (sep : Char) (s : String) :
    String.intercalate (String.singleton sep) (pieces sep s) = s := by
  rw [← String.toList_inj, String.toList_intercalate, String.toList_singleton, pieces, splitOn_eq,
    List.map_map]
  simp only [Function.comp_def, String.toList_ofList, List.map_id']
  exact List.intercalate_splitOn sep

/-- The pieces of two texts with the character between them. -/
theorem pieces_append (sep : Char) (s t : String) :
    pieces sep (s ++ String.singleton sep ++ t) = pieces sep s ++ pieces sep t := by
  simp only [pieces, splitOn_eq, String.toList_append, String.toList_singleton,
    List.append_assoc, List.singleton_append, List.splitOn_append_cons_self, List.map_append]

/-- A text without the character is one piece. -/
theorem pieces_of_not_mem {s : String} (h : sep ∉ s.toList) : pieces sep s = [s] := by
  rw [pieces, splitOn_eq, List.splitOn_eq_singleton h, List.map_singleton, String.ofList_toList]

theorem utf8ByteSize_intercalate {sep : String} : ∀ {names : List String}, names ≠ [] →
    (String.intercalate sep names).utf8ByteSize + sep.utf8ByteSize
      = (names.map (·.utf8ByteSize + sep.utf8ByteSize)).sum := by
  intro names
  induction names with
  | nil => exact fun h => absurd rfl h
  | cons name names ih =>
    intro _
    cases names with
    | nil => simp
    | cons next rest =>
      rw [List.map_cons, List.sum_cons, ← ih (List.cons_ne_nil next rest),
        String.intercalate_cons_cons, String.utf8ByteSize_append, String.utf8ByteSize_append]
      omega

/-- Characters are cut at the last occurrence of one of them. -/
theorem exists_last_occurrence {cs : List Char} (h : sep ∈ cs) :
    ∃ front back, cs = front ++ sep :: back ∧ sep ∉ back := by
  -- the last one is the first one from the end
  obtain ⟨back, front, hreversed, hback⟩ := List.eq_append_cons_of_mem (List.mem_reverse.mpr h)
  refine ⟨front.reverse, back.reverse, ?_, by simpa using hback⟩
  rw [← List.reverse_reverse cs, hreversed]
  simp

/-- Lines come back from a text. -/
theorem pieces_join_lines : ∀ {lines : List String}, (∀ line ∈ lines, '\n' ∉ line.toList) →
    pieces '\n' (String.join (lines.map (· ++ "\n"))) = lines ++ [""] := by
  intro lines
  induction lines with
  | nil =>
    intro _
    rfl
  | cons line lines ih =>
    intro h
    have hrest := ih fun l hl => h l (List.mem_cons_of_mem line hl)
    have htext : String.join ((line :: lines).map (· ++ "\n"))
        = String.ofList (line.toList ++ '\n' :: (String.join (lines.map (· ++ "\n"))).toList) := by
      rw [← String.toList_inj]
      simp
    rw [htext, pieces_append_cons (h line (List.mem_cons_self ..)), String.ofList_toList,
      String.ofList_toList, hrest]
    rfl

end SyntaxCorpus.Text
