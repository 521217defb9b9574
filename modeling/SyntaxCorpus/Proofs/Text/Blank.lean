/-
SyntaxCorpus.Proofs.Text.Blank — texts without the blanks at their ends.

* `dropWhile_isBlank`, `strip_eq_self` — a text without blanks has none at its ends.
* `isEmpty_strip` — nothing is left of a blank text, and of no other one.
-/
import Mathlib.Data.List.TakeWhile
import SyntaxCorpus.Text.Blank

namespace SyntaxCorpus.Text

/-- Nothing is dropped if there is no blank at the start. -/
theorem dropWhile_isBlank {cs : List Char} (h : ∀ c ∈ cs.head?, isBlank c = false) :
    cs.dropWhile isBlank = cs := by
  cases cs with
  | nil => rfl
  | cons c cs => rw [List.dropWhile_cons_of_neg (by simp [h c rfl])]

/-- A text without blanks has none at its ends. -/
theorem strip_eq_self {s : String} (h : ∀ c ∈ s.toList, isBlank c = false) : strip s = s := by
  have hdrop : ∀ cs : List Char, (∀ c ∈ cs, isBlank c = false) → cs.dropWhile isBlank = cs :=
    fun cs hcs => dropWhile_isBlank fun c hc => hcs c (List.mem_of_mem_head? hc)
  rw [strip, dropEnds, hdrop _ h, hdrop _ fun c hc => h c (List.mem_reverse.mp hc),
    List.reverse_reverse, String.ofList_toList]

/-- A list is dropped as a whole if all its elements can be. -/
theorem dropEnds_eq_nil_iff {p : Char → Bool} {cs : List Char} :
    dropEnds p cs = [] ↔ ∀ c ∈ cs, p c = true := by
  rw [dropEnds, List.reverse_eq_nil_iff, List.dropWhile_eq_nil_iff]
  constructor
  · intro h c hc
    rw [← List.takeWhile_append_dropWhile (p := p) (l := cs), List.mem_append] at hc
    rcases hc with hc | hc
    · exact List.mem_takeWhile_imp hc
    · exact h c (List.mem_reverse.mpr hc)
  · intro h c hc
    rw [List.dropWhile_eq_nil_iff.mpr h] at hc
    cases hc

/-- Nothing is left of a text if and only if it is blank. -/
theorem isEmpty_strip (s : String) : (strip s).isEmpty = isAllBlank s := by
  rw [Bool.eq_iff_iff, String.isEmpty_iff, strip, ← String.toList_inj, String.toList_ofList,
    isAllBlank, List.all_eq_true]
  exact dropEnds_eq_nil_iff

end SyntaxCorpus.Text
