/-
SyntaxCorpus.Proofs.Pattern.Wildcard — which names fit a pattern.

A name is compared with all of a pattern at once: for each piece of the pattern
there is a table that tells which ends of the name fit what is left of it. Which
names fit is said by rules, one for each kind of character in a pattern.

* `Fits` — the rules.
* `fitsAll_run_iff`, `fitsAll_one_iff` — what the table of a piece has in front.
* `matchesName_iff` — the table and the rules agree.
-/
import SyntaxCorpus.Pattern.Wildcard

namespace SyntaxCorpus.Pattern

/-! ## The rules -/

/-- Which characters fit those of a pattern. -/
inductive Fits : List Char → List Char → Prop
  | done : Fits [] []
  | run (front : List Char) {ps cs} (h : Fits ps cs) : Fits ('*' :: ps) (front ++ cs)
  | any (c : Char) {ps cs} (h : Fits ps cs) : Fits ('?' :: ps) (c :: cs)
  | ofClass {ps body rest c cs} (hbody : classBody? ps = some (body, rest))
      (hc : (CharTest.ofBody body).passes c = true) (h : Fits rest cs) :
      Fits ('[' :: ps) (c :: cs)
  /-- A bracket that is not closed stands for itself. -/
  | unclosed {ps cs} (hbody : classBody? ps = none) (h : Fits ps cs) : Fits ('[' :: ps) ('[' :: cs)
  | same {p ps cs} (hp : isWildcard p = false) (h : Fits ps cs) : Fits (p :: ps) (p :: cs)

/-! ## The tables -/

theorem length_fits (name : List Char) (ps : List Piece) :
    (fits name ps).length = name.length + 1 := by
  induction ps with
  | nil => simp [fits]
  | cons p ps ih => cases p <;> simp [fits, ih]

theorem fits_ne_nil (name : List Char) (ps : List Piece) : fits name ps ≠ [] :=
  List.ne_nil_of_length_eq_add_one (length_fits name ps)

/-- A table without its first entry is that of the name without its first
character. -/
theorem tail_fits (c : Char) (cs : List Char) (ps : List Piece) :
    (fits (c :: cs) ps).tail = fits cs ps := by
  induction ps with
  | nil => rfl
  | cons p ps ih =>
    obtain ⟨x, hx⟩ : ∃ x, fits (c :: cs) ps = x :: fits cs ps := by
      rw [← ih]
      exact ⟨_, (List.cons_head_tail (fits_ne_nil _ ps)).symm⟩
    cases p with
    | anyRun =>
      rw [fits, fits, hx, List.scanr_cons, List.dropLast_cons_of_ne_nil (by simp), List.tail_cons]
    | one test =>
      obtain ⟨y, ys, hy⟩ := List.exists_cons_of_ne_nil (fits_ne_nil cs ps)
      rw [fits, fits, hx, List.tail_cons, hy, List.zipWith_cons_cons, List.cons_append,
        List.tail_cons, List.tail_cons]

/-- The entry of a table for the whole name. -/
def fitsAll (cs : List Char) (ps : List Piece) : Bool := (fits cs ps).headD false

theorem fits_cons (c : Char) (cs : List Char) (ps : List Piece) :
    fits (c :: cs) ps = fitsAll (c :: cs) ps :: fits cs ps := by
  obtain ⟨x, xs, hx⟩ := List.exists_cons_of_ne_nil (fits_ne_nil (c :: cs) ps)
  rw [fitsAll, ← tail_fits c cs ps, hx]
  rfl

theorem fitsAll_nil (cs : List Char) : fitsAll cs [] = cs.isEmpty := by
  cases cs <;> rfl

theorem any_fits_iff (ps : List Piece) (cs : List Char) : (fits cs ps).any id = true ↔
    ∃ front rest, cs = front ++ rest ∧ fitsAll rest ps = true := by
  induction cs with
  | nil =>
    obtain ⟨x, hx⟩ := List.length_eq_one_iff.mp (length_fits [] ps)
    have hall : fitsAll [] ps = x := by rw [fitsAll, hx, List.headD_cons]
    simp [hx, ← hall, and_assoc]
  | cons c cs ih =>
    rw [fits_cons, List.any_cons, Bool.or_eq_true, ih]
    constructor
    · rintro (h | ⟨front, rest, rfl, h⟩)
      · exact ⟨[], _, rfl, h⟩
      · exact ⟨c :: front, rest, rfl, h⟩
    · rintro ⟨front, rest, heq, h⟩
      cases front with
      | nil =>
        obtain rfl : c :: cs = rest := heq
        exact .inl h
      | cons d front =>
        obtain ⟨rfl, rfl⟩ := List.cons.inj heq
        exact .inr ⟨front, rest, rfl, h⟩

/-- After any run of characters, the rest fits. -/
theorem fitsAll_run_iff (ps : List Piece) (cs : List Char) : fitsAll cs (.anyRun :: ps) = true ↔
    ∃ front rest, cs = front ++ rest ∧ fitsAll rest ps = true := by
  have hfold : ∀ entries : List Bool,
      entries.foldr (fun fit later => fit || later) false = entries.any id := by
    intro entries
    induction entries with
    | nil => rfl
    | cons x xs ih => rw [List.foldr_cons, ih, List.any_cons, id]
  obtain ⟨x, xs, hx⟩ := List.exists_cons_of_ne_nil (fits_ne_nil cs ps)
  rw [← any_fits_iff, fitsAll, fits, hx, List.scanr_cons,
    List.dropLast_cons_of_ne_nil (by simp), List.headD_cons, hfold]

/-- A character passes, and the rest fits. -/
theorem fitsAll_one_iff (test : CharTest) (ps : List Piece) (cs : List Char) :
    fitsAll cs (.one test :: ps) = true ↔
      ∃ c rest, cs = c :: rest ∧ test.passes c = true ∧ fitsAll rest ps = true := by
  cases cs with
  | nil => simp [fitsAll, fits]
  | cons c rest =>
    obtain ⟨y, ys, hy⟩ := List.exists_cons_of_ne_nil (fits_ne_nil rest ps)
    have hall : fitsAll (c :: rest) (.one test :: ps) = (test.passes c && fitsAll rest ps) := by
      rw [fitsAll, fitsAll, fits, tail_fits, hy]
      rfl
    rw [hall, Bool.and_eq_true]
    constructor
    · rintro ⟨hc, hrest⟩
      exact ⟨c, rest, rfl, hc, hrest⟩
    · rintro ⟨d, others, heq, hd, hothers⟩
      obtain ⟨rfl, rfl⟩ := List.cons.inj heq
      exact ⟨hd, hothers⟩

/-! ## Tables and rules -/

theorem piecesOf_class {ps body rest : List Char} (h : classBody? ps = some (body, rest)) :
    piecesOf ('[' :: ps) = .one (CharTest.ofBody body) :: piecesOf rest := by
  rw [piecesOf]
  simp only [show ('[' == '*') = false from rfl, show ('[' == '?') = false from rfl,
    beq_self_eq_true, if_true, Bool.false_eq_true, if_false]
  split
  · rename_i heq
    obtain ⟨rfl, rfl⟩ := Prod.mk.inj (Option.some.inj (h.symm.trans heq))
    rfl
  · rename_i heq
    cases h.symm.trans heq

theorem piecesOf_unclosed {ps : List Char} (h : classBody? ps = none) :
    piecesOf ('[' :: ps) = .one (.exactly '[') :: piecesOf ps := by
  rw [piecesOf]
  simp only [show ('[' == '*') = false from rfl, show ('[' == '?') = false from rfl,
    beq_self_eq_true, if_true, Bool.false_eq_true, if_false]
  split
  · rename_i heq
    cases h.symm.trans heq
  · rfl

theorem piecesOf_same {p : Char} (h : isWildcard p = false) (ps : List Char) :
    piecesOf (p :: ps) = .one (.exactly p) :: piecesOf ps := by
  simp only [isWildcard, Bool.or_eq_false_iff] at h
  rw [piecesOf]
  simp only [h.1.1, h.1.2, h.2, Bool.false_eq_true, if_false]

theorem fitsAll_of_fits {ps cs : List Char} (h : Fits ps cs) : fitsAll cs (piecesOf ps) = true := by
  induction h with
  | done =>
    rw [piecesOf]
    rfl
  | run front h ih =>
    rw [piecesOf]
    exact (fitsAll_run_iff ..).mpr ⟨front, _, rfl, ih⟩
  | any c h ih =>
    rw [piecesOf]
    exact (fitsAll_one_iff ..).mpr ⟨c, _, rfl, rfl, ih⟩
  | ofClass hbody hc h ih =>
    rw [piecesOf_class hbody]
    exact (fitsAll_one_iff ..).mpr ⟨_, _, rfl, hc, ih⟩
  | unclosed hbody h ih =>
    rw [piecesOf_unclosed hbody]
    exact (fitsAll_one_iff ..).mpr ⟨_, _, rfl, beq_self_eq_true _, ih⟩
  | same hp h ih =>
    rw [piecesOf_same hp]
    exact (fitsAll_one_iff ..).mpr ⟨_, _, rfl, beq_self_eq_true _, ih⟩

theorem fits_of_fitsAll (ps : List Char) :
    ∀ {cs : List Char}, fitsAll cs (piecesOf ps) = true → Fits ps cs := by
  fun_induction piecesOf ps with
  | case1 =>
    intro cs h
    rw [fitsAll_nil, List.isEmpty_iff] at h
    rw [h]
    exact .done
  | case2 p ps hp ih =>
    intro cs h
    obtain ⟨front, rest, rfl, hrest⟩ := (fitsAll_run_iff ..).mp h
    rw [eq_of_beq hp]
    exact .run front (ih hrest)
  | case3 p ps _ hp ih =>
    intro cs h
    obtain ⟨c, rest, rfl, -, hrest⟩ := (fitsAll_one_iff ..).mp h
    rw [eq_of_beq hp]
    exact .any c (ih hrest)
  | case4 p ps _ _ hp body others hbody ih =>
    intro cs h
    obtain ⟨c, rest, rfl, hc, hrest⟩ := (fitsAll_one_iff ..).mp h
    rw [eq_of_beq hp]
    exact .ofClass hbody hc (ih hrest)
  | case5 p ps _ _ hp hbody ih =>
    intro cs h
    obtain ⟨c, rest, rfl, hc, hrest⟩ := (fitsAll_one_iff ..).mp h
    obtain rfl := eq_of_beq hp
    obtain rfl := eq_of_beq hc
    exact .unclosed hbody (ih hrest)
  | case6 p ps hrun hany hopen ih =>
    intro cs h
    obtain ⟨c, rest, rfl, hc, hrest⟩ := (fitsAll_one_iff ..).mp h
    obtain rfl := eq_of_beq hc
    exact .same (by simp [isWildcard, hrun, hany, hopen]) (ih hrest)

/-- **The table of a pattern has the names that fit it.** -/
theorem matchesName_iff (pattern name : String) :
    matchesName pattern name = true ↔ Fits pattern.toList name.toList :=
  ⟨fits_of_fitsAll pattern.toList, fitsAll_of_fits⟩

end SyntaxCorpus.Pattern
