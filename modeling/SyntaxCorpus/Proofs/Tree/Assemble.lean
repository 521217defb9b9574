/-
SyntaxCorpus.Proofs.Tree.Assemble — trees put together, by recursion on the labels.

`assemble` hangs every label, with the children that are there by then, below its parent,
from the last label to the first. `treesUnder` says what comes out at a position without
an array: the labels that name it as their parent, in order, each with the trees that
come out at its own position.

* `assemble_eq` — the tree of a root and of the labels after it.
* `treesUnder_append` — labels below other positions do not matter.
* `treesUnder_siblings` — labels below one position that stand side by side.
-/
import SyntaxCorpus.Tree.Basic

namespace SyntaxCorpus.Tree

variable {α β : Type}

/-- The trees below position `p`, the first label having position `start`. -/
def treesUnder (p : Nat) (start : Nat) : List (Nat × α) → List (Tree α)
  | [] => []
  | (q, a) :: rest =>
    (if q = p then [node a (treesUnder start (start + 1) rest)] else [])
      ++ treesUnder p (start + 1) rest

theorem size_hang (entry : (Nat × α) × Nat) (below : Array (List (Tree α))) :
    (hang entry below).size = below.size := Array.size_modify

theorem size_foldr_hang (entries : List ((Nat × α) × Nat)) (below : Array (List (Tree α))) :
    (entries.foldr hang below).size = below.size := by
  induction entries with
  | nil => rfl
  | cons e es ih => rw [List.foldr_cons, size_hang, ih]

theorem getD_hang (q : Nat) (a : α) (i p : Nat) (below : Array (List (Tree α)))
    (hp : p < below.size) :
    (hang ((q, a), i) below).getD p []
      = (if q = p then [node a (below.getD i [])] else []) ++ below.getD p [] := by
  have hs : p < (hang ((q, a), i) below).size := by rwa [size_hang]
  simp only [hang, Array.getD_eq_getD_getElem?] at hs ⊢
  rw [Array.getElem?_eq_getElem hs, Array.getElem_modify, Array.getElem?_eq_getElem hp]
  by_cases h : q = p <;> simp [h]

/-- What hangs at a position, when the labels from position `start` on have been hung. -/
theorem getD_foldr_hang {n : Nat} : ∀ (entries : List (Nat × α)) (start p : Nat), p < n →
    start + entries.length ≤ n →
    ((entries.zipIdx start).foldr hang (Array.replicate n [])).getD p []
      = treesUnder p start entries
  | [], _, p, hp, _ => by simp [treesUnder, hp]
  | (q, a) :: rest, start, p, hp, hn => by
      rw [List.length_cons] at hn
      rw [List.zipIdx_cons, List.foldr_cons, getD_hang, treesUnder,
        getD_foldr_hang rest (start + 1) p hp (by omega),
        getD_foldr_hang rest (start + 1) start (by omega) (by omega)]
      rwa [size_foldr_hang, Array.size_replicate]

/-- The root has the trees below its position. -/
theorem assemble_eq (root : α) (entries : List (Nat × α)) :
    assemble root entries = node root (treesUnder 0 1 entries) := by
  rw [assemble]
  rw [getD_foldr_hang entries 1 0 (Nat.succ_pos _) (by omega)]

/-! ## Labels side by side -/

/-- Labels that have another parent do not matter. -/
theorem treesUnder_append {p : Nat} : ∀ {before : List (Nat × α)} (start : Nat)
    (after : List (Nat × α)), (∀ e ∈ before, e.1 ≠ p) →
    treesUnder p start (before ++ after) = treesUnder p (start + before.length) after
  | [], _, _, _ => rfl
  | (q, a) :: before, start, after, h => by
      have hq : q ≠ p := h (q, a) (List.mem_cons_self ..)
      rw [List.cons_append, treesUnder, if_neg hq, List.nil_append,
        treesUnder_append (start + 1) after fun e he => h e (List.mem_cons_of_mem _ he),
        List.length_cons]
      congr 1
      omega

theorem treesUnder_eq_nil {p : Nat} {entries : List (Nat × α)} (start : Nat)
    (h : ∀ e ∈ entries, e.1 ≠ p) : treesUnder p start entries = [] := by
  have happend := treesUnder_append start [] h
  rwa [List.append_nil] at happend

/-- Labels with one parent, side by side and with no other label below that parent after
them, are its trees. Each has the trees that come after all of them. -/
theorem treesUnder_siblings {p : Nat} (f : β → α) {after : List (Nat × α)}
    (hafter : ∀ e ∈ after, e.1 ≠ p) : ∀ (xs : List β) (start : Nat), p < start →
    treesUnder p start (xs.map (fun x => (p, f x)) ++ after)
      = (xs.zipIdx start).map fun x =>
          node (f x.1) (treesUnder x.2 (start + xs.length) after)
  | [], start, _ => treesUnder_eq_nil start hafter
  | x :: xs, start, hp => by
      have hsiblings : ∀ e ∈ xs.map (fun x => (p, f x)), e.1 ≠ start := by
        intro e he
        obtain ⟨y, -, rfl⟩ := List.mem_map.mp he
        exact Nat.ne_of_lt hp
      have hlength : start + 1 + xs.length = start + (x :: xs).length := by
        rw [List.length_cons]
        omega
      rw [List.map_cons, List.cons_append, treesUnder, if_pos rfl, treesUnder_append _ _ hsiblings,
        treesUnder_siblings f hafter xs (start + 1) (Nat.lt_succ_of_lt hp), List.zipIdx_cons,
        List.map_cons, List.length_map, hlength]
      rfl

end SyntaxCorpus.Tree
