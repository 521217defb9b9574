/-
SyntaxCorpus.Proofs.Grammar.Convert — the syntax tree by recursion on the concrete tree.

`convert` makes the labels of a syntax tree off a list of pending nodes: the children of
the node that came last are next, so their labels stand neither in document order nor
level by level. It is nevertheless enough to look at one round. A pending node has no
children yet, each round makes all children of one node and side by side, and a node that
is not pending any more gets no others. So in the end every pending node has the trees of
its kept children below it, and these make up the tree.

* `syntaxTree` — the root, and below it the trees of the kept children.
* `HavePositions`, `Converts` — where the pending nodes stand, and what the labels are
  that are made for them.
* `converts_convert` — one round after the other, they are what is asked for.
* `normalise_node`, `normaliseKept_cons` — the syntax tree, one node at a time.
-/
import Mathlib.Data.List.Nodup
import SyntaxCorpus.Grammar.Cst
import SyntaxCorpus.Proofs.Tree.Assemble

namespace SyntaxCorpus.Cst

open SyntaxCorpus.Tree (treesUnder treesUnder_append treesUnder_siblings)

mutual
/-- The syntax tree by recursion. -/
def syntaxTree (source : ByteArray) : Cst → Tree Label
  | .node n ts => .node (labelOf source (.node n ts)) (syntaxForest source ts)

/-- The syntax trees of the trees in a list that are kept. -/
def syntaxForest (source : ByteArray) : List Cst → List (Tree Label)
  | [] => []
  | t :: ts =>
    if isKept t.label then syntaxTree source t :: syntaxForest source ts
    else syntaxForest source ts
end

theorem syntaxTree_eq (source : ByteArray) (t : Cst) :
    syntaxTree source t = .node (labelOf source t) (syntaxForest source t.children) := by
  cases t with
  | node n ts => rw [syntaxTree, Tree.children]

theorem syntaxForest_eq (source : ByteArray) (ts : List Cst) :
    syntaxForest source ts = (ts.filter (isKept ·.label)).map (syntaxTree source) := by
  induction ts with
  | nil => rfl
  | cons t ts ih =>
    rw [syntaxForest, ih, List.filter_cons]
    split
    · rw [List.map_cons]
    · rfl

/-! ## Pending nodes -/

section

variable {source : ByteArray} {pending : List (Nat × Cst)} {start : Nat} {ts : List Cst}

theorem map_fst_placed (start : Nat) (ts : List Cst) :
    (placed start ts).map Prod.fst = List.range' start ts.length := by
  rw [placed, List.map_map, ← List.zipIdx_map_snd start ts]
  rfl

theorem mem_placed {t : Cst} {i : Nat} : (i, t) ∈ placed start ts ↔ (t, i) ∈ ts.zipIdx start := by
  simp [placed]

/-- What is pending after a round: the children that it has made, and the other nodes. -/
def nextPending (size : Nat) (t : Cst) (rest : List (Nat × Cst)) : List (Nat × Cst) :=
  (placed (size + 1) t.kept).reverse ++ rest

theorem mem_positions_nextPending {size i : Nat} {t : Cst} {rest : List (Nat × Cst)} :
    i ∈ (nextPending size t rest).map Prod.fst ↔
      (size < i ∧ i ≤ size + t.kept.length) ∨ i ∈ rest.map Prod.fst := by
  rw [nextPending, List.map_append, List.map_reverse, map_fst_placed, List.mem_append,
    List.mem_reverse, List.mem_range'_1]
  refine or_congr_left ⟨fun h => ?_, fun h => ?_⟩ <;> omega

/-- Pending nodes have positions of their own, among `size` labels and the root. -/
structure HavePositions (pending : List (Nat × Cst)) (size : Nat) : Prop where
  nodup : (pending.map Prod.fst).Nodup
  le : ∀ i ∈ pending.map Prod.fst, i ≤ size

namespace HavePositions

variable {parent size : Nat} {t : Cst} {rest : List (Nat × Cst)}

theorem parent_not_mem (h : HavePositions ((parent, t) :: rest) size) :
    parent ∉ rest.map Prod.fst :=
  (List.nodup_cons.mp h.nodup).1

theorem others (h : HavePositions ((parent, t) :: rest) size) : HavePositions rest size :=
  ⟨(List.nodup_cons.mp h.nodup).2, fun i hi => h.le i (List.mem_cons_of_mem _ hi)⟩

/-- So it is after a round: the children have new positions. -/
theorem round (h : HavePositions ((parent, t) :: rest) size) :
    HavePositions (nextPending size t rest) (size + t.kept.length) where
  nodup := by
    rw [nextPending, List.map_append, List.map_reverse, map_fst_placed, List.nodup_append,
      List.nodup_reverse]
    refine ⟨List.nodup_range' .., h.others.nodup, fun i hi j hj => ?_⟩
    rw [List.mem_reverse, List.mem_range'_1] at hi
    have := h.others.le j hj
    omega
  le := by
    intro i hi
    rcases mem_positions_nextPending.mp hi with hmade | hrest
    · exact hmade.2
    · exact Nat.le_trans (h.others.le i hrest) (Nat.le_add_right ..)

end HavePositions

/-- The labels `more` are made for pending nodes, after `size` other ones and the root. -/
structure Converts (source : ByteArray) (pending : List (Nat × Cst)) (size : Nat)
    (more : List (Nat × Label)) : Prop where
  /-- A new label is below a pending node or another new label. -/
  parents : ∀ e ∈ more, e.1 ∈ pending.map Prod.fst ∨ size < e.1
  trees : HavePositions pending size → ∀ i t, (i, t) ∈ pending →
    treesUnder i (size + 1) more = syntaxForest source t.children

namespace Converts

variable {parent size : Nat} {t : Cst} {rest : List (Nat × Cst)} {more : List (Nat × Label)}

/-- What is made later is not below the node whose children have been made. -/
theorem ne_parent (h : Converts source (nextPending size t rest) (size + t.kept.length) more)
    (hpositions : HavePositions ((parent, t) :: rest) size) : ∀ e ∈ more, e.1 ≠ parent := by
  have hle := hpositions.le parent (List.mem_cons_self ..)
  intro e he heq
  rcases h.parents e he with hold | hnew
  · rcases mem_positions_nextPending.mp hold with hmade | hrest
    · omega
    · exact hpositions.parent_not_mem (heq ▸ hrest)
  · omega

/-- The children of a node have their trees when all rounds are over. -/
theorem trees_made (h : Converts source (nextPending size t rest) (size + t.kept.length) more)
    (hpositions : HavePositions ((parent, t) :: rest) size) :
    (t.kept.zipIdx (size + 1)).map (fun x =>
        Tree.node (labelOf source x.1) (treesUnder x.2 (size + 1 + t.kept.length) more))
      = syntaxForest source t.children := by
  have hchildren : (t.kept.zipIdx (size + 1)).map (fun x =>
        Tree.node (labelOf source x.1) (treesUnder x.2 (size + 1 + t.kept.length) more))
      = (t.kept.zipIdx (size + 1)).map fun x => syntaxTree source x.1 := by
    refine List.map_congr_left fun x hx => ?_
    have hmem : (x.2, x.1) ∈ nextPending size t rest :=
      List.mem_append_left _ (List.mem_reverse.mpr (mem_placed.mpr hx))
    rw [Nat.add_right_comm, h.trees hpositions.round x.2 x.1 hmem, syntaxTree_eq]
  rw [hchildren, ← Function.comp_def (syntaxTree source) Prod.fst, ← List.map_map,
    List.zipIdx_map_fst, syntaxForest_eq]
  rfl

/-- A round makes the children of one pending node, which are then pending themselves. -/
theorem round (h : Converts source (nextPending size t rest) (size + t.kept.length) more) :
    Converts source ((parent, t) :: rest) size
      (t.kept.map (fun c => (parent, labelOf source c)) ++ more) where
  parents := by
    intro e he
    rcases List.mem_append.mp he with he | he
    · obtain ⟨c, -, rfl⟩ := List.mem_map.mp he
      exact .inl (List.mem_cons_self ..)
    · rcases h.parents e he with hold | hnew
      · rcases mem_positions_nextPending.mp hold with hmade | hrest
        · exact .inr hmade.1
        · exact .inl (List.mem_cons_of_mem _ hrest)
      · exact .inr (Nat.lt_of_le_of_lt (Nat.le_add_right ..) hnew)
  trees := by
    intro hpositions i u hu
    rcases List.mem_cons.mp hu with heq | hu
    · -- the children that are made now, and no others
      obtain ⟨rfl, rfl⟩ := Prod.mk.inj heq
      rw [treesUnder_siblings (labelOf source) (h.ne_parent hpositions) _ _
        (Nat.lt_succ_of_le (hpositions.le i (List.mem_cons_self ..)))]
      exact h.trees_made hpositions
    · -- a node that stays pending
      have hne : ∀ e ∈ t.kept.map (fun c => (parent, labelOf source c)), e.1 ≠ i := by
        intro e he heq
        obtain ⟨c, -, rfl⟩ := List.mem_map.mp he
        obtain rfl : parent = i := heq
        exact hpositions.parent_not_mem (List.mem_map.mpr ⟨(parent, u), hu, rfl⟩)
      rw [treesUnder_append _ _ hne, List.length_map, Nat.add_right_comm]
      exact h.trees hpositions.round i u (List.mem_append_right _ hu)

end Converts

theorem converts_convert (pending : List (Nat × Cst)) (made : Array (Nat × Label)) :
    ∃ more, (convert source pending made).toList = made.toList ++ more ∧
      Converts source pending made.size more := by
  induction pending, made using convert.induct source with
  | case1 made =>
    refine ⟨[], by rw [convert, List.append_nil], by simp, fun _ i t ht => by cases ht⟩
  | case2 parent t rest made ih =>
    obtain ⟨more, hmore, hconverts⟩ := ih
    have hsize : (made ++ t.kept.map fun c => (parent, labelOf source c)).size
        = made.size + t.kept.length := by
      rw [← Array.length_toList, Array.toList_appendList, List.length_append, List.length_map,
        Array.length_toList]
    rw [hsize] at hconverts
    refine ⟨t.kept.map (fun c => (parent, labelOf source c)) ++ more, ?_, ?_⟩
    · rw [convert, hmore]
      simp
    · exact hconverts.round

end

/-! ## The syntax tree -/

/-- The loop makes the syntax tree. -/
theorem normalise_eq_syntaxTree (source : ByteArray) (t : Cst) :
    normalise source t = syntaxTree source t := by
  obtain ⟨more, hmore, hconverts⟩ : ∃ more, (convert source [(0, t)] #[]).toList = [] ++ more ∧
    Converts source [(0, t)] 0 more := converts_convert [(0, t)] #[]
  have hroot : HavePositions [(0, t)] 0 :=
    ⟨List.nodup_singleton 0, fun i hi => Nat.le_of_eq (List.mem_singleton.mp hi)⟩
  have htrees := hconverts.trees hroot 0 t (List.mem_singleton.mpr rfl)
  rw [normalise, hmore, List.nil_append, Tree.assemble_eq, syntaxTree_eq]
  exact congrArg _ htrees

/-- The syntax trees of the trees in a list that are kept. -/
def normaliseKept (source : ByteArray) (ts : List Cst) : List (Tree Label) :=
  (ts.filter (isKept ·.label)).map (normalise source)

theorem normaliseKept_cons (source : ByteArray) (t : Cst) (ts : List Cst) :
    normaliseKept source (t :: ts)
      = if isKept t.label then normalise source t :: normaliseKept source ts
        else normaliseKept source ts := by
  rw [normaliseKept, List.filter_cons]
  split <;> rfl

theorem normalise_node (source : ByteArray) (n : CstNode) (ts : List Cst) :
    normalise source (.node n ts)
      = .node (labelOf source (.node n ts)) (normaliseKept source ts) := by
  rw [normalise_eq_syntaxTree, syntaxTree, syntaxForest_eq, normaliseKept]
  congr 2
  funext t
  exact (normalise_eq_syntaxTree source t).symm

end SyntaxCorpus.Cst
