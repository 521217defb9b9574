/-
SyntaxCorpus.Proofs.Tree.Preorder — places in document order.

A subtree takes up one stretch of the document order of its tree: its root,
and right after it the subtrees below the root, one after the other. So the
place of a child is known from the sizes of the siblings before it.

* `preorder_prefix_drop` — the nodes of a subtree follow on its root.
* `add_size_le`, `getElem?_preorder_child` — where the stretch of a subtree
  ends, and at which places its children are.
* `exists_sibling_of_lt` — every place in the stretch of a list of trees is in
  the stretch of one of them.
* `getElem?_forestNumbersFrom` — the numbers of siblings are their places.
-/
import SyntaxCorpus.Proofs.Tree.Numbering

namespace SyntaxCorpus.Tree

variable {α β : Type}

/-! ## Stretches -/

@[simp] theorem length_preorder (t : Tree α) : t.preorder.length = t.size := by
  rw [← length_labels, labels, List.length_map]

theorem size_pos (t : Tree α) : 0 < t.size := by
  cases t with
  | node a ts => simp only [size]; omega

theorem size_eq (t : Tree α) : t.size = 1 + forestSize t.children := by
  cases t with
  | node a ts => rw [size, children]

mutual
/-- The nodes of a subtree follow on its root. -/
theorem preorder_prefix_drop : ∀ (t : Tree α) (i : Nat) (u : Tree α),
    t.preorder[i]? = some u → u.preorder <+: t.preorder.drop i
  | node a ts, 0, u, h => by
      rw [preorder_node, List.getElem?_cons_zero] at h
      obtain rfl := Option.some.inj h
      exact List.prefix_rfl
  | node a ts, i + 1, u, h => by
      rw [preorder_node, List.getElem?_cons_succ] at h
      rw [preorder_node, List.drop_succ_cons]
      exact forest_preorder_prefix_drop ts i u h

theorem forest_preorder_prefix_drop : ∀ (ts : List (Tree α)) (i : Nat) (u : Tree α),
    (ts.flatMap preorder)[i]? = some u → u.preorder <+: (ts.flatMap preorder).drop i
  | [], i, u, h => by simp at h
  | t :: ts, i, u, h => by
      rw [List.flatMap_cons] at h ⊢
      by_cases hi : i < t.preorder.length
      · rw [List.getElem?_append_left hi] at h
        rw [List.drop_append_of_le_length (Nat.le_of_lt hi)]
        exact (preorder_prefix_drop t i u h).trans (List.prefix_append _ _)
      · obtain ⟨d, rfl⟩ := Nat.exists_eq_add_of_le (Nat.le_of_not_lt hi)
        rw [List.getElem?_append_right (Nat.le_add_right _ d), Nat.add_sub_cancel_left] at h
        rw [List.drop_length_add_append]
        exact forest_preorder_prefix_drop ts d u h
end

variable {t u v : Tree α} {i j k : Nat}

/-- The nodes of a subtree, each at its place in the whole tree. -/
theorem getElem?_preorder_add (h : t.preorder[i]? = some u) (hv : u.preorder[k]? = some v) :
    t.preorder[i + k]? = some v := by
  obtain ⟨rest, hrest⟩ := preorder_prefix_drop t i u h
  have hlt := (List.getElem?_eq_some_iff.mp hv).1
  rw [← List.getElem?_drop, ← hrest, List.getElem?_append_left hlt, hv]

theorem add_size_le (h : t.preorder[i]? = some u) : i + u.size ≤ t.size := by
  have hlt := (List.getElem?_eq_some_iff.mp h).1
  have hle := (preorder_prefix_drop t i u h).length_le
  simp only [List.length_drop, length_preorder] at hle hlt
  omega

/-- Every place in the stretch of a subtree has a node of the subtree. -/
theorem exists_getElem?_preorder (h : t.preorder[i]? = some u) (hk : k < u.size) :
    ∃ v, u.preorder[k]? = some v ∧ t.preorder[i + k]? = some v := by
  rw [← length_preorder] at hk
  have hv := List.getElem?_eq_getElem hk
  exact ⟨_, hv, getElem?_preorder_add h hv⟩

/-! ## Siblings -/

section

variable {ts : List (Tree α)}

theorem forestSize_take_succ (h : ts[k]? = some v) :
    forestSize (ts.take (k + 1)) = forestSize (ts.take k) + v.size := by
  induction ts generalizing k with
  | nil => simp at h
  | cons t ts ih =>
    cases k with
    | zero =>
      obtain rfl : t = v := by simpa using h
      simp [forestSize]
    | succ k =>
      rw [List.getElem?_cons_succ] at h
      simp only [List.take_succ_cons, forestSize, ih h]
      omega

theorem forestSize_take_add_le (h : ts[k]? = some v) :
    forestSize (ts.take k) + v.size ≤ forestSize ts := by
  induction ts generalizing k with
  | nil => simp at h
  | cons t ts ih =>
    cases k with
    | zero =>
      obtain rfl : t = v := by simpa using h
      simp [forestSize]
    | succ k =>
      rw [List.getElem?_cons_succ] at h
      have hle := ih h
      simp only [List.take_succ_cons, forestSize]
      omega

/-- A tree of a list comes after all nodes of the trees before it. -/
theorem getElem?_forest_preorder (h : ts[k]? = some v) :
    (ts.flatMap preorder)[forestSize (ts.take k)]? = some v := by
  induction ts generalizing k with
  | nil => simp at h
  | cons t ts ih =>
    cases k with
    | zero =>
      obtain rfl : t = v := by simpa using h
      cases t with
      | node a us => simp [preorder_node, forestSize]
    | succ k =>
      rw [List.getElem?_cons_succ] at h
      rw [List.take_succ_cons, forestSize, List.flatMap_cons, ← length_preorder,
        List.getElem?_append_right (Nat.le_add_right _ _), Nat.add_sub_cancel_left]
      exact ih h

/-- Every place in the stretch of a list of trees is in that of one tree. -/
theorem exists_sibling_of_lt (h : j < forestSize ts) :
    ∃ k v, ts[k]? = some v ∧ forestSize (ts.take k) ≤ j ∧
      j < forestSize (ts.take k) + v.size := by
  induction ts generalizing j with
  | nil => simp [forestSize] at h
  | cons t ts ih =>
    simp only [forestSize] at h
    by_cases hj : j < t.size
    · exact ⟨0, t, rfl, by simp [forestSize], by simpa [forestSize] using hj⟩
    · have hrest : j - t.size < forestSize ts := by omega
      obtain ⟨k, v, hv, hle, hlt⟩ := ih hrest
      refine ⟨k + 1, v, by simpa using hv, ?_, ?_⟩
      · simp only [List.take_succ_cons, forestSize]
        omega
      · simp only [List.take_succ_cons, forestSize]
        omega

theorem length_forestNumbersFrom (ts : List (Tree α)) (start : Nat) :
    (forestNumbersFrom start ts).length = ts.length := by
  induction ts generalizing start with
  | nil => rfl
  | cons t ts ih => simp [forestNumbersFrom, ih]

/-- The numbers of siblings are their places. -/
theorem getElem?_forestNumbersFrom (start : Nat) (h : ts[k]? = some v) :
    (forestNumbersFrom start ts)[k]? = some (numbersFrom (start + forestSize (ts.take k)) v) := by
  induction ts generalizing start k with
  | nil => simp at h
  | cons t ts ih =>
    cases k with
    | zero =>
      obtain rfl : t = v := by simpa using h
      simp [forestNumbersFrom, forestSize]
    | succ k =>
      rw [List.getElem?_cons_succ] at h
      rw [forestNumbersFrom, List.getElem?_cons_succ, ih (start + t.size) h, List.take_succ_cons,
        forestSize, Nat.add_assoc]

end

/-! ## Children -/

/-- The place of a child of the node at place `i`, the root of `u`. -/
def childPlace (i : Nat) (u : Tree α) (k : Nat) : Nat := i + 1 + forestSize (u.children.take k)

theorem lt_childPlace (i : Nat) (u : Tree α) (k : Nat) : i < childPlace i u k := by
  rw [childPlace]
  omega

/-- Children come in order. -/
theorem childPlace_lt (i : Nat) {l : Nat} (hkl : k < l) (hl : l < u.children.length) :
    childPlace i u k < childPlace i u l := by
  induction l with
  | zero => omega
  | succ l ih =>
    have hlast := List.getElem?_eq_getElem (Nat.lt_of_succ_lt hl)
    have hpos := u.children[l].size_pos
    have hsucc := forestSize_take_succ hlast
    have hstep : childPlace i u l < childPlace i u (l + 1) := by
      rw [childPlace, childPlace]
      omega
    rcases Nat.lt_succ_iff_lt_or_eq.mp hkl with hlt | rfl
    · exact Nat.lt_trans (ih hlt (Nat.lt_of_succ_lt hl)) hstep
    · exact hstep

theorem getElem?_preorder_child (h : t.preorder[i]? = some u) (hv : u.children[k]? = some v) :
    t.preorder[childPlace i u k]? = some v := by
  cases u with
  | node a ts =>
    have hplace : (node a ts).preorder[1 + forestSize (ts.take k)]? = some v := by
      rw [preorder_node, Nat.add_comm 1, List.getElem?_cons_succ]
      exact getElem?_forest_preorder hv
    rw [childPlace, Nat.add_assoc]
    exact getElem?_preorder_add h hplace

/-- The stretch of a child is inside that of its parent. -/
theorem childPlace_add_size_le (hv : u.children[k]? = some v) :
    childPlace i u k + v.size ≤ i + u.size := by
  have hle := forestSize_take_add_le hv
  rw [size_eq u, childPlace]
  omega

/-- Every place below a node is in the stretch of one of its children. -/
theorem exists_child_of_lt (hij : i < j) (hj : j < i + u.size) :
    ∃ k v, u.children[k]? = some v ∧ childPlace i u k ≤ j ∧ j < childPlace i u k + v.size := by
  rw [size_eq u] at hj
  have hbelow : j - (i + 1) < forestSize u.children := by omega
  obtain ⟨k, v, hv, hle, hlt⟩ := exists_sibling_of_lt hbelow
  refine ⟨k, v, hv, ?_, ?_⟩
  · rw [childPlace]
    omega
  · rw [childPlace]
    omega

/-- The numbers of the children of a node are their places. -/
theorem labels_children_eq (i : Nat) (u : Tree α) :
    (forestNumbersFrom (i + 1) u.children).map label
      = (List.range u.children.length).map (childPlace i u) := by
  refine List.ext_getElem? fun k => ?_
  rw [List.getElem?_map, List.getElem?_map]
  by_cases hk : k < u.children.length
  · have hv := List.getElem?_eq_getElem hk
    rw [getElem?_forestNumbersFrom (i + 1) hv, List.getElem?_range hk, Option.map_some,
      Option.map_some, label_numbersFrom, childPlace]
  · rw [List.getElem?_eq_none (by rw [length_forestNumbersFrom]; omega),
      List.getElem?_eq_none (by rw [List.length_range]; omega)]
    rfl

/-! ## Labels replaced -/

theorem children_map (f : α → β) (t : Tree α) : (t.map f).children = t.children.map (map f) := by
  cases t with
  | node a ts => rw [map_node, children, children]

theorem label_map (f : α → β) (t : Tree α) : (t.map f).label = f t.label := by
  cases t with
  | node a ts => rw [map_node, label, label]

mutual
theorem preorder_map (f : α → β) : ∀ t : Tree α, (t.map f).preorder = t.preorder.map (map f)
  | node a ts => by
      rw [map_node, preorder_node, preorder_node, List.map_cons, forest_preorder_map f ts, map_node]

theorem forest_preorder_map (f : α → β) : ∀ ts : List (Tree α),
    (ts.map (map f)).flatMap preorder = (ts.flatMap preorder).map (map f)
  | [] => rfl
  | t :: ts => by
      rw [List.map_cons, List.flatMap_cons, List.flatMap_cons, List.map_append,
        preorder_map f t, forest_preorder_map f ts]
end

theorem forestSize_map (f : α → β) (ts : List (Tree α)) :
    forestSize (ts.map (map f)) = forestSize ts := by
  induction ts with
  | nil => rfl
  | cons t ts ih => simp only [List.map_cons, forestSize, size_map, ih]

theorem childPlace_map (f : α → β) (i : Nat) (u : Tree α) (k : Nat) :
    childPlace i (u.map f) k = childPlace i u k := by
  rw [childPlace, childPlace, children_map, ← List.map_take, forestSize_map]

end SyntaxCorpus.Tree
