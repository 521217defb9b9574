/-
SyntaxCorpus.Proofs.Tree.Numbering — the nodes of a tree numbered in document
order.

* `preorder_node` — the loop that meets the subtrees of a tree, by recursion on the tree.
* `labels_node`, `length_labels`, `labels_map` — document order, one node at a time.
* `numbersFrom` — the tree of the numbers that the nodes get when the root
  gets a given one. `labels_numbersFrom`: they are the numbers from there on,
  in document order.
* `entriesFrom` — the outline of a tree by recursion on the tree.
  `outline_eq`: the work list of `outline` finds the same.
-/
import SyntaxCorpus.Tree.Basic

namespace SyntaxCorpus.Tree

variable {α β γ : Type}

/-! ## Document order by recursion -/

/-- Trees are met one after the other. -/
theorem visitOnto_append (ts us : List (Tree α)) (met : Array (Tree α)) :
    visitOnto (ts ++ us) met = visitOnto us (visitOnto ts met) := by
  induction ts, met using visitOnto.induct with
  | case1 met => rw [visitOnto, List.nil_append]
  | case2 met a ts rest ih =>
    rw [List.cons_append, visitOnto, visitOnto, ← List.append_assoc]
    exact ih

/-- What was met before stays in front. -/
theorem toList_visitOnto (ts : List (Tree α)) (met : Array (Tree α)) :
    (visitOnto ts met).toList = met.toList ++ (visitOnto ts #[]).toList := by
  induction hsize : forestSize ts using Nat.strongRecOn generalizing ts met with
  | ind n ih =>
    cases ts with
    | nil => simp [visitOnto]
    | cons t ts =>
      obtain ⟨a, us⟩ := t
      have hless : forestSize (us ++ ts) < n := by
        rw [forestSize_append, ← hsize, forestSize, size]
        omega
      rw [visitOnto, visitOnto, ih _ hless _ (met.push _) rfl, ih _ hless _ (#[].push _) rfl]
      simp

theorem toList_visitOnto_empty (ts : List (Tree α)) :
    (visitOnto ts #[]).toList = ts.flatMap preorder := by
  induction ts with
  | nil => simp [visitOnto]
  | cons t ts ih =>
    have happend := visitOnto_append [t] ts #[]
    rw [List.singleton_append] at happend
    rw [happend, toList_visitOnto, ih, List.flatMap_cons, preorder]

/-- The pending subtrees are those of the root's children, once the root is met. -/
theorem preorder_node (a : α) (ts : List (Tree α)) :
    (node a ts).preorder = node a ts :: ts.flatMap preorder := by
  rw [preorder, visitOnto, List.append_nil, toList_visitOnto, toList_visitOnto_empty]
  rfl

theorem labels_node (a : α) (ts : List (Tree α)) :
    (node a ts).labels = a :: ts.flatMap labels := by
  rw [labels, preorder_node, List.map_cons, List.map_flatMap]
  rfl

theorem self_mem_preorder (t : Tree α) : t ∈ t.preorder := by
  cases t with
  | node a ts => rw [preorder_node]; exact List.mem_cons_self

theorem label_mem_labels (t : Tree α) : t.label ∈ t.labels :=
  List.mem_map_of_mem (self_mem_preorder t)

/-! ## Sizes -/

mutual
theorem length_labels : ∀ t : Tree α, t.labels.length = t.size
  | node a ts => by
      rw [labels_node, List.length_cons, length_forest_labels ts, size, Nat.add_comm]

theorem length_forest_labels : ∀ ts : List (Tree α),
    (ts.flatMap labels).length = forestSize ts
  | [] => rfl
  | t :: ts => by
      rw [List.flatMap_cons, List.length_append, length_labels t, length_forest_labels ts,
        forestSize]
end

/-! ## Labels replaced -/

theorem mapForest_eq (f : α → β) (ts : List (Tree α)) : mapForest f ts = ts.map (map f) := by
  induction ts with
  | nil => rfl
  | cons t ts ih => rw [mapForest, ih, List.map_cons]

theorem map_node (f : α → β) (a : α) (ts : List (Tree α)) :
    (node a ts).map f = node (f a) (ts.map (map f)) := by
  rw [map, mapForest_eq]

mutual
theorem labels_map (f : α → β) : ∀ t : Tree α, (t.map f).labels = t.labels.map f
  | node a ts => by
      rw [map_node, labels_node, labels_node, List.map_cons, forest_labels_map f ts]

theorem forest_labels_map (f : α → β) : ∀ ts : List (Tree α),
    (ts.map (map f)).flatMap labels = (ts.flatMap labels).map f
  | [] => rfl
  | t :: ts => by
      rw [List.map_cons, List.flatMap_cons, List.flatMap_cons, List.map_append,
        labels_map f t, forest_labels_map f ts]
end

theorem size_map (f : α → β) (t : Tree α) : (t.map f).size = t.size := by
  rw [← length_labels, labels_map, List.length_map, length_labels]

mutual
theorem map_map (f : α → β) (g : β → γ) : ∀ t : Tree α, (t.map f).map g = t.map (g ∘ f)
  | node a ts => by
      rw [map_node, map_node, map_node, forest_map_map f g ts]
      rfl

theorem forest_map_map (f : α → β) (g : β → γ) : ∀ ts : List (Tree α),
    (ts.map (map f)).map (map g) = ts.map (map (g ∘ f))
  | [] => rfl
  | t :: ts => by
      rw [List.map_cons, List.map_cons, List.map_cons, map_map f g t, forest_map_map f g ts]
end

mutual
theorem map_congr {f g : α → β} : ∀ t : Tree α, (∀ a ∈ t.labels, f a = g a) → t.map f = t.map g
  | node a ts, h => by
      rw [labels_node] at h
      rw [map_node, map_node, h a List.mem_cons_self,
        forest_map_congr ts fun b hb => h b (List.mem_cons_of_mem a hb)]

theorem forest_map_congr {f g : α → β} : ∀ ts : List (Tree α),
    (∀ a ∈ ts.flatMap labels, f a = g a) → ts.map (map f) = ts.map (map g)
  | [], _ => rfl
  | t :: ts, h => by
      rw [List.flatMap_cons] at h
      rw [List.map_cons, List.map_cons,
        map_congr t fun a ha => h a (List.mem_append_left _ ha),
        forest_map_congr ts fun a ha => h a (List.mem_append_right _ ha)]
end

mutual
theorem map_id : ∀ t : Tree α, t.map id = t
  | node a ts => by
      rw [map_node, forest_map_id ts]
      rfl

theorem forest_map_id : ∀ ts : List (Tree α), ts.map (map id) = ts
  | [] => rfl
  | t :: ts => by rw [List.map_cons, map_id t, forest_map_id ts]
end

mutual
/-- A property of every label, said of the labels in document order. -/
theorem all_iff (p : α → Bool) : ∀ t : Tree α, t.all p = true ↔ ∀ a ∈ t.labels, p a = true
  | node a ts => by
      rw [all, labels_node, Bool.and_eq_true, allForest_iff p ts, List.forall_mem_cons]

theorem allForest_iff (p : α → Bool) : ∀ ts : List (Tree α),
    allForest p ts = true ↔ ∀ a ∈ ts.flatMap labels, p a = true
  | [] => by simp [allForest]
  | t :: ts => by
      rw [allForest, Bool.and_eq_true, all_iff p t, allForest_iff p ts, List.flatMap_cons,
        List.forall_mem_append]
end

/-! ## Numbers -/

mutual
/-- The tree of the numbers of the nodes, when the root has number `start`. -/
def numbersFrom (start : Nat) : Tree α → Tree Nat
  | node _ ts => node start (forestNumbersFrom (start + 1) ts)

/-- The numbers of the nodes of a list of trees, the first root having number
`start`. -/
def forestNumbersFrom (start : Nat) : List (Tree α) → List (Tree Nat)
  | [] => []
  | t :: ts => numbersFrom start t :: forestNumbersFrom (start + t.size) ts
end

theorem label_numbersFrom (start : Nat) (t : Tree α) : (numbersFrom start t).label = start := by
  cases t with
  | node a ts => rfl

mutual
/-- The numbers in document order are the numbers from the first one on. -/
theorem labels_numbersFrom : ∀ (t : Tree α) (start : Nat),
    (numbersFrom start t).labels = List.range' start t.size
  | node a ts, start => by
      rw [numbersFrom, labels_node, labels_forestNumbersFrom ts (start + 1), size,
        Nat.add_comm 1, List.range'_succ]

theorem labels_forestNumbersFrom : ∀ (ts : List (Tree α)) (start : Nat),
    (forestNumbersFrom start ts).flatMap labels = List.range' start (forestSize ts)
  | [], _ => rfl
  | t :: ts, start => by
      rw [forestNumbersFrom, List.flatMap_cons, labels_numbersFrom t start,
        labels_forestNumbersFrom ts (start + t.size), forestSize, List.range'_append_1]
end

/-! ## Outlines by recursion -/

mutual
/-- The outline of a tree whose root has number `start` and the given parent. -/
def entriesFrom (parent : Option Nat) (start : Nat) : Tree α → List (Entry α)
  | node a ts => (parent, a) :: forestEntriesFrom start (start + 1) ts

/-- The outlines of the trees below the node `parent`, one after the other. -/
def forestEntriesFrom (parent start : Nat) : List (Tree α) → List (Entry α)
  | [] => []
  | t :: ts => entriesFrom (some parent) start t ++ forestEntriesFrom parent (start + t.size) ts
end

mutual
theorem length_entriesFrom : ∀ (t : Tree α) (parent : Option Nat) (start : Nat),
    (entriesFrom parent start t).length = t.size
  | node a ts, parent, start => by
      rw [entriesFrom, List.length_cons, length_forestEntriesFrom ts start (start + 1), size,
        Nat.add_comm]

theorem length_forestEntriesFrom : ∀ (ts : List (Tree α)) (parent start : Nat),
    (forestEntriesFrom parent start ts).length = forestSize ts
  | [], _, _ => rfl
  | t :: ts, parent, start => by
      rw [forestEntriesFrom, List.length_append, length_entriesFrom t (some parent) start,
        length_forestEntriesFrom ts parent (start + t.size), forestSize]
end

mutual
/-- An outline has the labels of the tree. -/
theorem labels_entriesFrom : ∀ (t : Tree α) (parent : Option Nat) (start : Nat),
    (entriesFrom parent start t).map Prod.snd = t.labels
  | node a ts, parent, start => by
      rw [entriesFrom, List.map_cons, labels_forestEntriesFrom ts start (start + 1),
        labels_node]

theorem labels_forestEntriesFrom : ∀ (ts : List (Tree α)) (parent start : Nat),
    (forestEntriesFrom parent start ts).map Prod.snd = ts.flatMap labels
  | [], _, _ => rfl
  | t :: ts, parent, start => by
      rw [forestEntriesFrom, List.map_append, labels_entriesFrom t (some parent) start,
        labels_forestEntriesFrom ts parent (start + t.size), List.flatMap_cons]
end

/-- The outlines of pending trees, one after the other. -/
def pendingEntries (start : Nat) : List (Option Nat × Tree α) → List (Entry α)
  | [] => []
  | (parent, t) :: rest => entriesFrom parent start t ++ pendingEntries (start + t.size) rest

theorem pendingEntries_under_append (parent : Nat) (rest : List (Option Nat × Tree α)) :
    ∀ (ts : List (Tree α)) (start : Nat), pendingEntries start (under parent ts ++ rest)
      = forestEntriesFrom parent start ts ++ pendingEntries (start + forestSize ts) rest
  | [], _ => rfl
  | t :: ts, start => by
      show entriesFrom (some parent) start t
          ++ pendingEntries (start + t.size) (under parent ts ++ rest) = _
      rw [pendingEntries_under_append parent rest ts (start + t.size), forestEntriesFrom,
        forestSize, List.append_assoc, Nat.add_assoc]

/-- The work list finds the outlines of the pending trees in order. -/
theorem toList_outlineOnto (pending : List (Option Nat × Tree α)) (found : Array (Entry α)) :
    (outlineOnto pending found).toList = found.toList ++ pendingEntries found.size pending := by
  fun_induction outlineOnto pending found with
  | case1 found => simp [pendingEntries]
  | case2 found parent a ts rest ih =>
    rw [ih, pendingEntries_under_append, Array.toList_push, Array.size_push, pendingEntries,
      entriesFrom, size]
    simp [Nat.add_assoc]

theorem outline_eq (t : Tree α) : t.outline = entriesFrom none 0 t := by
  rw [outline, toList_outlineOnto]
  simp [pendingEntries]

end SyntaxCorpus.Tree
