/-
SyntaxCorpus.Proofs.Tree.Address — nodes by the way that leads to them.

Nodes with equal subtrees are told apart by their addresses: the address of a
node is the list of the places of children on the way from the root to it.
Document order is the lexicographic order of addresses: a node comes before the
nodes below it, and these come from left to right.

* `at?` — the subtree at an address.
* `entered` — the nodes that are met if only children with a property are
  entered, each with its address; a tree of the same shape as what is entered.
* `Reaches`, `mem_labels_entered` — those are the nodes that are reached by way
  of such children.
* `pairwise_entered` — they come in document order.
* `located` — all nodes; `located_eq_preorder`: the preorder with addresses.
-/
import Mathlib.Data.List.Induction
import Mathlib.Data.List.Lex
import SyntaxCorpus.Proofs.Tree.Preorder

namespace SyntaxCorpus.Tree

variable {α β : Type}

/-! ## Addresses -/

/-- The subtree at an address. -/
def at? (t : Tree α) : List Nat → Option (Tree α)
  | [] => some t
  | i :: as => t.children[i]?.bind fun c => c.at? as

theorem at?_append (t : Tree α) (a b : List Nat) : t.at? (a ++ b) = (t.at? a).bind (·.at? b) := by
  induction a generalizing t with
  | nil => rfl
  | cons i a ih =>
    simp only [List.cons_append, at?]
    cases t.children[i]? with
    | none => rfl
    | some c => simp only [Option.bind_some, ih c]

/-- The nodes that are reached from the root by way of children with a
property, the node itself included; each with its address. -/
inductive Reaches (p : α → Bool) (t : Tree α) : List Nat → Tree α → Prop
  | root : Reaches p t [] t
  | child {a u i c} (h : Reaches p t a u) (hc : u.children[i]? = some c) (hp : p c.label = true) :
      Reaches p t (a ++ [i]) c

variable {p : α → Bool} {t u c : Tree α} {a : List Nat} {i : Nat}

theorem Reaches.at? (h : Reaches p t a u) : t.at? a = some u := by
  induction h with
  | root => rfl
  | child _ hc _ ih =>
    rw [at?_append, ih, Option.bind_some, Tree.at?, hc]
    rfl

/-- Without a condition every node is reached. -/
theorem reaches_of_at? {a : List Nat} {u : Tree α} (h : t.at? a = some u) :
    Reaches (fun _ => true) t a u := by
  induction a using List.reverseRecOn generalizing u with
  | nil =>
    obtain rfl := Option.some.inj h
    exact .root
  | append_singleton a i ih =>
    rw [at?_append, Option.bind_eq_some_iff] at h
    obtain ⟨v, hv, h⟩ := h
    rw [Tree.at?, Option.bind_eq_some_iff] at h
    obtain ⟨c, hc, h⟩ := h
    obtain rfl := Option.some.inj h
    exact .child (ih hv) hc rfl

/-- What is reached is a child of what is reached, or the root. -/
theorem Reaches.parent (h : Reaches p t (a ++ [i]) c) :
    ∃ u, Reaches p t a u ∧ u.children[i]? = some c := by
  generalize hb : a ++ [i] = b at h
  cases h with
  | root => simp at hb
  | @child a' u i' _ h hc _ =>
    obtain ⟨rfl, hi⟩ := List.append_inj' hb rfl
    obtain rfl := List.cons.inj hi |>.1
    exact ⟨u, h, hc⟩

/-- Every node on the way to a node that is reached has the property, and so
has the node itself. -/
theorem Reaches.property (h : Reaches p t a u) {b : List Nat} (hb : b <+: a) (hne : b ≠ [])
    {v : Tree α} (hv : t.at? b = some v) : p v.label = true := by
  induction h with
  | root => exact absurd (List.prefix_nil.mp hb) hne
  | @child a u i c h hc hp ih =>
    rcases List.prefix_concat_iff.mp hb with rfl | hb
    · rw [(Reaches.child h hc hp).at?] at hv
      obtain rfl := Option.some.inj hv
      exact hp
    · exact ih hb

/-! ## The nodes that are entered -/

mutual
/-- The nodes that are met if only children with a property are entered, each
with its address and the subtree whose root it is. -/
def entered (p : α → Bool) (here : List Nat) : Tree α → Tree (List Nat × Tree α)
  | node a ts => node (here, node a ts) (enteredForest p here 0 ts)

/-- `entered` on the children of a node from place `i` on. -/
def enteredForest (p : α → Bool) (here : List Nat) (i : Nat) :
    List (Tree α) → List (Tree (List Nat × Tree α))
  | [] => []
  | t :: ts =>
    if p t.label then entered p (here ++ [i]) t :: enteredForest p here (i + 1) ts
    else enteredForest p here (i + 1) ts
end

theorem entered_eq (p : α → Bool) (here : List Nat) (t : Tree α) :
    entered p here t = node (here, t) (enteredForest p here 0 t.children) := by
  cases t with
  | node a ts => rw [entered, children]

theorem label_entered (p : α → Bool) (here : List Nat) (t : Tree α) :
    (entered p here t).label = (here, t) := by
  rw [entered_eq, label]

/-- What is entered below a node are its children with the property. -/
theorem mem_enteredForest {here : List Nat} {ts : List (Tree α)} {v : Tree (List Nat × Tree α)} :
    v ∈ enteredForest p here i ts ↔
      ∃ k c, ts[k]? = some c ∧ p c.label = true ∧ v = entered p (here ++ [i + k]) c := by
  induction ts generalizing i with
  | nil => simp [enteredForest]
  | cons t ts ih =>
    have hrest : v ∈ enteredForest p here (i + 1) ts ↔ ∃ k c, (t :: ts)[k + 1]? = some c ∧
        p c.label = true ∧ v = entered p (here ++ [i + (k + 1)]) c := by
      simp only [ih, List.getElem?_cons_succ, Nat.add_assoc, Nat.add_comm 1]
    rw [enteredForest]
    constructor
    · intro hv
      split at hv
      · rename_i hp
        rcases List.mem_cons.mp hv with rfl | hv
        · exact ⟨0, t, rfl, hp, rfl⟩
        · obtain ⟨k, c, hc, hp, rfl⟩ := hrest.mp hv
          exact ⟨k + 1, c, hc, hp, rfl⟩
      · obtain ⟨k, c, hc, hp, rfl⟩ := hrest.mp hv
        exact ⟨k + 1, c, hc, hp, rfl⟩
    · rintro ⟨k, c, hc, hp, rfl⟩
      cases k with
      | zero =>
        obtain rfl : t = c := by simpa using hc
        rw [if_pos hp]
        exact List.mem_cons_self
      | succ k =>
        have hmem := hrest.mpr ⟨k, c, hc, hp, rfl⟩
        split
        · exact List.mem_cons_of_mem _ hmem
        · exact hmem

mutual
/-- Below a node that is entered, the same rule goes on. -/
theorem preorder_entered (p : α → Bool) : ∀ (t : Tree α) (here : List Nat),
    ∀ v ∈ (entered p here t).preorder, v = entered p v.label.1 v.label.2
  | node a ts, here, v, hv => by
      rw [entered, preorder_node, List.mem_cons] at hv
      rcases hv with rfl | hv
      · rw [← entered, label_entered]
      · exact forest_preorder_entered p ts here 0 v hv

theorem forest_preorder_entered (p : α → Bool) : ∀ (ts : List (Tree α)) (here : List Nat)
    (i : Nat), ∀ v ∈ (enteredForest p here i ts).flatMap preorder,
      v = entered p v.label.1 v.label.2
  | [], _, _, v, hv => by simp [enteredForest] at hv
  | t :: ts, here, i, v, hv => by
      rw [enteredForest] at hv
      split at hv
      · rw [List.flatMap_cons, List.mem_append] at hv
        rcases hv with hv | hv
        · exact preorder_entered p t (here ++ [i]) v hv
        · exact forest_preorder_entered p ts here (i + 1) v hv
      · exact forest_preorder_entered p ts here (i + 1) v hv
end

/-- A child of a node that is entered has its place as the end of its
address. -/
theorem label_child_entered {here : List Nat} {v w : Tree (List Nat × Tree α)}
    (hv : v ∈ (entered p here t).preorder) (hw : w ∈ v.children) :
    ∃ k c, v.label.2.children[k]? = some c ∧ p c.label = true ∧
      w.label = (v.label.1 ++ [k], c) := by
  rw [preorder_entered p t here v hv, entered_eq, children] at hw
  obtain ⟨k, c, hc, hp, rfl⟩ := mem_enteredForest.mp hw
  exact ⟨k, c, hc, hp, by rw [label_entered, Nat.zero_add]⟩

theorem mem_preorder_trans {u v : Tree α} (hu : u ∈ t.preorder) (hv : v ∈ u.preorder) :
    v ∈ t.preorder := by
  obtain ⟨i, hi⟩ := List.mem_iff_getElem?.mp hu
  exact List.drop_subset _ _ ((preorder_prefix_drop t i u hi).subset hv)

theorem mem_preorder_of_child {v w : Tree β} {s : Tree β} (hv : v ∈ s.preorder)
    (hw : w ∈ v.children) : w ∈ s.preorder := by
  refine mem_preorder_trans hv ?_
  cases v with
  | node a ts =>
    rw [preorder_node]
    exact List.mem_cons_of_mem _ (List.mem_flatMap.mpr ⟨w, hw, self_mem_preorder w⟩)

/-- The nodes that are reached are those that are entered. -/
theorem exists_entered_of_reaches (h : Reaches p t a u) :
    entered p a u ∈ (entered p [] t).preorder := by
  induction h with
  | root => exact self_mem_preorder _
  | @child a u i c _ hc hp ih =>
    refine mem_preorder_of_child ih ?_
    rw [entered_eq, children]
    exact mem_enteredForest.mpr ⟨i, c, hc, hp, by rw [Nat.zero_add]⟩

mutual
theorem reaches_of_mem_preorder (p : α → Bool) (t : Tree α) : ∀ (u : Tree α) (here : List Nat),
    Reaches p t here u → ∀ v ∈ (entered p here u).preorder, Reaches p t v.label.1 v.label.2
  | node a ts, here, h, v, hv => by
      rw [entered, preorder_node, List.mem_cons] at hv
      rcases hv with rfl | hv
      · exact h
      · refine reaches_of_mem_forest_preorder p t ts here 0 ?_ v hv
        intro k c hc hp
        rw [Nat.zero_add]
        exact h.child hc hp

theorem reaches_of_mem_forest_preorder (p : α → Bool) (t : Tree α) :
    ∀ (ts : List (Tree α)) (here : List Nat) (i : Nat),
      (∀ k c, ts[k]? = some c → p c.label = true → Reaches p t (here ++ [i + k]) c) →
      ∀ v ∈ (enteredForest p here i ts).flatMap preorder, Reaches p t v.label.1 v.label.2
  | [], _, _, _, v, hv => by simp [enteredForest] at hv
  | u :: ts, here, i, h, v, hv => by
      have hrest : ∀ k c, ts[k]? = some c → p c.label = true →
          Reaches p t (here ++ [i + 1 + k]) c := by
        intro k c hc hp
        have hchild := h (k + 1) c (by simpa using hc) hp
        rwa [Nat.add_comm k, ← Nat.add_assoc] at hchild
      rw [enteredForest] at hv
      split at hv
      · rename_i hp
        rw [List.flatMap_cons, List.mem_append] at hv
        rcases hv with hv | hv
        · exact reaches_of_mem_preorder p t u (here ++ [i]) (h 0 u rfl hp) v hv
        · exact reaches_of_mem_forest_preorder p t ts here (i + 1) hrest v hv
      · exact reaches_of_mem_forest_preorder p t ts here (i + 1) hrest v hv
end

/-- The nodes that are entered are those that are reached. -/
theorem mem_labels_entered : (a, u) ∈ (entered p [] t).labels ↔ Reaches p t a u := by
  constructor
  · intro h
    obtain ⟨v, hv, hlabel⟩ := List.mem_map.mp h
    have hreaches := reaches_of_mem_preorder p t t [] .root v hv
    rwa [hlabel] at hreaches
  · intro h
    refine List.mem_map.mpr ⟨_, exists_entered_of_reaches h, ?_⟩
    rw [label_entered]

/-! ## Document order -/

mutual
theorem prefix_of_mem_entered (p : α → Bool) : ∀ (t : Tree α) (here : List Nat),
    ∀ l ∈ (entered p here t).labels, here <+: l.1
  | node a ts, here, l, hl => by
      rw [entered, labels_node, List.mem_cons] at hl
      rcases hl with rfl | hl
      · exact List.prefix_rfl
      · obtain ⟨j, b, -, hb⟩ := exists_of_mem_enteredForest p ts here 0 l hl
        exact ⟨_, hb.symm⟩

theorem exists_of_mem_enteredForest (p : α → Bool) : ∀ (ts : List (Tree α)) (here : List Nat)
    (i : Nat), ∀ l ∈ (enteredForest p here i ts).flatMap labels,
      ∃ j b, i ≤ j ∧ l.1 = here ++ j :: b
  | [], _, _, l, hl => by simp [enteredForest] at hl
  | t :: ts, here, i, l, hl => by
      have hrest : l ∈ (enteredForest p here (i + 1) ts).flatMap labels →
          ∃ j b, i ≤ j ∧ l.1 = here ++ j :: b := by
        intro hl
        obtain ⟨j, b, hj, hb⟩ := exists_of_mem_enteredForest p ts here (i + 1) l hl
        exact ⟨j, b, Nat.le_of_succ_le hj, hb⟩
      rw [enteredForest] at hl
      split at hl
      · rw [List.flatMap_cons, List.mem_append] at hl
        rcases hl with hl | hl
        · obtain ⟨b, hb⟩ := prefix_of_mem_entered p t (here ++ [i]) l hl
          exact ⟨i, b, Nat.le_refl i, by rw [← hb, List.append_assoc, List.singleton_append]⟩
        · exact hrest hl
      · exact hrest hl
end

/-- A node comes before the nodes below it. -/
theorem lt_append_cons {here b : List Nat} {j : Nat} : here < here ++ j :: b := by
  have hnil : List.Lex (· < ·) (here ++ []) (here ++ j :: b) :=
    List.Lex.append_left (· < ·) .nil here
  rwa [List.append_nil] at hnil

/-- Addresses that part at some place are in the order of the children there. -/
theorem append_lt_append {here b c : List Nat} {i j : Nat} (hij : i < j) :
    here ++ i :: b < here ++ j :: c :=
  List.Lex.append_left (· < ·) (.rel hij) here

mutual
/-- The nodes that are entered come in document order. -/
theorem pairwise_entered (p : α → Bool) : ∀ (t : Tree α) (here : List Nat),
    (entered p here t).labels.Pairwise fun l m => l.1 < m.1
  | node a ts, here => by
      rw [entered, labels_node, List.pairwise_cons]
      refine ⟨fun l hl => ?_, pairwise_enteredForest p ts here 0⟩
      obtain ⟨j, b, -, hb⟩ := exists_of_mem_enteredForest p ts here 0 l hl
      rw [hb]
      exact lt_append_cons

theorem pairwise_enteredForest (p : α → Bool) : ∀ (ts : List (Tree α)) (here : List Nat)
    (i : Nat), ((enteredForest p here i ts).flatMap labels).Pairwise fun l m => l.1 < m.1
  | [], _, _ => by
      rw [enteredForest, List.flatMap_nil]
      exact .nil
  | t :: ts, here, i => by
      rw [enteredForest]
      split
      · rw [List.flatMap_cons, List.pairwise_append]
        refine ⟨pairwise_entered p t (here ++ [i]), pairwise_enteredForest p ts here (i + 1), ?_⟩
        intro l hl m hm
        obtain ⟨b, hb⟩ := prefix_of_mem_entered p t (here ++ [i]) l hl
        obtain ⟨j, c, hj, hc⟩ := exists_of_mem_enteredForest p ts here (i + 1) m hm
        rw [← hb, hc, List.append_assoc, List.singleton_append]
        exact append_lt_append hj
      · exact pairwise_enteredForest p ts here (i + 1)
end

/-- All nodes in document order, each with its address. -/
def located (t : Tree α) : List (List Nat × Tree α) := (entered (fun _ => true) [] t).labels

mutual
theorem map_snd_entered : ∀ (t : Tree α) (here : List Nat),
    (entered (fun _ => true) here t).labels.map Prod.snd = t.preorder
  | node a ts, here => by
      rw [entered, labels_node, preorder_node, List.map_cons, map_snd_enteredForest ts here 0]

theorem map_snd_enteredForest : ∀ (ts : List (Tree α)) (here : List Nat) (i : Nat),
    ((enteredForest (fun _ => true) here i ts).flatMap labels).map Prod.snd = ts.flatMap preorder
  | [], _, _ => rfl
  | t :: ts, here, i => by
      rw [enteredForest, if_pos rfl, List.flatMap_cons, List.flatMap_cons, List.map_append,
        map_snd_entered t (here ++ [i]), map_snd_enteredForest ts here (i + 1)]
end

/-- The nodes with their addresses are the preorder. -/
theorem located_eq_preorder (t : Tree α) : t.located.map Prod.snd = t.preorder :=
  map_snd_entered t []

theorem mem_located : (a, u) ∈ t.located ↔ t.at? a = some u := by
  rw [located, mem_labels_entered]
  exact ⟨Reaches.at?, reaches_of_at?⟩

mutual
theorem entered_sublist (p : α → Bool) : ∀ (t : Tree α) (here : List Nat),
    (entered p here t).labels.Sublist (entered (fun _ => true) here t).labels
  | node a ts, here => by
      rw [entered, entered, labels_node, labels_node]
      exact (enteredForest_sublist p ts here 0).cons_cons _

theorem enteredForest_sublist (p : α → Bool) : ∀ (ts : List (Tree α)) (here : List Nat) (i : Nat),
    ((enteredForest p here i ts).flatMap labels).Sublist
      ((enteredForest (fun _ => true) here i ts).flatMap labels)
  | [], _, _ => .refl _
  | t :: ts, here, i => by
      have hrest := enteredForest_sublist p ts here (i + 1)
      rw [enteredForest, enteredForest, if_pos rfl, List.flatMap_cons]
      split
      · rw [List.flatMap_cons]
        exact (entered_sublist p t (here ++ [i])).append hrest
      · exact hrest.trans (List.sublist_append_right _ _)
end

end SyntaxCorpus.Tree
