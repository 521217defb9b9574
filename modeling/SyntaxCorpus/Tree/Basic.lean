/-
SyntaxCorpus.Tree.Basic — ordered trees with a label at every node.

Document order is the order in which the nodes of a tree are met from the root
on, each before its children and the children from left to right.

* `size`, `map`, `all` — by recursion on the tree.
* `preorder` — the subtrees in document order; `labels`, their labels.
* `find?` — the first subtree in document order with a property.
* `outline` — the labels in document order, each with the position of its
  parent.
* `assemble` — the tree of a root and labels with the positions of their parents.

Where nodes are met in order, this works off a list of pending subtrees, so the depth
of a tree is not limited by the depth of calls.
-/
namespace SyntaxCorpus

/-- An ordered tree with a label at every node. -/
inductive Tree (α : Type) where
  | node (label : α) (children : List (Tree α))

namespace Tree

variable {α β : Type}

instance [Inhabited α] : Inhabited (Tree α) := ⟨.node default []⟩

/-- The label of the root. -/
def label : Tree α → α
  | node a _ => a

/-- The subtrees below the root, from left to right. -/
def children : Tree α → List (Tree α)
  | node _ ts => ts

mutual
/-- The number of nodes. -/
def size : Tree α → Nat
  | node _ ts => 1 + forestSize ts

/-- The number of nodes of a list of trees. -/
def forestSize : List (Tree α) → Nat
  | [] => 0
  | t :: ts => size t + forestSize ts
end

mutual
/-- The tree with every label replaced. -/
def map (f : α → β) : Tree α → Tree β
  | node a ts => node (f a) (mapForest f ts)

/-- `map` on a list of trees. -/
def mapForest (f : α → β) : List (Tree α) → List (Tree β)
  | [] => []
  | t :: ts => map f t :: mapForest f ts
end

mutual
/-- Whether every label has a property. -/
def all (p : α → Bool) : Tree α → Bool
  | node a ts => p a && allForest p ts

/-- `all` on a list of trees. -/
def allForest (p : α → Bool) : List (Tree α) → Bool
  | [] => true
  | t :: ts => all p t && allForest p ts
end

mutual
/-- Equality of trees under an equality of labels: the same shape, and equal
labels at the same places. -/
def same (eq : α → α → Bool) : Tree α → Tree α → Bool
  | node a ts, node b us => eq a b && sameForest eq ts us

/-- `same` on lists of trees. -/
def sameForest (eq : α → α → Bool) : List (Tree α) → List (Tree α) → Bool
  | [], [] => true
  | t :: ts, u :: us => same eq t u && sameForest eq ts us
  | _, _ => false
end

/-! ## Document order -/

theorem forestSize_append (ts us : List (Tree α)) :
    forestSize (ts ++ us) = forestSize ts + forestSize us := by
  induction ts with
  | nil => simp [forestSize]
  | cons t ts ih => simp [forestSize, ih]; omega

/-- The subtrees of pending trees in document order, after those met so far. -/
def visitOnto : List (Tree α) → Array (Tree α) → Array (Tree α)
  | [], met => met
  | node a ts :: rest, met => visitOnto (ts ++ rest) (met.push (node a ts))
termination_by pending => forestSize pending
decreasing_by
  rw [forestSize_append]
  simp only [forestSize, size]
  omega

/-- The subtrees in document order. -/
def preorder (t : Tree α) : List (Tree α) := (visitOnto [t] #[]).toList

/-- The labels in document order. -/
def labels (t : Tree α) : List α := t.preorder.map label

/-- The first subtree in document order with a property. -/
def find? (p : Tree α → Bool) (t : Tree α) : Option (Tree α) :=
  t.preorder.find? p

/-! ## Outlines -/

/-- A label with the position of its parent in document order; the root has no
parent. -/
abbrev Entry (α : Type) := Option Nat × α

/-- The number of nodes of pending subtrees. -/
def pendingSize : List (Option Nat × Tree α) → Nat
  | [] => 0
  | (_, t) :: rest => t.size + pendingSize rest

theorem pendingSize_append (xs ys : List (Option Nat × Tree α)) :
    pendingSize (xs ++ ys) = pendingSize xs + pendingSize ys := by
  induction xs with
  | nil => simp [pendingSize]
  | cons x xs ih => simp [pendingSize, ih]; omega

/-- Trees that wait to be met, below one parent. -/
def under (p : Nat) (ts : List (Tree α)) : List (Option Nat × Tree α) :=
  ts.map fun t => (some p, t)

theorem pendingSize_under (p : Nat) (ts : List (Tree α)) :
    pendingSize (under p ts) = forestSize ts := by
  induction ts with
  | nil => rfl
  | cons t ts ih =>
    show t.size + pendingSize (under p ts) = _
    rw [ih, forestSize]

/-- The outline of the pending subtrees, each with its parent, after the
entries found so far. -/
def outlineOnto : List (Option Nat × Tree α) → Array (Entry α) → Array (Entry α)
  | [], found => found
  | (parent, node a ts) :: rest, found =>
    outlineOnto (under found.size ts ++ rest) (found.push (parent, a))
termination_by pending => pendingSize pending
decreasing_by
  rw [pendingSize_append, pendingSize_under]
  simp only [pendingSize, size]
  omega

/-- The labels in document order, each with the position of its parent. -/
def outline (t : Tree α) : List (Entry α) :=
  (outlineOnto [(none, t)] #[]).toList

/-! ## Trees put together -/

/-- A label with its finished children, put before the children that its parent has
already. `below[p]` holds the children of the label at position `p`. -/
def hang (entry : (Nat × α) × Nat) (below : Array (List (Tree α))) : Array (List (Tree α)) :=
  below.modify entry.1.1 (node entry.1.2 (below.getD entry.2 []) :: ·)

/-- The tree of a root and of the labels after it, each with the position of its parent.
The root has position zero, and a parent comes before its children. The last label is the
first one that has all its children. -/
def assemble (root : α) (entries : List (Nat × α)) : Tree α :=
  let below := (entries.zipIdx 1).foldr hang (Array.replicate (entries.length + 1) [])
  node root (below.getD 0 [])

end Tree
end SyntaxCorpus
