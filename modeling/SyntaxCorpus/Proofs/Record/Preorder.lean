/-
SyntaxCorpus.Proofs.Record.Preorder — the records of a tree number its nodes in
document order.

* `getElem?_flatten` — record `i` of a tree is that of the node at place `i`.
* `Lists`, `lists_iff` — which records the record of a node lists: those of its
  children, whose numbers are their places.
* `reaches_iff` — the records that are reached from a record by way of children
  are those of its subtree, and their numbers are consecutive.
* `PreorderNumbering` — all of this, of a tree and a list of records.
* `preorderNumbering_flatten` — every tree has records, and they are its
  preorder numbering.
-/
import Mathlib.Logic.Relation
import SyntaxCorpus.Proofs.Record.RoundTrip
import SyntaxCorpus.Proofs.Tree.Preorder

namespace SyntaxCorpus

open Relation (ReflTransGen)
open SyntaxCorpus.Tree (childPlace forestNumbersFrom forestSize)

/-! ## The record at a place -/

/-- The record of a node at place `i`, the root of `u`. -/
def recordAt (i : Nat) (u : Tree Label) : Record :=
  ⟨i, u.label.type, u.label.value,
    (forestNumbersFrom (i + 1) u.children).map fun v => (v.label : Int)⟩

mutual
theorem getElem?_recordsFrom : ∀ (t : Tree Label) (start i : Nat),
    (recordsFrom start t)[i]? = t.preorder[i]?.map (recordAt (start + i))
  | .node l ts, start, 0 => by
      rw [recordsFrom, Tree.preorder_node, List.getElem?_cons_zero, List.getElem?_cons_zero]
      rfl
  | .node l ts, start, i + 1 => by
      rw [recordsFrom, Tree.preorder_node, List.getElem?_cons_succ, List.getElem?_cons_succ,
        getElem?_forestRecordsFrom ts (start + 1) i, Nat.add_assoc, Nat.add_comm 1 i]

theorem getElem?_forestRecordsFrom : ∀ (ts : List (Tree Label)) (start i : Nat),
    (forestRecordsFrom start ts)[i]? = (ts.flatMap Tree.preorder)[i]?.map (recordAt (start + i))
  | [], _, _ => by simp [forestRecordsFrom]
  | t :: ts, start, i => by
      rw [forestRecordsFrom, List.flatMap_cons, List.getElem?_append, List.getElem?_append,
        length_recordsFrom, Tree.length_preorder]
      by_cases hi : i < t.size
      · rw [if_pos hi, if_pos hi, getElem?_recordsFrom t start i]
      · rw [if_neg hi, if_neg hi, getElem?_forestRecordsFrom ts (start + t.size) (i - t.size),
          Nat.add_assoc, Nat.add_sub_cancel' (Nat.le_of_not_lt hi)]
end

/-- Record `i` of a tree is that of the node at place `i`. -/
theorem getElem?_flatten (t : Tree Label) (i : Nat) :
    (flatten t)[i]? = t.preorder[i]?.map (recordAt i) := by
  rw [flatten_eq, getElem?_recordsFrom, Nat.zero_add]

theorem children_recordAt (i : Nat) (u : Tree Label) :
    (recordAt i u).children
      = (List.range u.children.length).map fun k => (childPlace i u k : Int) := by
  have hlabels := congrArg (List.map (Nat.cast : Nat → Int)) (Tree.labels_children_eq i u)
  rw [List.map_map, List.map_map] at hlabels
  exact hlabels

/-! ## Records that are listed and reached -/

/-- Whether the record at a place lists a record. -/
def Lists (records : List Record) (i j : Nat) : Prop := (j : Int) ∈ childrenAt records i

theorem lt_length_of_lists {records : List Record} {i j : Nat} (h : Lists records i j) :
    i < records.length := by
  by_contra hle
  rw [Lists, childrenAt, List.getElem?_eq_none (Nat.le_of_not_lt hle)] at h
  exact List.not_mem_nil h

section

variable {t u v : Tree Label} {i j k : Nat}

/-- A record lists those of the children of its node. -/
theorem lists_iff (h : t.preorder[i]? = some u) :
    Lists (flatten t) i j ↔ ∃ k v, u.children[k]? = some v ∧ j = childPlace i u k := by
  have hr : (flatten t)[i]? = some (recordAt i u) := by rw [getElem?_flatten, h, Option.map_some]
  simp only [Lists, childrenAt_of_getElem? hr, children_recordAt, List.mem_map, List.mem_range,
    Int.ofNat_inj]
  constructor
  · rintro ⟨k, hk, rfl⟩
    exact ⟨k, _, List.getElem?_eq_getElem hk, rfl⟩
  · rintro ⟨k, v, hv, rfl⟩
    exact ⟨k, (List.getElem?_eq_some_iff.mp hv).1, rfl⟩

theorem reaches_of_lt (n : Nat) : ∀ {i : Nat} {u : Tree Label}, t.preorder[i]? = some u →
    u.size ≤ n → i ≤ j → j < i + u.size → ReflTransGen (Lists (flatten t)) i j := by
  -- by induction on the size of the subtree: the place is in the stretch of a child
  induction n with
  | zero =>
    intro i u _ hn
    have hpos := u.size_pos
    omega
  | succ n ih =>
    intro i u hu hn hij hj
    rcases Nat.eq_or_lt_of_le hij with rfl | hlt
    · exact .refl
    · obtain ⟨k, v, hv, hle, hlt'⟩ := Tree.exists_child_of_lt hlt hj
      have hsize := Tree.childPlace_add_size_le (i := i) hv
      have hplace := Tree.lt_childPlace i u k
      have hchild := ih (Tree.getElem?_preorder_child hu hv) (by omega) hle hlt'
      exact .head ((lists_iff hu).mpr ⟨k, v, hv, rfl⟩) hchild

/-- The records that are reached from a record are those of its subtree. -/
theorem reaches_iff (h : t.preorder[i]? = some u) :
    ReflTransGen (Lists (flatten t)) i j ↔ i ≤ j ∧ j < i + u.size := by
  constructor
  · intro hreach
    induction hreach with
    | refl =>
      have hpos := u.size_pos
      omega
    | @tail j l _ hl ih =>
      obtain ⟨hij, hj⟩ := ih
      obtain ⟨d, rfl⟩ := Nat.exists_eq_add_of_le hij
      obtain ⟨w, hw, hw'⟩ := Tree.exists_getElem?_preorder h (k := d) (by omega)
      obtain ⟨k, v, hv, rfl⟩ := (lists_iff hw').mp hl
      have hsize := Tree.childPlace_add_size_le (i := i + d) hv
      have hpos := v.size_pos
      have hend := Tree.add_size_le hw
      have hplace := Tree.lt_childPlace (i + d) w k
      omega
  · rintro ⟨hij, hj⟩
    exact reaches_of_lt u.size h (Nat.le_refl _) hij hj

end

/-! ## The preorder numbering -/

/-- The record with number `i` stands for the node at place `i`, the root of
`u`. Its children are numbered one subtree after the other. -/
structure StandsFor (t : Tree Label) (i : Nat) (u : Tree Label) (r : Record) : Prop where
  id : r.id = i
  type : r.type = u.label.type
  value : r.value = u.label.value
  count : r.children.length = u.children.length
  /-- The numbers of the children are those of their own records. -/
  child : ∀ (k : Nat) (c : Int) v, r.children[k]? = some c → u.children[k]? = some v →
    ∃ j : Nat, c = j ∧ t.preorder[j]? = some v
  /-- The first child follows on the node. -/
  first : ∀ c : Int, r.children[0]? = some c → c = i + 1
  /-- The next child follows on the subtree of the child before it. -/
  next : ∀ (k : Nat) (c d : Int) v, r.children[k]? = some c → r.children[k + 1]? = some d →
    u.children[k]? = some v → d = c + v.size
  increasing : r.children.Pairwise (· < ·)
  /-- The subtrees of the children end with that of the node, or before. -/
  inside : ∀ (k : Nat) (c : Int) v, r.children[k]? = some c → u.children[k]? = some v →
    i < c ∧ c + v.size ≤ i + u.size

/-- Records number the nodes of a tree in document order. -/
structure PreorderNumbering (t : Tree Label) (records : List Record) : Prop where
  length : records.length = t.size
  nodes : t.preorder.length = t.size
  node : ∀ i u, t.preorder[i]? = some u → ∃ r, records[i]? = some r ∧ StandsFor t i u r
  /-- The records of the subtree of a node are numbered from the node on. -/
  subtree : ∀ i u, t.preorder[i]? = some u →
    ∀ j, ReflTransGen (Lists records) i j ↔ i ≤ j ∧ j < i + u.size

theorem getElem?_children_recordAt {i k : Nat} {u : Tree Label} {c : Int}
    (h : (recordAt i u).children[k]? = some c) :
    ∃ v, u.children[k]? = some v ∧ c = (childPlace i u k : Int) := by
  rw [children_recordAt, List.getElem?_map, Option.map_eq_some_iff] at h
  obtain ⟨m, hm, rfl⟩ := h
  obtain ⟨hk, hm⟩ := List.getElem?_eq_some_iff.mp hm
  rw [List.getElem_range] at hm
  rw [List.length_range] at hk
  exact ⟨_, List.getElem?_eq_getElem hk, by rw [hm]⟩

theorem standsFor_recordAt {t u : Tree Label} {i : Nat} (h : t.preorder[i]? = some u) :
    StandsFor t i u (recordAt i u) where
  id := rfl
  type := rfl
  value := rfl
  count := by
    rw [children_recordAt, List.length_map, List.length_range]
  child := by
    intro k c v hc hv
    obtain ⟨-, -, rfl⟩ := getElem?_children_recordAt hc
    exact ⟨_, rfl, Tree.getElem?_preorder_child h hv⟩
  first := by
    intro c hc
    obtain ⟨-, -, rfl⟩ := getElem?_children_recordAt hc
    simp [childPlace, forestSize]
  next := by
    intro k c d v hc hd hv
    obtain ⟨-, -, rfl⟩ := getElem?_children_recordAt hc
    obtain ⟨-, -, rfl⟩ := getElem?_children_recordAt hd
    simp only [childPlace, Tree.forestSize_take_succ hv]
    omega
  increasing := by
    rw [children_recordAt, List.pairwise_map]
    refine List.pairwise_lt_range.imp_of_mem ?_
    intro k l _ hl hkl
    exact Int.ofNat_lt.mpr (Tree.childPlace_lt i hkl (List.mem_range.mp hl))
  inside := by
    intro k c v hc hv
    obtain ⟨-, -, rfl⟩ := getElem?_children_recordAt hc
    have hsize := Tree.childPlace_add_size_le (i := i) hv
    have hplace := Tree.lt_childPlace i u k
    omega

/-- **Every tree has records, and they are its preorder numbering.** -/
theorem preorderNumbering_flatten (t : Tree Label) :
    flattenRaw (t.map Label.toRaw) = .ok (flatten t) ∧ PreorderNumbering t (flatten t) := by
  refine ⟨flattenRaw_map_toRaw t, length_flatten t, Tree.length_preorder t, ?_, ?_⟩
  · intro i u hu
    refine ⟨recordAt i u, ?_, standsFor_recordAt hu⟩
    rw [getElem?_flatten, hu, Option.map_some]
  · intro i u hu j
    exact reaches_iff hu

end SyntaxCorpus
