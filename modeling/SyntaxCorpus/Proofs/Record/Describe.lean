/-
SyntaxCorpus.Proofs.Record.Describe — the tree of numbers that records
describe.

Records name the children of a node by number. A tree of numbers is described
by records if every node of it has, as its children, the numbers that its
record lists.

* `Describes.unique` — the root determines the tree.
* `WellNumbered` — the conditions on the list of records alone: the numbers are
  the positions, children come later, and every node but the first is listed
  once.
* `count_labels` — how often a number occurs in a described tree: once for the
  root, and as often as it is listed by the records of the nodes.
* `labels_perm_range` — with well-numbered records, the tree below the first
  node has every number exactly once. The induction is on the number: the one
  parent of a node has a smaller number and occurs once, so the node does.
-/
import Mathlib.Algebra.Ring.Nat
import Mathlib.Data.List.Count
import SyntaxCorpus.Proofs.Tree.Numbering
import SyntaxCorpus.Record.Basic

namespace SyntaxCorpus

/-! ## Sums over numbers -/

/-- If a sum is one, then one of its terms is one and the others are zero. -/
theorem exists_of_sum_eq_one (g : Nat → Nat) : ∀ n, ((List.range n).map g).sum = 1 →
    ∃ p, p < n ∧ ∀ i, i < n → g i = if i = p then 1 else 0
  | 0, h => by simp at h
  | n + 1, h => by
      rw [List.range_succ, List.map_append, List.sum_append_nat] at h
      simp only [List.map_cons, List.map_nil, List.sum_cons, List.sum_nil] at h
      by_cases hn : g n = 0
      · obtain ⟨p, hp, hg⟩ := exists_of_sum_eq_one g n (by omega)
        refine ⟨p, by omega, fun i hi => ?_⟩
        rcases Nat.lt_succ_iff_lt_or_eq.mp hi with hlt | rfl
        · exact hg i hlt
        · rw [hn, if_neg (by omega)]
      · have hzero : ∀ i, i < n → g i = 0 := by
          intro i hi
          have hsum : ((List.range n).map g).sum = 0 := by omega
          exact List.sum_eq_zero_iff_forall_eq_nat.mp hsum (g i)
            (List.mem_map_of_mem (List.mem_range.mpr hi))
        refine ⟨n, by omega, fun i hi => ?_⟩
        rcases Nat.lt_succ_iff_lt_or_eq.mp hi with hlt | rfl
        · rw [hzero i hlt, if_neg (by omega)]
        · rw [if_pos rfl]
          omega

/-- A sum of terms that are one at one number counts that number. -/
theorem sum_map_indicator (g : Nat → Nat) (p : Nat) : ∀ xs : List Nat,
    (∀ i ∈ xs, g i = if i = p then 1 else 0) → (xs.map g).sum = xs.count p
  | [], _ => rfl
  | x :: xs, h => by
      rw [List.map_cons, List.sum_cons, h x List.mem_cons_self,
        sum_map_indicator g p xs fun i hi => h i (List.mem_cons_of_mem x hi), List.count_cons]
      by_cases hx : x = p <;> simp [hx, Nat.add_comm]

/-! ## Described trees -/

/-- The numbers of the roots of trees. -/
def roots (us : List (Tree Nat)) : List Int := us.map fun u => (u.label : Int)

theorem count_roots (k : Nat) (us : List (Tree Nat)) :
    (roots us).count (k : Int) = (us.map Tree.label).count k := by
  rw [roots, show (fun u : Tree Nat => (u.label : Int)) = (Nat.cast ∘ Tree.label) from rfl,
    ← List.map_map]
  exact List.count_map_of_injective (us.map Tree.label) (Nat.cast : Nat → Int)
    (fun _ _ h => Int.ofNat_inj.mp h) k

/-- The children that the record at a position lists. -/
def childrenAt (records : List Record) (i : Nat) : List Int :=
  (records[i]?.map (·.children)).getD []

/-- The label of the record at a position. -/
def labelAt (records : List Record) (i : Nat) : Label :=
  (records[i]?.map Record.label).getD default

theorem childrenAt_of_getElem? {records : List Record} {i : Nat} {r : Record}
    (h : records[i]? = some r) : childrenAt records i = r.children := by
  rw [childrenAt, h]
  rfl

theorem labelAt_of_getElem? {records : List Record} {i : Nat} {r : Record}
    (h : records[i]? = some r) : labelAt records i = r.label := by
  rw [labelAt, h]
  rfl

/-- Records describe a tree of numbers: every number is that of a record, which
lists the numbers of the nodes right below it. -/
def Describes (records : List Record) (u : Tree Nat) : Prop :=
  ∀ v ∈ u.preorder, ∃ r, records[v.label]? = some r ∧ r.children = roots v.children

theorem describes_node {records : List Record} {i : Nat} {us : List (Tree Nat)} :
    Describes records (.node i us) ↔
      (∃ r, records[i]? = some r ∧ r.children = roots us) ∧ ∀ u ∈ us, Describes records u := by
  rw [Describes, Tree.preorder_node, List.forall_mem_cons]
  refine and_congr Iff.rfl ⟨fun h u hu v hv => ?_, fun h v hv => ?_⟩
  · exact h v (List.mem_flatMap.mpr ⟨u, hu, hv⟩)
  · obtain ⟨u, hu, hv⟩ := List.mem_flatMap.mp hv
    exact h u hu v hv

theorem Describes.lt_length {records : List Record} {u : Tree Nat} (h : Describes records u)
    {i : Nat} (hi : i ∈ u.labels) : i < records.length := by
  obtain ⟨v, hv, rfl⟩ := List.mem_map.mp hi
  obtain ⟨r, hr, _⟩ := h v hv
  exact (List.getElem?_eq_some_iff.mp hr).1

mutual
/-- The number of the root determines a described tree. -/
theorem Describes.unique {records : List Record} : ∀ (u v : Tree Nat), Describes records u →
    Describes records v → u.label = v.label → u = v
  | .node i us, .node j vs, hu, hv, h => by
      obtain rfl : i = j := h
      obtain ⟨⟨r, hr, hus⟩, hu⟩ := describes_node.mp hu
      obtain ⟨⟨s, hs, hvs⟩, hv⟩ := describes_node.mp hv
      obtain rfl : r = s := Option.some.inj (hr.symm.trans hs)
      rw [Describes.unique_forest us vs hu hv (hus.symm.trans hvs)]

theorem Describes.unique_forest {records : List Record} : ∀ (us vs : List (Tree Nat)),
    (∀ u ∈ us, Describes records u) → (∀ v ∈ vs, Describes records v) → roots us = roots vs →
    us = vs
  | [], [], _, _, _ => rfl
  | [], v :: vs, _, _, h => by simp [roots] at h
  | u :: us, [], _, _, h => by simp [roots] at h
  | u :: us, v :: vs, hu, hv, h => by
      rw [List.forall_mem_cons] at hu hv
      simp only [roots, List.map_cons, List.cons.injEq, Int.ofNat_inj] at h
      rw [Describes.unique u v hu.1 hv.1 h.1, Describes.unique_forest us vs hu.2 hv.2 h.2]
end

mutual
/-- A number occurs in a described tree once if it is the root, and otherwise
as often as the records of the nodes list it. -/
theorem count_labels {records : List Record} (k : Nat) : ∀ u : Tree Nat, Describes records u →
    u.labels.count k = (if u.label = k then 1 else 0)
      + (u.labels.map fun i => (childrenAt records i).count (k : Int)).sum
  | .node i us, h => by
      obtain ⟨⟨r, hr, hus⟩, h⟩ := describes_node.mp h
      rw [Tree.labels_node, List.count_cons, count_forest_labels k us h, List.map_cons,
        List.sum_cons, childrenAt_of_getElem? hr, hus, count_roots, Tree.label]
      by_cases hik : i = k <;> simp [hik, Nat.add_comm]

theorem count_forest_labels {records : List Record} (k : Nat) : ∀ us : List (Tree Nat),
    (∀ u ∈ us, Describes records u) →
    (us.flatMap Tree.labels).count k = (us.map Tree.label).count k
      + ((us.flatMap Tree.labels).map fun i => (childrenAt records i).count (k : Int)).sum
  | [], _ => rfl
  | u :: us, h => by
      rw [List.forall_mem_cons] at h
      rw [List.flatMap_cons, List.count_append, count_labels k u h.1,
        count_forest_labels k us h.2, List.map_append, List.sum_append_nat, List.map_cons,
        List.count_cons]
      by_cases huk : u.label = k <;> simp [huk] <;> omega
end

/-! ## Well-numbered records -/

/-- The conditions on records that describe a tree below the first of them. -/
structure WellNumbered (records : List Record) : Prop where
  nonempty : records ≠ []
  /-- Every record is numbered by its position. -/
  numbered : ∀ (i : Nat) (r : Record), records[i]? = some r → r.id = i
  /-- Children are numbers of later records. -/
  children_later : ∀ r ∈ records, ∀ c ∈ r.children, (r.id : Int) < c ∧ c < records.length
  /-- Every record but the first is listed once. -/
  listed_once : ∀ k, 0 < k → k < records.length →
    (records.flatMap (·.children)).count (k : Int) = 1

theorem sum_count_childrenAt (records : List Record) (c : Int) :
    ((List.range records.length).map fun i => (childrenAt records i).count c).sum
      = (records.flatMap (·.children)).count c := by
  have hmap : (List.range records.length).map (childrenAt records)
      = records.map (·.children) := by
    refine List.ext_getElem? fun i => ?_
    by_cases hi : i < records.length
    · simp [childrenAt, hi]
    · simp [hi]
  have hterms : ((List.range records.length).map fun i => (childrenAt records i).count c)
      = ((List.range records.length).map (childrenAt records)).map (List.count c) := by
    rw [List.map_map]
    rfl
  rw [hterms, hmap, List.count_flatMap, List.map_map]

theorem WellNumbered.count_labels_eq_one {records : List Record} (hw : WellNumbered records)
    {u : Tree Nat} (hu : Describes records u) (hroot : u.label = 0) (k : Nat)
    (hk : k < records.length) : u.labels.count k = 1 := by
  induction k using Nat.strongRecOn with
  | ind k ih =>
    have hlater : ∀ i, i < records.length → (k : Int) ∈ childrenAt records i → i < k := by
      intro i hi hmem
      have hr := List.getElem?_eq_getElem hi
      rw [childrenAt_of_getElem? hr] at hmem
      have hlt := (hw.children_later _ (List.getElem_mem hi) _ hmem).1
      rw [hw.numbered i _ hr] at hlt
      omega
    rw [count_labels k u hu, hroot]
    rcases Nat.eq_zero_or_pos k with rfl | hpos
    · have hnone : ∀ i ∈ u.labels, (childrenAt records i).count ((0 : Nat) : Int) = 0 :=
        fun i hi => List.count_eq_zero.mpr fun hmem =>
          absurd (hlater i (hu.lt_length hi) hmem) (Nat.not_lt_zero i)
      have hsum : (u.labels.map fun i => (childrenAt records i).count ((0 : Nat) : Int)).sum = 0 :=
        List.sum_eq_zero_iff_forall_eq_nat.mpr fun x hx => by
          obtain ⟨i, hi, rfl⟩ := List.mem_map.mp hx
          exact hnone i hi
      rw [hsum, if_pos rfl]
    · -- the one record that lists `k` has a smaller number
      have hone := hw.listed_once k hpos hk
      rw [← sum_count_childrenAt] at hone
      obtain ⟨p, hp, hg⟩ := exists_of_sum_eq_one _ _ hone
      have hmem : (k : Int) ∈ childrenAt records p :=
        List.count_pos_iff.mp (by rw [hg p hp, if_pos rfl]; exact Nat.one_pos)
      have hpk : p < k := hlater p hp hmem
      rw [sum_map_indicator _ p u.labels fun i hi => hg i (hu.lt_length hi), ih p hpk hp,
        if_neg (by omega)]

/-- The described tree below the first node has every number exactly once. -/
theorem WellNumbered.labels_perm_range {records : List Record} (hw : WellNumbered records)
    {u : Tree Nat} (hu : Describes records u) (hroot : u.label = 0) :
    u.labels.Perm (List.range records.length) := by
  refine List.perm_iff_count.mpr fun k => ?_
  by_cases hk : k < records.length
  · rw [hw.count_labels_eq_one hu hroot k hk,
      List.Nodup.count List.nodup_range, if_pos (List.mem_range.mpr hk)]
  · have hl : k ∉ u.labels := fun hmem => hk (hu.lt_length hmem)
    have hr : k ∉ List.range records.length := fun hmem => hk (List.mem_range.mp hmem)
    rw [List.count_eq_zero.mpr hl, List.count_eq_zero.mpr hr]

/-- Records that describe a tree with every number once are well numbered, if
their numbers are their positions and their children come later. -/
theorem Describes.wellNumbered {records : List Record} {u : Tree Nat} (hu : Describes records u)
    (hroot : u.label = 0) (hperm : u.labels.Perm (List.range records.length))
    (hnum : ∀ (i : Nat) (r : Record), records[i]? = some r → r.id = i)
    (hlater : ∀ r ∈ records, ∀ c ∈ r.children, (r.id : Int) < c ∧ c < records.length) :
    WellNumbered records where
  nonempty := by
    rintro rfl
    exact Nat.not_lt_zero _ (hu.lt_length (Tree.label_mem_labels u))
  numbered := hnum
  children_later := hlater
  listed_once := by
    intro k hpos hk
    have hcount : u.labels.count k = 1 := by
      rw [hperm.count_eq, List.Nodup.count List.nodup_range, if_pos (List.mem_range.mpr hk)]
    rw [count_labels k u hu, hroot, if_neg (by omega), Nat.zero_add,
      (hperm.map fun i => (childrenAt records i).count (k : Int)).sum_nat,
      sum_count_childrenAt] at hcount
    exact hcount

end SyntaxCorpus
