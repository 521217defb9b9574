/-
SyntaxCorpus.Proofs.Record.Renumber — the records of a rebuilt tree.

More lists of records describe a tree than trees have: siblings may be numbered
from right to left, or the nodes level by level. The tree that is rebuilt has
its own records in document order, which are the given ones with other numbers.
The number that a record gets is its place in the document order of the tree of
numbers that the records describe.

* `Renumbers` — records with other numbers.
* `reaches_iff_mem_labels` — the records that are reached from a record by way
  of children are the numbers of its described tree.
* `FollowsSubtrees` — every child is numbered right after the node or after the
  subtree of the child before it.
* `label_eq_place` — then every number is its own place.
* `renumber_of_rebuild` — all of this for records that can be rebuilt.
-/
import Mathlib.Data.Set.Card
import Mathlib.Order.Interval.Finset.Nat
import SyntaxCorpus.Proofs.Record.Preorder
import SyntaxCorpus.Proofs.Tree.Address

namespace SyntaxCorpus

open Relation (ReflTransGen)
open SyntaxCorpus.Tree (childPlace)

/-- The records of the tree that records describe. -/
def renumber (records : List Record) : Except RebuildError (List Record) :=
  (rebuild records).map flatten

/-- Records with other numbers: record `i` has the number `p i` now, its value as
text and its children under their new numbers. -/
structure Renumbers (p : Nat → Nat) (records result : List Record) : Prop where
  length : result.length = records.length
  bijective : Set.BijOn p (Set.Iio records.length) (Set.Iio records.length)
  root : p 0 = 0
  record : ∀ i r, records[i]? = some r → ∃ s, result[p i]? = some s ∧ s.id = p i ∧
    s.type = r.type ∧ s.value = r.value.textual ∧
    s.children = r.children.map fun c => (p c.toNat : Int)

/-- The number of records that are reached from a record by way of children, the
record included. -/
noncomputable def subtreeCount (records : List Record) (i : Nat) : Nat :=
  {j | ReflTransGen (Lists records) i j}.ncard

/-- Whether the first child of every record is numbered right after it, and every
further child right after the records below the child before it. -/
structure FollowsSubtrees (records : List Record) : Prop where
  first : ∀ r ∈ records, ∀ c : Int, r.children[0]? = some c → c = r.id + 1
  next : ∀ r ∈ records, ∀ (k : Nat) (c d : Int), r.children[k]? = some c →
    r.children[k + 1]? = some d → d = c + subtreeCount records c.toNat

/-- Whether the value of a record is text or absent. -/
def RecordWith.isPlain (r : Record) : Bool := Label.isPlain ⟨r.type, r.value⟩

theorem RecordWith.textual_of_isPlain {r : Record} (h : r.isPlain = true) :
    r.value.textual = r.value := by
  obtain ⟨id, type, value, children⟩ := r
  cases value <;> simp [isPlain, Label.isPlain, Scalar.textual] at h ⊢

theorem RecordWith.eq_of_fields {r s : Record} (hid : r.id = s.id) (htype : r.type = s.type)
    (hvalue : r.value = s.value) (hchildren : r.children = s.children) : r = s := by
  obtain ⟨id, type, value, children⟩ := r
  obtain ⟨id', type', value', children'⟩ := s
  obtain rfl : id = id' := hid
  obtain rfl : type = type' := htype
  obtain rfl : value = value' := hvalue
  obtain rfl : children = children' := hchildren
  rfl

theorem Scalar.textual_textual (v : Scalar) : v.textual.textual = v.textual := by
  cases v <;> rfl

/-! ## Places of numbers -/

section Places

variable {xs : List Nat} {n : Nat}

/-- The places of numbers that are all there once are all there once. -/
theorem bijOn_idxOf (h : xs.Perm (List.range n)) :
    Set.BijOn xs.idxOf (Set.Iio n) (Set.Iio n) := by
  have hmem : ∀ {i}, i ∈ xs ↔ i < n := by
    intro i
    rw [h.mem_iff, List.mem_range]
  have hlength : xs.length = n := by rw [h.length_eq, List.length_range]
  have hnodup : xs.Nodup := h.nodup_iff.mpr List.nodup_range
  refine ⟨fun i hi => ?_, fun i hi j _ hij => ?_, fun k hk => ?_⟩
  · have hlt : xs.idxOf i < xs.length := List.idxOf_lt_length_of_mem (hmem.mpr hi)
    rwa [hlength] at hlt
  · exact (List.idxOf_inj (hmem.mpr hi)).mp hij
  · have hlt : k < xs.length := by rw [hlength]; exact hk
    exact ⟨xs[k], hmem.mp (List.getElem_mem hlt), hnodup.idxOf_getElem k hlt⟩

variable {u v : Tree Nat} {k : Nat}

/-- The place of a number is that of its node. -/
theorem idxOf_label (hnodup : u.labels.Nodup) (hv : u.preorder[k]? = some v) :
    u.labels.idxOf v.label = k := by
  have hlabel : u.labels[k]? = some v.label := by rw [Tree.labels, List.getElem?_map, hv]; rfl
  obtain ⟨hlt, heq⟩ := List.getElem?_eq_some_iff.mp hlabel
  rw [← heq]
  exact hnodup.idxOf_getElem k hlt

/-- A number is the root of the subtree at its place. -/
theorem exists_at_idxOf {i : Nat} (hi : i ∈ u.labels) :
    ∃ v, u.preorder[u.labels.idxOf i]? = some v ∧ v.label = i := by
  have hlabel : u.labels[u.labels.idxOf i]? = some i := List.getElem?_idxOf hi
  rw [Tree.labels, List.getElem?_map, Option.map_eq_some_iff] at hlabel
  exact hlabel

end Places

/-! ## Records below a record -/

theorem Describes.subtree {records : List Record} {u v : Tree Nat} (h : Describes records u)
    (hv : v ∈ u.preorder) : Describes records v :=
  fun _ hw => h _ (Tree.mem_preorder_trans hv hw)

mutual
theorem reaches_of_mem_labels {records : List Record} {j : Nat} : ∀ u : Tree Nat,
    Describes records u → j ∈ u.labels → ReflTransGen (Lists records) u.label j
  | .node i us, h, hj => by
      obtain ⟨⟨r, hr, hus⟩, h⟩ := describes_node.mp h
      rw [Tree.labels_node, List.mem_cons] at hj
      rcases hj with rfl | hj
      · exact .refl
      · obtain ⟨v, hv, hreach⟩ := reaches_of_mem_forest_labels us h hj
        refine .head ?_ hreach
        rw [Lists, Tree.label, childrenAt_of_getElem? hr, hus]
        exact List.mem_map_of_mem hv

theorem reaches_of_mem_forest_labels {records : List Record} {j : Nat} :
    ∀ us : List (Tree Nat), (∀ u ∈ us, Describes records u) → j ∈ us.flatMap Tree.labels →
      ∃ v ∈ us, ReflTransGen (Lists records) v.label j
  | [], _, hj => by simp at hj
  | u :: us, h, hj => by
      rw [List.forall_mem_cons] at h
      rw [List.flatMap_cons, List.mem_append] at hj
      rcases hj with hj | hj
      · exact ⟨u, List.mem_cons_self, reaches_of_mem_labels u h.1 hj⟩
      · obtain ⟨v, hv, hreach⟩ := reaches_of_mem_forest_labels us h.2 hj
        exact ⟨v, List.mem_cons_of_mem u hv, hreach⟩
end

/-- The records that are reached from the root of a described tree are those of
its nodes. -/
theorem reaches_iff_mem_labels {records : List Record} {u : Tree Nat}
    (h : Describes records u) (j : Nat) :
    ReflTransGen (Lists records) u.label j ↔ j ∈ u.labels := by
  refine ⟨fun hreach => ?_, reaches_of_mem_labels u h⟩
  induction hreach with
  | refl => exact Tree.label_mem_labels u
  | tail _ hlists ih =>
    obtain ⟨w, hw, rfl⟩ := List.mem_map.mp ih
    obtain ⟨r, hr, hchildren⟩ := h w hw
    rw [Lists, childrenAt_of_getElem? hr, hchildren] at hlists
    obtain ⟨x, hx, hlabel⟩ := List.mem_map.mp hlists
    obtain rfl := Int.ofNat_inj.mp hlabel
    exact List.mem_map_of_mem (Tree.mem_preorder_of_child hw hx)

/-- They are as many as the nodes, if no number stands twice. -/
theorem subtreeCount_eq_size {records : List Record} {u : Tree Nat}
    (h : Describes records u) (hnodup : u.labels.Nodup) :
    subtreeCount records u.label = u.size := by
  have hset : {j | ReflTransGen (Lists records) u.label j} = (u.labels.toFinset : Set Nat) := by
    ext j
    rw [Set.mem_ofPred_eq, reaches_iff_mem_labels h, List.coe_toFinset, Set.mem_ofPred_eq]
  rw [subtreeCount, hset, Set.ncard_coe_finset, List.toFinset_card_of_nodup hnodup,
    Tree.length_labels]

/-! ## Described trees in document order -/

section

variable {records : List Record} {u v w : Tree Nat}

/-- The numbers of a subtree are different if those of the tree are. -/
theorem nodup_labels_subtree (hnodup : u.labels.Nodup) (hv : v ∈ u.preorder) :
    v.labels.Nodup := by
  obtain ⟨i, hi⟩ := List.mem_iff_getElem?.mp hv
  have hsub : v.preorder.Sublist u.preorder :=
    (Tree.preorder_prefix_drop u i v hi).sublist.trans (List.drop_sublist i u.preorder)
  exact hnodup.sublist (hsub.map Tree.label)

/-- If the root of a described tree has its place for a number, so have its
children. -/
theorem label_child_eq_place (hw : WellNumbered records) (hfollows : FollowsSubtrees records)
    (hu : Describes records u) (hnodup : u.labels.Nodup) :
    ∀ {k : Nat} {v : Tree Nat}, u.children[k]? = some v → v.label = childPlace u.label u k := by
  obtain ⟨r, hr, hchildren⟩ := hu u (Tree.self_mem_preorder u)
  have hmem := List.mem_of_getElem? hr
  have hlisted : ∀ {k : Nat} {v : Tree Nat}, u.children[k]? = some v →
      r.children[k]? = some (v.label : Int) := by
    intro k v hv
    rw [hchildren, roots, List.getElem?_map, hv]
    rfl
  intro k
  induction k with
  | zero =>
    intro v hv
    have hfirst := hfollows.first r hmem _ (hlisted hv)
    rw [hw.numbered _ r hr] at hfirst
    simp only [childPlace, List.take_zero, Tree.forestSize]
    omega
  | succ k ih =>
    intro v hv
    have hlt : k < u.children.length := Nat.lt_of_succ_lt (List.getElem?_eq_some_iff.mp hv).1
    have hbefore := List.getElem?_eq_getElem hlt
    generalize u.children[k] = b at hbefore
    have hb : b ∈ u.preorder :=
      Tree.mem_preorder_of_child (Tree.self_mem_preorder u) (List.mem_of_getElem? hbefore)
    have hnext := hfollows.next r hmem k _ _ (hlisted hbefore) (hlisted hv)
    rw [Int.toNat_natCast, subtreeCount_eq_size (hu.subtree hb) (nodup_labels_subtree hnodup hb),
      ih hbefore] at hnext
    simp only [childPlace, Tree.forestSize_take_succ hbefore] at hnext ⊢
    omega

/-- If children follow subtrees, the numbers below a node that has its place for a
number are places, too. -/
theorem label_eq_place_below (hw : WellNumbered records) (hfollows : FollowsSubtrees records)
    (hu : Describes records u) (hnodup : u.labels.Nodup) (n : Nat) :
    ∀ {i j : Nat} {v w : Tree Nat}, u.preorder[i]? = some v → v.size ≤ n → v.label = i →
      i ≤ j → j < i + v.size → u.preorder[j]? = some w → w.label = j := by
  -- by induction on the size: the place is that of the node, or below one of its children
  induction n with
  | zero =>
    intro i j v w _ hn
    have hpos := v.size_pos
    omega
  | succ n ih =>
    intro i j v w hv hn hlabel hij hj hplace
    rcases Nat.eq_or_lt_of_le hij with rfl | hlt
    · obtain rfl : v = w := Option.some.inj (hv.symm.trans hplace)
      exact hlabel
    · obtain ⟨k, x, hx, hle, hlt'⟩ := Tree.exists_child_of_lt hlt hj
      have hmem := List.mem_of_getElem? hv
      have hsize := Tree.childPlace_add_size_le (i := i) hx
      have hafter := Tree.lt_childPlace i v k
      have hchild := label_child_eq_place hw hfollows (hu.subtree hmem)
        (nodup_labels_subtree hnodup hmem) hx
      rw [hlabel] at hchild
      exact ih (Tree.getElem?_preorder_child hv hx) (by omega) hchild hle hlt' hplace

/-- If children follow subtrees, every number of the described tree is its place
in document order. -/
theorem label_eq_place (hw : WellNumbered records) (hfollows : FollowsSubtrees records)
    (hu : Describes records u) (hnodup : u.labels.Nodup) (hroot : u.label = 0) {j : Nat}
    (hplace : u.preorder[j]? = some w) : w.label = j := by
  have hfirst : u.preorder[0]? = some u := by
    cases u with
    | node a us => rw [Tree.preorder_node, List.getElem?_cons_zero]
  have hlt := (List.getElem?_eq_some_iff.mp hplace).1
  rw [Tree.length_preorder] at hlt
  exact label_eq_place_below hw hfollows hu hnodup u.size hfirst (Nat.le_refl _) hroot
    (Nat.zero_le j) (by omega) hplace

end

/-! ## The records of trees -/

/-- The records of a tree follow subtrees. -/
theorem followsSubtrees_flatten (t : Tree Label) : FollowsSubtrees (flatten t) := by
  have hrecord : ∀ r ∈ flatten t, ∃ i u, t.preorder[i]? = some u ∧ r = recordAt i u := by
    intro r hr
    obtain ⟨i, hi⟩ := List.mem_iff_getElem?.mp hr
    rw [getElem?_flatten, Option.map_eq_some_iff] at hi
    obtain ⟨u, hu, rfl⟩ := hi
    exact ⟨i, u, hu, rfl⟩
  constructor
  · intro r hr c hc
    obtain ⟨i, u, hu, rfl⟩ := hrecord r hr
    exact (standsFor_recordAt hu).first c hc
  · intro r hr k c d hc hd
    obtain ⟨i, u, hu, rfl⟩ := hrecord r hr
    obtain ⟨v, hv, rfl⟩ := getElem?_children_recordAt hc
    have hchild := Tree.getElem?_preorder_child hu hv
    have hset : {j | ReflTransGen (Lists (flatten t)) (childPlace i u k) j}
        = (Finset.Ico (childPlace i u k) (childPlace i u k + v.size) : Set Nat) := by
      ext j
      rw [Set.mem_ofPred_eq, reaches_iff hchild, Finset.coe_Ico, Set.mem_Ico]
    rw [subtreeCount, Int.toNat_natCast, hset, Set.ncard_coe_finset, Nat.card_Ico,
      Nat.add_sub_cancel_left]
    exact (standsFor_recordAt hu).next k _ d v hc hd hv

/-! ## Records that are rebuilt and flattened -/

section

variable {records : List Record} {u : Tree Nat}

/-- The records of a described tree are the given ones under the places of their
numbers. -/
theorem renumbers_flatten (hw : WellNumbered records) (hu : Describes records u)
    (hroot : u.label = 0) :
    Renumbers u.labels.idxOf records (flatten (u.map (labelAt records))) := by
  have hperm := hw.labels_perm_range hu hroot
  have hnodup : u.labels.Nodup := hperm.nodup_iff.mpr List.nodup_range
  refine ⟨?_, bijOn_idxOf hperm, ?_, fun i r hr => ?_⟩
  · rw [length_flatten, Tree.size_map, ← Tree.length_labels, hperm.length_eq, List.length_range]
  · cases u with
    | node a us =>
      obtain rfl : a = 0 := hroot
      rw [Tree.labels_node, List.idxOf_cons_self]
  · have hi : i ∈ u.labels := by
      rw [hperm.mem_iff, List.mem_range]
      exact (List.getElem?_eq_some_iff.mp hr).1
    obtain ⟨v, hv, rfl⟩ := exists_at_idxOf hi
    obtain ⟨s, hs, hchildren⟩ := hu v (List.mem_of_getElem? hv)
    obtain rfl : r = s := Option.some.inj (hr.symm.trans hs)
    generalize u.labels.idxOf v.label = place at hv ⊢
    refine ⟨recordAt place (v.map (labelAt records)), ?_, rfl, ?_, ?_, ?_⟩
    · rw [getElem?_flatten, Tree.preorder_map, List.getElem?_map, hv]
      rfl
    · rw [recordAt, Tree.label_map, labelAt_of_getElem? hr]
      rfl
    · rw [recordAt, Tree.label_map, labelAt_of_getElem? hr]
      rfl
    · -- the number of a child is its place
      rw [children_recordAt, Tree.children_map, List.length_map, hchildren, roots, List.map_map]
      refine List.ext_getElem (by simp) fun k hk _ => ?_
      have hlt : k < v.children.length := by simpa using hk
      have hplace := idxOf_label hnodup
        (Tree.getElem?_preorder_child hv (List.getElem?_eq_getElem hlt))
      simp [Tree.childPlace_map, hplace]

/-- Plain records that follow subtrees are the records of their tree. -/
theorem flatten_eq_of_follows (hw : WellNumbered records) (hu : Describes records u)
    (hroot : u.label = 0) (hplain : ∀ r ∈ records, r.isPlain = true)
    (hfollows : FollowsSubtrees records) :
    flatten (u.map (labelAt records)) = records := by
  have hrenumbers := renumbers_flatten hw hu hroot
  have hperm := hw.labels_perm_range hu hroot
  have hnodup : u.labels.Nodup := hperm.nodup_iff.mpr List.nodup_range
  have hsame : ∀ i < records.length, u.labels.idxOf i = i := by
    intro i hi
    have hlt : i < u.preorder.length := by
      rw [← List.length_map (f := Tree.label), ← Tree.labels, hperm.length_eq, List.length_range]
      exact hi
    have hplace := List.getElem?_eq_getElem hlt
    have hlabel := label_eq_place hw hfollows hu hnodup hroot hplace
    have hidx := idxOf_label hnodup hplace
    rwa [hlabel] at hidx
  refine List.ext_getElem hrenumbers.length fun i _ hi => ?_
  have hr := List.getElem?_eq_getElem hi
  have hmem : records[i] ∈ records := List.getElem_mem hi
  obtain ⟨s, hs, hid, htype, hvalue, hchildren⟩ := hrenumbers.record i _ hr
  rw [hsame i hi] at hs hid
  obtain ⟨hlt, heq⟩ := List.getElem?_eq_some_iff.mp hs
  have hkept : records[i].children.map (fun c => (u.labels.idxOf c.toNat : Int))
      = records[i].children := by
    refine (List.map_congr_left fun c hc => ?_).trans (List.map_id _)
    have hrange := hw.children_later _ hmem c hc
    rw [hsame c.toNat (by omega), Int.toNat_of_nonneg (by omega), id]
  have hrecord : s = records[i] := by
    refine RecordWith.eq_of_fields ?_ htype ?_ ?_
    · rw [hid, hw.numbered i _ hr]
    · rw [hvalue, RecordWith.textual_of_isPlain (hplain _ hmem)]
    · rw [hchildren, hkept]
  rw [heq, hrecord]

/-- The labels of a rebuilt tree have their values as text already. -/
theorem textual_map_labelAt (u : Tree Nat) :
    (u.map (labelAt records)).map Label.textual = u.map (labelAt records) := by
  rw [Tree.map_map]
  refine Tree.map_congr u fun i _ => ?_
  rw [Function.comp_apply, labelAt]
  cases records[i]? with
  | none => rfl
  | some r =>
    show Label.mk r.type r.value.textual.textual = ⟨r.type, r.value.textual⟩
    rw [Scalar.textual_textual]

theorem Scalar.isWritable_textual (v : Scalar) : v.textual.isWritable = true := by
  cases v <;> rfl

theorem isWritable_map_labelAt (u : Tree Nat) :
    ∀ l ∈ (u.map (labelAt records)).labels, l.value.isWritable = true := by
  intro l hl
  rw [Tree.labels_map] at hl
  obtain ⟨i, -, rfl⟩ := List.mem_map.mp hl
  rw [labelAt]
  cases records[i]? with
  | none => rfl
  | some r => exact r.value.isWritable_textual

/-- **Records that can be rebuilt are those of their tree, but for their
numbers.** If their values are plain, they are the same records exactly if
children follow subtrees; and the records of the tree stay as they are when they
are rebuilt and flattened again. -/
theorem renumber_of_rebuild {t : Tree Label} (h : rebuild records = .ok t) :
    ∃ result, renumber records = .ok result ∧ (∃ p, Renumbers p records result) ∧
      ((∀ r ∈ records, r.isPlain = true) → (result = records ↔ FollowsSubtrees records)) ∧
      renumber result = .ok result := by
  obtain ⟨hw, hvalues⟩ := Rebuild.of_rebuild h
  obtain ⟨u, hroot, hu, hrebuild⟩ := Rebuild.rebuild_of_wellNumbered hw hvalues
  refine ⟨flatten (u.map (labelAt records)), ?_, ⟨_, renumbers_flatten hw hu hroot⟩,
    fun hplain => ⟨fun heq => ?_, flatten_eq_of_follows hw hu hroot hplain⟩, ?_⟩
  · rw [renumber, hrebuild]
    rfl
  · rw [← heq]
    exact followsSubtrees_flatten _
  · rw [renumber, rebuild_flatten (isWritable_map_labelAt u), textual_map_labelAt]
    rfl

end

/-- Four records numbered level by level, the second child of the root first. -/
def crossedRecords : List Record :=
  [⟨0, "sum", .null, [2, 1]⟩, ⟨1, "term", .int 7, [3]⟩, ⟨2, "term", .text "", []⟩,
    ⟨3, "leaf", .bool true, []⟩]

/-- Records that are numbered in another order are renumbered. -/
theorem renumber_of_rebuild_crossed :
    rebuild crossedRecords = .ok (.node ⟨"sum", .null⟩ [.node ⟨"term", .text ""⟩ [],
      .node ⟨"term", .text "7"⟩ [.node ⟨"leaf", .text "True"⟩ []]]) ∧
    ∃ result, renumber crossedRecords = .ok result ∧ (∃ p, Renumbers p crossedRecords result) ∧
      ((∀ r ∈ crossedRecords, r.isPlain = true) →
        (result = crossedRecords ↔ FollowsSubtrees crossedRecords)) ∧
      renumber result = .ok result :=
  ⟨rfl, renumber_of_rebuild rfl⟩

end SyntaxCorpus
