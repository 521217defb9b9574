/-
SyntaxCorpus.Proofs.Record.Flatten — the records of a tree by recursion on the
tree.

`flatten` numbers the outline of a tree and then collects the children of every
entry in one pass from the last entry to the first. `recordsFrom` says what
comes out without a pass: the record of a node has the number of the node, and
its children are the numbers of the roots of the subtrees below it.

* `getD_childLists` — the pass collects the numbers of the entries that name a
  parent, in order.
* `flatten_eq` — `flatten t` is `recordsFrom 0 t`.
* `length_of_flattenRaw` — a raw tree that has records has one for each node.
-/
import SyntaxCorpus.Proofs.Traversal
import SyntaxCorpus.Proofs.Tree.Numbering
import SyntaxCorpus.Record.Flatten

namespace SyntaxCorpus

open SyntaxCorpus.Tree (Entry entriesFrom forestEntriesFrom forestNumbersFrom forestSize)

/-! ## The children of an entry -/

namespace Outline

variable {α : Type}

/-- The numbers of the entries below `parent`, the first entry having number
`start`. -/
def numbersUnder (parent : Nat) (start : Nat) : List (Entry α) → List Int
  | [] => []
  | (q, _) :: rest =>
    (if q = some parent then [(start : Int)] else []) ++ numbersUnder parent (start + 1) rest

theorem numbersUnder_append (p : Nat) : ∀ (xs ys : List (Entry α)) (start : Nat),
    numbersUnder p start (xs ++ ys)
      = numbersUnder p start xs ++ numbersUnder p (start + xs.length) ys
  | [], _, _ => rfl
  | (q, a) :: xs, ys, start => by
      rw [List.cons_append, numbersUnder, numbersUnder, numbersUnder_append p xs ys (start + 1),
        List.append_assoc, List.length_cons, Nat.add_assoc start 1, Nat.add_comm 1]

/-- One entry put in front of the children of its parent. -/
def join (entry : Entry α × Nat) (lists : Array (List Int)) : Array (List Int) :=
  match entry.1.1 with
  | some p => lists.modify p ((entry.2 : Int) :: ·)
  | none => lists

theorem size_join (entry : Entry α × Nat) (lists : Array (List Int)) :
    (join entry lists).size = lists.size := by
  unfold join
  split
  · exact Array.size_modify
  · rfl

theorem size_foldr_join (entries : List (Entry α × Nat)) (lists : Array (List Int)) :
    (entries.foldr join lists).size = lists.size := by
  induction entries with
  | nil => rfl
  | cons e es ih => rw [List.foldr_cons, size_join, ih]

theorem getD_join (q : Option Nat) (a : α) (i p : Nat) (lists : Array (List Int))
    (hp : p < lists.size) :
    (join ((q, a), i) lists).getD p []
      = (if q = some p then [(i : Int)] else []) ++ lists.getD p [] := by
  cases q with
  | none => simp [join]
  | some r =>
    have hs : p < (lists.modify r ((i : Int) :: ·)).size := by rwa [Array.size_modify]
    simp only [join, Array.getD_eq_getD_getElem?, Array.getElem?_eq_getElem hs,
      Array.getElem?_eq_getElem hp, Option.getD_some, Array.getElem_modify, Option.some.injEq]
    by_cases h : r = p <;> simp [h]

theorem getD_foldr_join (p : Nat) (lists : Array (List Int)) (hp : p < lists.size) :
    ∀ (entries : List (Entry α)) (start : Nat),
      ((entries.zipIdx start).foldr join lists).getD p []
        = numbersUnder p start entries ++ lists.getD p []
  | [], _ => rfl
  | (q, a) :: rest, start => by
      rw [List.zipIdx_cons, List.foldr_cons, getD_join, getD_foldr_join p lists hp rest,
        numbersUnder, List.append_assoc]
      rwa [size_foldr_join]

/-- The children that are collected for an entry are the entries that name it
as their parent. -/
theorem getD_childLists (entries : List (Entry α)) {p : Nat} (hp : p < entries.length) :
    (childLists entries).getD p [] = numbersUnder p 0 entries := by
  have hs : p < (Array.replicate entries.length ([] : List Int)).size := by
    rwa [Array.size_replicate]
  have h := getD_foldr_join p _ hs entries 0
  simp only [Array.getD_eq_getD_getElem?, Array.getElem?_replicate, hp, if_true,
    Option.getD_some, List.append_nil] at h
  rw [Array.getD_eq_getD_getElem?, ← h]
  rfl

mutual
/-- Outside the numbers of a tree, only its root can be a child. -/
theorem numbersUnder_entriesFrom (p : Nat) : ∀ (t : Tree α) (parent : Option Nat) (start : Nat),
    p < start ∨ start + t.size ≤ p →
    numbersUnder p start (entriesFrom parent start t)
      = if parent = some p then [(start : Int)] else []
  | .node a ts, parent, start, h => by
      have hsize : (Tree.node a ts).size = 1 + forestSize ts := by rw [Tree.size]
      rw [entriesFrom, numbersUnder,
        numbersUnder_forestEntriesFrom p ts start (start + 1) (by omega),
        if_neg (by omega : start ≠ p), List.append_nil]

theorem numbersUnder_forestEntriesFrom (p : Nat) : ∀ (ts : List (Tree α)) (parent start : Nat),
    p < start ∨ start + forestSize ts ≤ p →
    numbersUnder p start (forestEntriesFrom parent start ts)
      = if parent = p then (forestNumbersFrom start ts).map fun u => (u.label : Int) else []
  | [], parent, _, _ => by simp [forestEntriesFrom, numbersUnder, forestNumbersFrom]
  | t :: ts, parent, start, h => by
      have hsize : forestSize (t :: ts) = t.size + forestSize ts := by rw [forestSize]
      rw [forestEntriesFrom, numbersUnder_append, Tree.length_entriesFrom,
        numbersUnder_entriesFrom p t (some parent) start (by omega),
        numbersUnder_forestEntriesFrom p ts parent (start + t.size) (by omega),
        forestNumbersFrom, List.map_cons, Tree.label_numbersFrom]
      by_cases hp : parent = p <;> simp [hp]
end

end Outline

/-! ## Records by recursion -/

mutual
/-- The records of a tree whose root has number `start`. -/
def recordsFrom (start : Nat) : Tree Label → List Record
  | .node l ts =>
    ⟨start, l.type, l.value, (forestNumbersFrom (start + 1) ts).map fun u => (u.label : Int)⟩
      :: forestRecordsFrom (start + 1) ts

/-- The records of a list of trees, the first root having number `start`. -/
def forestRecordsFrom (start : Nat) : List (Tree Label) → List Record
  | [] => []
  | t :: ts => recordsFrom start t ++ forestRecordsFrom (start + t.size) ts
end

mutual
theorem length_recordsFrom : ∀ (t : Tree Label) (start : Nat),
    (recordsFrom start t).length = t.size
  | .node l ts, start => by
      rw [recordsFrom, List.length_cons, length_forestRecordsFrom ts (start + 1), Tree.size,
        Nat.add_comm]

theorem length_forestRecordsFrom : ∀ (ts : List (Tree Label)) (start : Nat),
    (forestRecordsFrom start ts).length = forestSize ts
  | [], _ => rfl
  | t :: ts, start => by
      rw [forestRecordsFrom, List.length_append, length_recordsFrom t start,
        length_forestRecordsFrom ts (start + t.size), forestSize]
end

mutual
/-- The records are numbered from the first one on. -/
theorem ids_recordsFrom : ∀ (t : Tree Label) (start : Nat),
    (recordsFrom start t).map (·.id) = List.range' start t.size
  | .node l ts, start => by
      rw [recordsFrom, List.map_cons, ids_forestRecordsFrom ts (start + 1), Tree.size,
        Nat.add_comm 1, List.range'_succ]

theorem ids_forestRecordsFrom : ∀ (ts : List (Tree Label)) (start : Nat),
    (forestRecordsFrom start ts).map (·.id) = List.range' start (forestSize ts)
  | [], _ => rfl
  | t :: ts, start => by
      rw [forestRecordsFrom, List.map_append, ids_recordsFrom t start,
        ids_forestRecordsFrom ts (start + t.size), forestSize, List.range'_append_1]
end

mutual
/-- The children of a record come later, and are nodes of the same tree. -/
theorem children_recordsFrom : ∀ (t : Tree Label) (start : Nat), ∀ r ∈ recordsFrom start t,
    ∀ c ∈ r.children, (r.id : Int) < c ∧ c < start + t.size
  | .node l ts, start, r, hr, c, hc => by
      have hsize : (Tree.node l ts).size = 1 + forestSize ts := by rw [Tree.size]
      rw [recordsFrom, List.mem_cons] at hr
      rcases hr with rfl | hr
      · obtain ⟨u, hu, rfl⟩ := List.mem_map.mp hc
        have hmem : u.label ∈ (forestNumbersFrom (start + 1) ts).flatMap Tree.labels :=
          List.mem_flatMap.mpr ⟨u, hu, Tree.label_mem_labels u⟩
        rw [Tree.labels_forestNumbersFrom, List.mem_range'_1] at hmem
        show (start : Int) < u.label ∧ (u.label : Int) < start + (Tree.node l ts).size
        omega
      · have := children_forestRecordsFrom ts (start + 1) r hr c hc
        omega

theorem children_forestRecordsFrom : ∀ (ts : List (Tree Label)) (start : Nat),
    ∀ r ∈ forestRecordsFrom start ts, ∀ c ∈ r.children,
      (r.id : Int) < c ∧ c < start + forestSize ts
  | [], _, _, hr, _, _ => by cases hr
  | t :: ts, start, r, hr, c, hc => by
      have hsize : forestSize (t :: ts) = t.size + forestSize ts := by rw [forestSize]
      rw [forestRecordsFrom, List.mem_append] at hr
      rcases hr with hr | hr
      · have := children_recordsFrom t start r hr c hc
        omega
      · have := children_forestRecordsFrom ts (start + t.size) r hr c hc
        omega
end

mutual
/-- The records of a tree have its labels. -/
theorem labels_recordsFrom : ∀ (t : Tree Label) (start : Nat),
    (recordsFrom start t).map (fun r => (⟨r.type, r.value⟩ : Label)) = t.labels
  | .node l ts, start => by
      rw [recordsFrom, List.map_cons, labels_forestRecordsFrom ts (start + 1), Tree.labels_node]

theorem labels_forestRecordsFrom : ∀ (ts : List (Tree Label)) (start : Nat),
    (forestRecordsFrom start ts).map (fun r => (⟨r.type, r.value⟩ : Label))
      = ts.flatMap Tree.labels
  | [], _ => rfl
  | t :: ts, start => by
      rw [forestRecordsFrom, List.map_append, labels_recordsFrom t start,
        labels_forestRecordsFrom ts (start + t.size), List.flatMap_cons]
end

/-- The record of an entry, its children taken from a table. -/
def entryRecord (lists : Nat → List Int) (entry : Entry Label × Nat) : Record :=
  ⟨entry.2, entry.1.2.type, entry.1.2.value, lists entry.2⟩

open Outline in
mutual
/-- With the right children for every number of a tree, the entries of the tree
become its records. -/
theorem map_entryRecord (lists : Nat → List Int) :
    ∀ (t : Tree Label) (parent : Option Nat) (start : Nat), (∀ q ∈ parent, q < start) →
      (∀ p, start ≤ p → p < start + t.size →
        lists p = numbersUnder p start (entriesFrom parent start t)) →
      ((entriesFrom parent start t).zipIdx start).map (entryRecord lists) = recordsFrom start t
  | .node l ts, parent, start, hpar, hl => by
      have hsize : (Tree.node l ts).size = 1 + forestSize ts := by rw [Tree.size]
      have hne : ∀ p, start ≤ p → parent ≠ some p := fun p hp he =>
        absurd (hpar p he) (by omega)
      have hroot : lists start
          = (forestNumbersFrom (start + 1) ts).map fun u => (u.label : Int) := by
        rw [hl start (Nat.le_refl _) (by omega), entriesFrom, numbersUnder,
          numbersUnder_forestEntriesFrom start ts start (start + 1) (by omega),
          if_neg (hne start (Nat.le_refl _)), if_pos rfl, List.nil_append]
      have hbelow : ∀ p, start + 1 ≤ p → p < start + 1 + forestSize ts →
          lists p = numbersUnder p (start + 1) (forestEntriesFrom start (start + 1) ts) := by
        intro p h1 h2
        rw [hl p (by omega) (by omega), entriesFrom, numbersUnder, if_neg (hne p (by omega)),
          List.nil_append]
      rw [entriesFrom, List.zipIdx_cons, List.map_cons, recordsFrom,
        map_forest_entryRecord lists ts start (start + 1) (by omega) hbelow, ← hroot]
      rfl

theorem map_forest_entryRecord (lists : Nat → List Int) :
    ∀ (ts : List (Tree Label)) (parent start : Nat), parent < start →
      (∀ p, start ≤ p → p < start + forestSize ts →
        lists p = numbersUnder p start (forestEntriesFrom parent start ts)) →
      ((forestEntriesFrom parent start ts).zipIdx start).map (entryRecord lists)
        = forestRecordsFrom start ts
  | [], _, _, _, _ => rfl
  | t :: ts, parent, start, hpar, hl => by
      have hsize : forestSize (t :: ts) = t.size + forestSize ts := by rw [forestSize]
      have hsplit : ∀ p, numbersUnder p start (forestEntriesFrom parent start (t :: ts))
          = numbersUnder p start (entriesFrom (some parent) start t)
            ++ numbersUnder p (start + t.size) (forestEntriesFrom parent (start + t.size) ts) := by
        intro p
        rw [forestEntriesFrom, numbersUnder_append, Tree.length_entriesFrom]
      have hfirst : ∀ p, start ≤ p → p < start + t.size →
          lists p = numbersUnder p start (entriesFrom (some parent) start t) := by
        intro p h1 h2
        rw [hl p h1 (by omega), hsplit,
          numbersUnder_forestEntriesFrom p ts parent (start + t.size) (by omega),
          if_neg (by omega : parent ≠ p), List.append_nil]
      have hrest : ∀ p, start + t.size ≤ p → p < start + t.size + forestSize ts →
          lists p
            = numbersUnder p (start + t.size) (forestEntriesFrom parent (start + t.size) ts) := by
        intro p h1 h2
        rw [hl p (by omega) (by omega), hsplit,
          numbersUnder_entriesFrom p t (some parent) start (by omega),
          if_neg (by simp; omega), List.nil_append]
      rw [forestEntriesFrom, List.zipIdx_append, List.map_append, Tree.length_entriesFrom,
        map_entryRecord lists t (some parent) start (by simpa using hpar) hfirst,
        map_forest_entryRecord lists ts parent (start + t.size) (by omega) hrest,
        forestRecordsFrom]
end

/-- The records of a tree are numbered from zero in document order, and list
the roots of the subtrees below their nodes. -/
theorem flatten_eq (t : Tree Label) : flatten t = recordsFrom 0 t := by
  have hlen : (entriesFrom none 0 t).length = t.size := Tree.length_entriesFrom t none 0
  rw [flatten, Tree.outline_eq, Outline.records]
  refine map_entryRecord (fun i => (Outline.childLists (entriesFrom none 0 t)).getD i []) t none 0
    (by simp) fun p _ hp => ?_
  exact Outline.getD_childLists _ (by omega)

theorem length_flatten (t : Tree Label) : (flatten t).length = t.size := by
  rw [flatten_eq, length_recordsFrom]

theorem label_mem_of_mem_flatten {t : Tree Label} {r : Record} (h : r ∈ flatten t) :
    ⟨r.type, r.value⟩ ∈ t.labels := by
  rw [flatten_eq] at h
  rw [← labels_recordsFrom t 0]
  exact List.mem_map_of_mem h

/-! ## Raw labels -/

/-- There is a record for each node. -/
theorem length_of_flattenRaw {raw : Tree RawLabel} {records : List Record}
    (h : flattenRaw raw = .ok records) : records.length = raw.size := by
  rw [flattenRaw] at h
  cases hchecked : checkOutline raw.outline with
  | error ps =>
    rw [hchecked] at h
    cases h
  | ok checked =>
    rw [hchecked] at h
    obtain rfl : Outline.records checked = records := Except.ok.inj h
    rw [Outline.records, List.length_map, List.length_zipIdx,
      ← (mapM_eq_ok_iff.mp hchecked).length_eq, Tree.outline_eq, Tree.length_entriesFrom]

end SyntaxCorpus
