/-
SyntaxCorpus.Proofs.Record.Rebuild — which records describe a tree, and which
tree it is.

* `claimAll_ok`, `claimAll_of_count_le` — what the pass over the children finds
  out, in terms of how often a number is listed.
* `checks_pass_iff` — the three checks pass exactly for well-numbered records
  with values that can be written.
* `getElem?_subtrees` — the trees that are built from the last record to the
  first one are images of described trees of numbers.
* `rebuild_iff_wellNumbered_writable` — `rebuild` succeeds exactly for these, and
  which tree it then gives.
-/
import Mathlib.Algebra.Group.Int.Defs
import SyntaxCorpus.Proofs.Record.Describe
import SyntaxCorpus.Record.Rebuild

namespace SyntaxCorpus

namespace Rebuild

/-! ## The numbers and the values -/

/-- All values can be written as text. -/
def Writable (records : List Record) : Prop := ∀ r ∈ records, r.value.isWritable = true

theorem checkLabels_ok_iff : ∀ (records : List Record) (position : Nat),
    checkLabels position records = .ok () ↔
      (∀ (i : Nat) (r : Record), records[i]? = some r → r.id = position + i) ∧ Writable records
  | [], _ => by simp [checkLabels, Writable]
  | r :: rs, position => by
      have ih := checkLabels_ok_iff rs (position + 1)
      unfold checkLabels
      by_cases h : r.id = position
      · rw [if_neg (not_not.mpr h)]
        cases hvalue : r.value.isWritable with
        | true =>
          rw [if_pos rfl, ih, Writable, Writable, List.forall_mem_cons]
          constructor
          · rintro ⟨hrs, hvalues⟩
            refine ⟨fun i s hs => ?_, hvalue, hvalues⟩
            cases i with
            | zero =>
              obtain rfl : r = s := by simpa using hs
              exact h
            | succ i =>
              rw [hrs i s (by simpa using hs)]
              omega
          · rintro ⟨hrs, -, hvalues⟩
            refine ⟨fun i s hs => ?_, hvalues⟩
            rw [hrs (i + 1) s (by simpa using hs)]
            omega
        | false =>
          rw [if_neg Bool.false_ne_true]
          constructor
          · intro he
            cases he
          · rintro ⟨-, hvalues⟩
            rw [hvalues r (List.mem_cons_self ..)] at hvalue
            cases hvalue
      · rw [if_pos h]
        constructor
        · intro he
          cases he
        · rintro ⟨hrs, -⟩
          exact absurd (hrs 0 r (by simp)) h

/-! ## The children -/

/-- How often a number is claimed: once or not at all. -/
def held (claimed : Array Bool) (k : Nat) : Nat := if claimed.getD k false then 1 else 0

theorem held_replicate (n k : Nat) : held (Array.replicate n false) k = 0 := by
  rw [held, Array.getD_eq_getD_getElem?, Array.getElem?_replicate]
  by_cases h : k < n <;> simp [h]

theorem held_set {claimed : Array Bool} {c : Int} (hc : 0 ≤ c) (hs : c < claimed.size)
    (hfree : claimed.getD c.toNat false = false) (k : Nat) :
    held (claimed.setIfInBounds c.toNat true) k
      = held claimed k + if c = (k : Int) then 1 else 0 := by
  unfold held
  by_cases hk : c = (k : Int)
  · obtain rfl : c.toNat = k := by omega
    rw [if_pos hk, hfree, Array.getD_eq_getD_getElem?,
      Array.getElem?_setIfInBounds_self_of_lt (by omega)]
    simp
  · rw [if_neg hk, Array.getD_eq_getD_getElem?, Array.getD_eq_getD_getElem?,
      Array.getElem?_setIfInBounds_ne (by omega), Nat.add_zero]

theorem held_add_count_cons {claimed : Array Bool} {c : Int} (hc : 0 ≤ c)
    (hs : c < claimed.size) (hfree : claimed.getD c.toNat false = false) (cs : List Int)
    (k : Nat) :
    held (claimed.setIfInBounds c.toNat true) k + cs.count (k : Int)
      = held claimed k + (c :: cs).count (k : Int) := by
  rw [held_set hc hs hfree, List.count_cons]
  by_cases hk : c = (k : Int)
  · simp [hk]
    omega
  · simp [hk]

/-- A node that has claimed its children: they come later, and each of them is
claimed once more than before. -/
theorem claim_ok {parent : Nat} {claimed out : Array Bool} {cs : List Int}
    (h : claim parent claimed cs = .ok out) :
    out.size = claimed.size ∧ (∀ c ∈ cs, (parent : Int) < c ∧ c < claimed.size) ∧
      ∀ k : Nat, held out k = held claimed k + cs.count (k : Int) := by
  fun_induction claim parent claimed cs with
  | case1 claimed =>
    cases h
    simp
  | case2 => cases h
  | case3 => cases h
  | case4 claimed c cs hrange hfree ih =>
    obtain ⟨hsize, hcs, hheld⟩ := ih h
    rw [Array.size_setIfInBounds] at hsize hcs
    refine ⟨hsize, List.forall_mem_cons.mpr ⟨by omega, hcs⟩, fun k => ?_⟩
    rw [hheld k, held_add_count_cons (by omega) (by omega) (by simpa using hfree)]

/-- A node can claim children that come later, if none of them would be claimed
twice. -/
theorem claim_of_count_le {parent : Nat} {claimed : Array Bool} {cs : List Int}
    (hcs : ∀ c ∈ cs, (parent : Int) < c ∧ c < claimed.size)
    (hle : ∀ k : Nat, held claimed k + cs.count (k : Int) ≤ 1) :
    ∃ out, claim parent claimed cs = .ok out := by
  fun_induction claim parent claimed cs with
  | case1 claimed => exact ⟨claimed, rfl⟩
  | case2 claimed c cs hrange =>
    have hc := hcs c List.mem_cons_self
    omega
  | case3 claimed c cs hrange htaken =>
    have hc := hcs c List.mem_cons_self
    have hone := hle c.toNat
    have hcast : ((c.toNat : Nat) : Int) = c := by omega
    rw [held, if_pos htaken, hcast, List.count_cons_self] at hone
    omega
  | case4 claimed c cs hrange hfree ih =>
    refine ih ?_ fun k => ?_
    · intro d hd
      rw [Array.size_setIfInBounds]
      exact hcs d (List.mem_cons_of_mem c hd)
    · rw [held_add_count_cons (by omega) (by omega) (by simpa using hfree)]
      exact hle k

/-- All nodes have claimed their children. -/
theorem claimAll_ok {claimed out : Array Bool} {records : List Record}
    (h : claimAll claimed records = .ok out) :
    out.size = claimed.size ∧
      (∀ r ∈ records, ∀ c ∈ r.children, (r.id : Int) < c ∧ c < claimed.size) ∧
      ∀ k : Nat, held out k = held claimed k + (records.flatMap (·.children)).count (k : Int) := by
  fun_induction claimAll claimed records with
  | case1 claimed =>
    cases h
    simp
  | case2 claimed r rs ih =>
    cases hc : claim r.id claimed r.children with
    | error e =>
      rw [hc] at h
      cases h
    | ok next =>
      rw [hc] at h
      obtain ⟨hsize, hcs, hheld⟩ := claim_ok hc
      obtain ⟨hsize', hrs, hheld'⟩ := ih next h
      rw [hsize] at hsize' hrs
      refine ⟨hsize', List.forall_mem_cons.mpr ⟨hcs, hrs⟩, fun k => ?_⟩
      rw [hheld' k, hheld k, List.flatMap_cons, List.count_append, Nat.add_assoc]

/-- All nodes can claim their children, if these come later and none of them is
listed twice. -/
theorem claimAll_of_count_le {claimed : Array Bool} {records : List Record}
    (hrs : ∀ r ∈ records, ∀ c ∈ r.children, (r.id : Int) < c ∧ c < claimed.size)
    (hle : ∀ k : Nat, held claimed k + (records.flatMap (·.children)).count (k : Int) ≤ 1) :
    ∃ out, claimAll claimed records = .ok out := by
  fun_induction claimAll claimed records with
  | case1 claimed => exact ⟨claimed, rfl⟩
  | case2 claimed r rs ih =>
    rw [List.forall_mem_cons] at hrs
    simp only [List.flatMap_cons, List.count_append] at hle
    obtain ⟨next, hc⟩ := claim_of_count_le hrs.1 fun k => by have := hle k; omega
    obtain ⟨hsize, -, hheld⟩ := claim_ok hc
    rw [hc]
    refine ih next ?_ fun k => ?_
    · rw [hsize]
      exact hrs.2
    · rw [hheld k, Nat.add_assoc]
      exact hle k

theorem orphans_eq_nil_iff (claimed : Array Bool) :
    orphans claimed = [] ↔ ∀ k, 0 < k → k < claimed.size → held claimed k = 1 := by
  have hget : ∀ k (hk : k < claimed.size), held claimed k = if claimed[k] then 1 else 0 := by
    intro k hk
    rw [held, Array.getD_eq_getD_getElem?, Array.getElem?_eq_getElem hk, Option.getD_some]
  rw [orphans, List.filterMap_eq_nil_iff]
  constructor
  · intro h k hpos hk
    have hmem : (claimed[k], k) ∈ claimed.toList.zipIdx.drop 1 := by
      refine List.mem_iff_getElem?.mpr ⟨k - 1, ?_⟩
      rw [List.getElem?_drop, show 1 + (k - 1) = k by omega, List.getElem?_zipIdx]
      simp [hk]
    have hheld := h _ hmem
    rw [hget k hk]
    cases hv : claimed[k] <;> simp_all
  · rintro h ⟨has, i⟩ hmem
    obtain ⟨j, hj⟩ := List.mem_iff_getElem?.mp hmem
    rw [List.getElem?_drop, List.getElem?_zipIdx, Option.map_eq_some_iff] at hj
    obtain ⟨v, hv, heq⟩ := hj
    obtain ⟨rfl, rfl⟩ := Prod.mk.inj heq
    obtain ⟨hlt, hval⟩ := List.getElem?_eq_some_iff.mp hv
    have hk : 1 + j < claimed.size := by simpa using hlt
    have hone := h (1 + j) (by omega) hk
    rw [hget _ hk, show claimed[1 + j] = v from hval] at hone
    cases v <;> simp_all

/-! ## All checks -/

/-- The checks pass, with the given marks left by the pass over the
children. -/
def Passes (records : List Record) (claimed : Array Bool) : Prop :=
  records ≠ [] ∧ checkLabels 0 records = .ok () ∧
    claimAll (Array.replicate records.length false) records = .ok claimed ∧ orphans claimed = []

theorem checks_pass_iff (records : List Record) :
    (∃ claimed, Passes records claimed) ↔ WellNumbered records ∧ Writable records := by
  constructor
  · rintro ⟨claimed, hne, hlabels, hall, horph⟩
    obtain ⟨hnum, hvalues⟩ := (checkLabels_ok_iff records 0).mp hlabels
    obtain ⟨hsize, hchildren, hheld⟩ := claimAll_ok hall
    rw [Array.size_replicate] at hsize hchildren
    refine ⟨⟨hne, fun i r hr => ?_, hchildren, fun k hpos hk => ?_⟩, hvalues⟩
    · rw [hnum i r hr, Nat.zero_add]
    · have hone := (orphans_eq_nil_iff claimed).mp horph k hpos (by omega)
      rw [hheld k, held_replicate, Nat.zero_add] at hone
      exact hone
  · rintro ⟨hw, hvalues⟩
    have hnever : ∀ k : Nat, k = 0 ∨ records.length ≤ k →
        (records.flatMap (·.children)).count (k : Int) = 0 := by
      intro k hk
      refine List.count_eq_zero.mpr fun hmem => ?_
      obtain ⟨r, hr, hc⟩ := List.mem_flatMap.mp hmem
      have := hw.children_later r hr _ hc
      omega
    have hle : ∀ k : Nat, held (Array.replicate records.length false) k
        + (records.flatMap (·.children)).count (k : Int) ≤ 1 := by
      intro k
      rw [held_replicate, Nat.zero_add]
      by_cases hk : k = 0 ∨ records.length ≤ k
      · exact Nat.le_trans (Nat.le_of_eq (hnever k hk)) (Nat.zero_le 1)
      · exact Nat.le_of_eq (hw.listed_once k (by omega) (by omega))
    have hlater : ∀ r ∈ records, ∀ c ∈ r.children,
        (r.id : Int) < c ∧ c < (Array.replicate records.length false).size := by
      rw [Array.size_replicate]
      exact hw.children_later
    obtain ⟨claimed, hall⟩ := claimAll_of_count_le hlater hle
    obtain ⟨hsize, -, hheld⟩ := claimAll_ok hall
    rw [Array.size_replicate] at hsize
    refine ⟨claimed, hw.nonempty, ?_, hall, ?_⟩
    · refine (checkLabels_ok_iff records 0).mpr ⟨fun i r hr => ?_, hvalues⟩
      rw [hw.numbered i r hr, Nat.zero_add]
    · refine (orphans_eq_nil_iff claimed).mpr fun k hpos hk => ?_
      rw [hheld k, held_replicate, Nat.zero_add]
      exact hw.listed_once k hpos (by omega)

theorem rebuild_eq_ok_iff {records : List Record} {t : Tree Label} :
    rebuild records = .ok t ↔
      ∃ claimed, Passes records claimed ∧ (subtrees records.length records).back? = some t := by
  unfold rebuild Passes
  cases records with
  | nil => simp [throw, throwThe, MonadExceptOf.throw, bind, Except.bind]
  | cons r rs =>
    cases hlabels : checkLabels 0 (r :: rs) with
    | error e => simp [bind, Except.bind]
    | ok u =>
      cases hall : claimAll (Array.replicate (r :: rs).length false) (r :: rs) with
      | error e => simp [bind, Except.bind]
      | ok claimed =>
        cases horph : orphans claimed with
        | nil =>
          cases hback : (subtrees (r :: rs).length (r :: rs)).back? with
          | none => simp [bind, Except.bind, throw, throwThe, MonadExceptOf.throw, horph]
          | some t => simp [bind, Except.bind, pure, Except.pure, horph]
        | cons k ks => simp [bind, Except.bind, throw, throwThe, MonadExceptOf.throw, horph]

/-! ## The tree -/

/-- Children whose trees are all found are the roots of trees. -/
theorem exists_forest {found : Int → Option (Tree Label)} {D : Tree Nat → Prop}
    {label : Nat → Label} : ∀ cs : List Int,
    (∀ c ∈ cs, ∃ u : Tree Nat, (u.label : Int) = c ∧ D u ∧ found c = some (u.map label)) →
    ∃ us, roots us = cs ∧ (∀ u ∈ us, D u) ∧ cs.filterMap found = us.map (Tree.map label)
  | [], _ => ⟨[], rfl, by simp, rfl⟩
  | c :: cs, h => by
      rw [List.forall_mem_cons] at h
      obtain ⟨⟨u, hu, hD, hfound⟩, h⟩ := h
      obtain ⟨us, hus, hDs, hmap⟩ := exists_forest cs h
      refine ⟨u :: us, ?_, List.forall_mem_cons.mpr ⟨hD, hDs⟩, ?_⟩
      · rw [← hus, ← hu]
        rfl
      · rw [List.filterMap_cons_some hfound, hmap, List.map_cons]

theorem size_subtrees (n : Nat) (records : List Record) :
    (subtrees n records).size = records.length := by
  induction records with
  | nil => rfl
  | cons r rs ih =>
    rw [subtrees, List.foldr_cons, Array.size_push, ← subtrees, ih, List.length_cons]

theorem subtrees_cons (n : Nat) (r : Record) (rs : List Record) :
    subtrees n (r :: rs) = (subtrees n rs).push
      (.node r.label (r.children.filterMap fun c => (subtrees n rs)[n - 1 - c.toNat]?)) := rfl

/-- What is built from the last records on: for every number, the image of the
tree of numbers below it. -/
theorem getElem?_subtrees {records : List Record} (hw : WellNumbered records) :
    ∀ suffix front : List Record, records = front ++ suffix →
      ∀ i, front.length ≤ i → i < records.length →
        ∃ u, u.label = i ∧ Describes records u ∧
          (subtrees records.length suffix)[records.length - 1 - i]?
            = some (u.map (labelAt records))
  | [], front, hrec, i, hlo, hhi => by
      rw [List.append_nil] at hrec
      rw [hrec] at hhi
      omega
  | r :: rs, front, hrec, i, hlo, hhi => by
      have hlen : records.length = front.length + (rs.length + 1) := by
        rw [hrec, List.length_append, List.length_cons]
      have ih := getElem?_subtrees hw rs (front ++ [r]) (by rw [hrec]; simp)
      rw [List.length_append, List.length_singleton] at ih
      have hr : records[front.length]? = some r := by rw [hrec]; simp
      have hid : r.id = front.length := hw.numbered _ r hr
      rw [subtrees_cons, Array.getElem?_push, size_subtrees]
      rcases Nat.lt_or_eq_of_le hlo with hlt | rfl
      · rw [if_neg (by omega)]
        exact ih i (by omega) hhi
      · -- the children come later, so that their trees are there
        have hchildren : ∀ c ∈ r.children, ∃ u : Tree Nat, (u.label : Int) = c ∧
            Describes records u ∧
            (subtrees records.length rs)[records.length - 1 - c.toNat]?
              = some (u.map (labelAt records)) := by
          intro c hc
          have hrange := hw.children_later r (List.mem_of_getElem? hr) c hc
          obtain ⟨u, hu, hD, hfound⟩ := ih c.toNat (by omega) (by omega)
          exact ⟨u, by omega, hD, hfound⟩
        obtain ⟨us, hus, hD, hmap⟩ := exists_forest r.children hchildren
        refine ⟨.node front.length us, rfl, describes_node.mpr ⟨⟨r, hr, hus.symm⟩, hD⟩, ?_⟩
        rw [if_pos (by omega), hmap, Tree.map_node, labelAt_of_getElem? hr]

/-- The tree of well-numbered records: the image of the tree of numbers that
they describe below the first record. -/
theorem rebuild_of_wellNumbered {records : List Record} (hw : WellNumbered records)
    (hvalues : Writable records) :
    ∃ u, u.label = 0 ∧ Describes records u ∧
      rebuild records = .ok (u.map (labelAt records)) := by
  have hpos : 0 < records.length := List.length_pos_iff.mpr hw.nonempty
  obtain ⟨claimed, hpass⟩ := (checks_pass_iff records).mpr ⟨hw, hvalues⟩
  obtain ⟨u, hu, hD, hget⟩ := getElem?_subtrees hw records [] rfl 0 (Nat.le_refl _) hpos
  refine ⟨u, hu, hD, rebuild_eq_ok_iff.mpr ⟨claimed, hpass, ?_⟩⟩
  rw [Array.back?, size_subtrees, ← hget, Nat.sub_zero]

theorem of_rebuild {records : List Record} {t : Tree Label}
    (h : rebuild records = .ok t) : WellNumbered records ∧ Writable records := by
  obtain ⟨claimed, hpass, -⟩ := rebuild_eq_ok_iff.mp h
  exact (checks_pass_iff records).mp ⟨claimed, hpass⟩

end Rebuild

open Rebuild (Writable)

/-- Records can be rebuilt exactly if they are well numbered and their values can be
written, and are refused otherwise. The tree that they give has as many nodes as there
are records: it is the image of a tree of their numbers in which every number stands
exactly once, the first one at the root, and in which every node has the children that
its record lists, in order. -/
theorem rebuild_iff_wellNumbered_writable (records : List Record) :
    ((∃ t, rebuild records = .ok t) ↔ WellNumbered records ∧ Writable records) ∧
    ((∃ e, rebuild records = .error e) ↔ ¬ (WellNumbered records ∧ Writable records)) ∧
    ∀ t, rebuild records = .ok t → t.size = records.length ∧
      ∃ u : Tree Nat, t = u.map (labelAt records) ∧ u.label = 0 ∧
        u.labels.Perm (List.range records.length) ∧ Describes records u := by
  have hiff : (∃ t, rebuild records = .ok t) ↔ WellNumbered records ∧ Writable records := by
    refine ⟨fun ⟨t, ht⟩ => Rebuild.of_rebuild ht, fun ⟨hw, hvalues⟩ => ?_⟩
    obtain ⟨u, -, -, hu⟩ := Rebuild.rebuild_of_wellNumbered hw hvalues
    exact ⟨_, hu⟩
  refine ⟨hiff, ?_, fun t ht => ?_⟩
  · rw [← hiff]
    cases rebuild records <;> simp
  · obtain ⟨hw, hvalues⟩ := Rebuild.of_rebuild ht
    obtain ⟨u, hroot, hD, hu⟩ := Rebuild.rebuild_of_wellNumbered hw hvalues
    obtain rfl : t = u.map (labelAt records) := Except.ok.inj (ht.symm.trans hu)
    have hperm := hw.labels_perm_range hD hroot
    refine ⟨?_, u, rfl, hroot, hperm, hD⟩
    rw [Tree.size_map, ← Tree.length_labels, hperm.length_eq, List.length_range]

/-- Records numbered level by level are rebuilt, too. -/
example :
    rebuild [⟨0, "sum", .null, [2, 1]⟩, ⟨1, "term", .int 7, [3]⟩, ⟨2, "term", .text "", []⟩,
        ⟨3, "leaf", .bool true, []⟩]
      = .ok (.node ⟨"sum", .null⟩ [.node ⟨"term", .text ""⟩ [],
          .node ⟨"term", .text "7"⟩ [.node ⟨"leaf", .text "True"⟩ []]]) :=
  rfl

/-- A single record is well numbered if its number is zero and it has no children. -/
theorem wellNumbered_leaf (type : String) (value : Scalar) :
    WellNumbered [⟨0, type, value, []⟩] where
  nonempty := List.cons_ne_nil _ _
  numbered i r h := by
    cases i with
    | zero =>
      obtain rfl := Option.some.inj h
      rfl
    | succ i => cases h
  children_later r hr c hc := by
    obtain rfl := List.mem_singleton.mp hr
    cases hc
  listed_once k hpos hk := by
    rw [List.length_singleton] at hk
    omega

/-- A one with as many zeros as there may be digits is too long. -/
theorem isWritable_pow {n : Nat} (h : maxWrittenDigits ≤ n) :
    (Scalar.int (10 ^ n)).isWritable = false := by
  rw [Scalar.isWritable, isWritable, decide_eq_false_iff_not,
    Nat.length_toDigits_le_iff (by omega) (by decide), Int.natAbs_pow, Nat.not_lt]
  exact Nat.pow_le_pow_right (by decide) h

/-- A number of 5001 digits stands in the way, however well the records are numbered. -/
theorem not_rebuild_iff_wellNumbered_longValue :
    ¬ ((∃ t, rebuild [⟨0, "t", .int (10 ^ 5000), []⟩] = .ok t) ↔
      WellNumbered [⟨0, "t", .int (10 ^ 5000), []⟩]) := by
  intro h
  obtain ⟨t, ht⟩ := h.mpr (wellNumbered_leaf "t" (.int (10 ^ 5000)))
  have hlong : (Scalar.int (10 ^ 5000)).isWritable = false := isWritable_pow (by decide)
  obtain ⟨-, hvalues⟩ := Rebuild.of_rebuild ht
  rw [Writable, List.forall_mem_singleton, hlong] at hvalues
  cases hvalues

end SyntaxCorpus
