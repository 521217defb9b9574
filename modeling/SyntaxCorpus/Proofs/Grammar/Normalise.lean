/-
SyntaxCorpus.Proofs.Grammar.Normalise — the records of a concrete tree.

The syntax tree of a concrete tree keeps its root and, below a node that is
kept, the named children that are no extras. Nodes are told apart by their
addresses, so that nothing is said of a node that only looks like another one.

* `HasValue` — the rule for the value of a node; `hasValue_value`: values follow
  it.
* `valueNode?` — the node whose text is the value of another one; `value_eq`.
* `normalise_eq` — the syntax tree has the shape of the nodes that are entered
  by way of kept children.
* `Enumerates` — records list nodes of a concrete tree: in document order, each
  with its type and value and below the record of its parent.
* `enumerates_flatten_normalise` — the records of a syntax tree list the nodes
  that are reached by way of kept children, all of them and no others.
-/
import SyntaxCorpus.Proofs.Grammar.Convert
import SyntaxCorpus.Proofs.Record.Preorder
import SyntaxCorpus.Proofs.Tree.Address

namespace SyntaxCorpus.Cst

open SyntaxCorpus.Tree (Reaches at? childPlace entered enteredForest located)

/-! ## Values -/

/-- The value of a node: its text if no child is named, otherwise the text of
the first anonymous child that is in a field, otherwise nothing. A field with an
empty name is a field. -/
inductive HasValue (source : ByteArray) (t : Cst) : Scalar → Prop
  | leaf (h : ∀ c ∈ t.children, c.label.isNamed = false) :
      HasValue source t (.text (text source t.label))
  | token {before token after} (hnamed : ∃ c ∈ t.children, c.label.isNamed = true)
      (hsplit : t.children = before ++ token :: after)
      (hbefore : ∀ c ∈ before, c.label.isNamed = true ∨ c.label.field = none)
      (hanonymous : token.label.isNamed = false) (hfield : token.label.field ≠ none) :
      HasValue source t (.text (text source token.label))
  | absent (hnamed : ∃ c ∈ t.children, c.label.isNamed = true)
      (h : ∀ c ∈ t.children, c.label.isNamed = true ∨ c.label.field = none) :
      HasValue source t .null

theorem isFieldToken_iff {n : CstNode} :
    isFieldToken n = true ↔ n.isNamed = false ∧ n.field ≠ none := by
  simp [isFieldToken, Option.isSome_iff_ne_none]

theorem not_isFieldToken_iff {n : CstNode} :
    ¬ isFieldToken n = true ↔ n.isNamed = true ∨ n.field = none := by
  rw [isFieldToken_iff]
  cases n.isNamed <;> simp

/-- Values follow the rule. -/
theorem hasValue_value (source : ByteArray) (t : Cst) : HasValue source t (value source t) := by
  unfold value
  split
  · rename_i hleaf
    refine .leaf fun c hc => ?_
    simpa using List.all_eq_true.mp hleaf c hc
  · rename_i hleaf
    have hnamed : ∃ c ∈ t.children, c.label.isNamed = true := by simpa using hleaf
    split
    · rename_i token htoken
      obtain ⟨hkind, before, after, hsplit, hbefore⟩ := List.find?_eq_some_iff_append.mp htoken
      obtain ⟨hanonymous, hfield⟩ := isFieldToken_iff.mp hkind
      refine .token hnamed hsplit (fun c hc => ?_) hanonymous hfield
      exact not_isFieldToken_iff.mp (by simpa using hbefore c hc)
    · rename_i htoken
      refine .absent hnamed fun c hc => ?_
      exact not_isFieldToken_iff.mp (List.find?_eq_none.mp htoken c hc)

/-- The node whose text is the value of a node: the node itself if it has no
named children, and otherwise its first token that is in a field. -/
def valueNode? (t : Cst) : Option CstNode :=
  if t.children.all (!·.label.isNamed) then some t.label
  else (t.children.find? (isFieldToken ·.label)).map Tree.label

theorem value_eq (source : ByteArray) (t : Cst) :
    value source t = ((valueNode? t).map fun n => Scalar.text (text source n)).getD .null := by
  unfold value valueNode?
  split
  · rfl
  · cases t.children.find? (isFieldToken ·.label) with
    | none => rfl
    | some token => rfl

/-! ## The shape of the syntax tree -/

/-- The label of a node that is entered. -/
def enteredLabel (source : ByteArray) (l : List Nat × Cst) : Label := labelOf source l.2

mutual
/-- The syntax tree has the shape of the nodes that are entered by way of kept
children. -/
theorem normalise_eq (source : ByteArray) : ∀ (t : Cst) (here : List Nat),
    normalise source t = (entered isKept here t).map (enteredLabel source)
  | .node n ts, here => by
      rw [normalise_node, entered, Tree.map_node, normaliseKept_eq source ts here 0]
      rfl

theorem normaliseKept_eq (source : ByteArray) : ∀ (ts : List Cst) (here : List Nat) (i : Nat),
    normaliseKept source ts
      = (enteredForest isKept here i ts).map (Tree.map (enteredLabel source))
  | [], _, _ => rfl
  | t :: ts, here, i => by
      rw [normaliseKept_cons, enteredForest]
      split
      · rw [List.map_cons, normalise_eq source t (here ++ [i]),
          normaliseKept_eq source ts here (i + 1)]
      · exact normaliseKept_eq source ts here (i + 1)
end

/-! ## The records -/

/-- Records list nodes of a concrete tree, given with their addresses. -/
structure Enumerates (source : ByteArray) (root : Cst) (nodes : List (List Nat × Cst))
    (records : List Record) : Prop where
  /-- In document order, each node once. -/
  ordered : nodes.Pairwise fun l m => l.1 < m.1
  /-- The root, and what is reached from it by way of kept children. -/
  complete : ∀ a n, (a, n) ∈ nodes ↔ Reaches isKept root a n
  /-- Below the root, nothing on the way to a node is anonymous or extra. -/
  below : ∀ a n, (a, n) ∈ nodes → ∀ b v, b <+: a → b ≠ [] → root.at? b = some v →
    v.label.isNamed = true ∧ v.label.isExtra = false
  length : records.length = nodes.length
  record : ∀ k a n, nodes[k]? = some (a, n) → ∃ r : Record, records[k]? = some r ∧ r.id = k ∧
    r.type = n.label.type ∧ HasValue source n r.value
  first : nodes[0]? = some ([], root)
  orphan : ∀ j, ¬ Lists records j 0
  /-- A record is listed by that of the parent of its node, and by no other. -/
  parent : ∀ k a i n, nodes[k]? = some (a ++ [i], n) → ∃ j m, nodes[j]? = some (a, m) ∧
    m.children[i]? = some n ∧ ∀ l, Lists records l k ↔ l = j

section

variable {source : ByteArray} {root : Cst} {j k : Nat} {a b : List Nat} {m n : Cst}

/-- The nodes of the syntax tree of a concrete tree, with their addresses. -/
def keptNodes (root : Cst) : List (List Nat × Cst) := (entered isKept [] root).labels

theorem exists_of_getElem?_keptNodes (h : (keptNodes root)[k]? = some (a, n)) :
    ∃ v, (entered isKept [] root).preorder[k]? = some v ∧ v.label = (a, n) := by
  rw [keptNodes, Tree.labels, List.getElem?_map, Option.map_eq_some_iff] at h
  exact h

theorem getElem?_preorder_normalise {v : Tree (List Nat × Cst)} (source : ByteArray)
    (h : (entered isKept [] root).preorder[k]? = some v) :
    (normalise source root).preorder[k]? = some (v.map (enteredLabel source)) := by
  rw [normalise_eq source root [], Tree.preorder_map, List.getElem?_map, h, Option.map_some]

/-- Later nodes have greater addresses. -/
theorem keptNodes_lt (hjk : j < k) (hj : (keptNodes root)[j]? = some (a, m))
    (hk : (keptNodes root)[k]? = some (b, n)) : a < b := by
  obtain ⟨hj', hj⟩ := List.getElem?_eq_some_iff.mp hj
  obtain ⟨hk', hk⟩ := List.getElem?_eq_some_iff.mp hk
  have hless := List.pairwise_iff_getElem.mp (Tree.pairwise_entered isKept root []) j k hj' hk' hjk
  change (keptNodes root)[j].1 < (keptNodes root)[k].1 at hless
  rwa [hj, hk] at hless

/-- An address stands at one place only. -/
theorem keptNodes_inj (hj : (keptNodes root)[j]? = some (a, m))
    (hk : (keptNodes root)[k]? = some (a, n)) : j = k := by
  rcases Nat.lt_trichotomy j k with hlt | heq | hlt
  · exact absurd (keptNodes_lt hlt hj hk) (List.lt_irrefl a)
  · exact heq
  · exact absurd (keptNodes_lt hlt hk hj) (List.lt_irrefl a)

theorem length_flatten_normalise (source : ByteArray) (root : Cst) :
    (flatten (normalise source root)).length = (keptNodes root).length := by
  rw [length_flatten, normalise_eq source root [], Tree.size_map, keptNodes, Tree.length_labels]

/-- A record lists nodes whose addresses go one place further. -/
theorem exists_of_lists (hj : (keptNodes root)[j]? = some (a, m))
    (hk : (keptNodes root)[k]? = some (b, n))
    (hlists : Lists (flatten (normalise source root)) j k) : ∃ i, b = a ++ [i] := by
  obtain ⟨v, hv, hvl⟩ := exists_of_getElem?_keptNodes hj
  obtain ⟨w, hw, hwl⟩ := exists_of_getElem?_keptNodes hk
  obtain ⟨l, c, hc, rfl⟩ := (lists_iff (getElem?_preorder_normalise source hv)).mp hlists
  rw [Tree.children_map, List.getElem?_map, Option.map_eq_some_iff] at hc
  obtain ⟨x, hx, -⟩ := hc
  rw [Tree.childPlace_map, Tree.getElem?_preorder_child hv hx] at hw
  obtain rfl := Option.some.inj hw
  obtain ⟨i, d, -, -, hlabel⟩ :=
    Tree.label_child_entered (List.mem_of_getElem? hv) (List.mem_of_getElem? hx)
  rw [hwl, hvl, Prod.mk.injEq] at hlabel
  exact ⟨i, hlabel.1⟩

/-- Every record but the first is listed by another one. -/
theorem exists_lists (hpos : 0 < k) (hk : k < (keptNodes root).length) :
    ∃ l, Lists (flatten (normalise source root)) l k := by
  have hsize : k < 0 + (normalise source root).size := by
    rw [Nat.zero_add, ← length_flatten, length_flatten_normalise]
    exact hk
  have hroot : (normalise source root).preorder[0]? = some (normalise source root) := by
    cases normalise source root with
    | node l ts => rw [Tree.preorder_node, List.getElem?_cons_zero]
  have hreach := (reaches_iff hroot).mpr ⟨Nat.zero_le k, hsize⟩
  cases hreach with
  | refl => omega
  | @tail l _ _ hlists => exact ⟨l, hlists⟩

/-- A record that lists another one is that of a node. -/
theorem getElem?_keptNodes_of_lists (hlists : Lists (flatten (normalise source root)) j k) :
    ∃ a m, (keptNodes root)[j]? = some (a, m) := by
  have hj : j < (keptNodes root).length := by
    rw [← length_flatten_normalise source]
    exact lt_length_of_lists hlists
  exact ⟨_, _, List.getElem?_eq_getElem hj⟩

theorem getElem?_keptNodes_zero (root : Cst) : (keptNodes root)[0]? = some ([], root) := by
  rw [keptNodes, Tree.entered_eq, Tree.labels_node, List.getElem?_cons_zero]

/-- No record lists the first one. -/
theorem not_lists_zero (source : ByteArray) (root : Cst) (j : Nat) :
    ¬ Lists (flatten (normalise source root)) j 0 := by
  intro hlists
  obtain ⟨a, m, hj⟩ := getElem?_keptNodes_of_lists hlists
  obtain ⟨i, hi⟩ := exists_of_lists hj (getElem?_keptNodes_zero root) hlists
  simp at hi

/-- A record is listed by that of the parent of its node, and by no other. -/
theorem lists_iff_parent {i : Nat} (hj : (keptNodes root)[j]? = some (a, m))
    (hk : (keptNodes root)[k]? = some (a ++ [i], n)) (l : Nat) :
    Lists (flatten (normalise source root)) l k ↔ l = j := by
  have hunique : ∀ l, Lists (flatten (normalise source root)) l k → l = j := by
    intro l hlists
    obtain ⟨a', m', hl⟩ := getElem?_keptNodes_of_lists hlists
    obtain ⟨i', heq⟩ := exists_of_lists hl hk hlists
    obtain ⟨rfl, -⟩ := List.append_inj' heq rfl
    exact keptNodes_inj hl hj
  have hpos : 0 < k := by
    rw [Nat.pos_iff_ne_zero]
    rintro rfl
    rw [getElem?_keptNodes_zero] at hk
    simp at hk
  obtain ⟨l', hl'⟩ : ∃ l, Lists (flatten (normalise source root)) l k :=
    exists_lists hpos (List.getElem?_eq_some_iff.mp hk).1
  constructor
  · exact hunique l
  · rintro rfl
    rwa [← hunique l' hl']

end

/-- **The records of a concrete tree list its kept nodes.** -/
theorem enumerates_flatten_normalise (source : ByteArray) (root : Cst) :
    (∀ a n, (a, n) ∈ root.located ↔ root.at? a = some n) ∧
    (root.located.Pairwise fun l m => l.1 < m.1) ∧ root.located.map Prod.snd = root.preorder ∧
    ∃ nodes records, nodes.Sublist root.located ∧
      flattenRaw ((normalise source root).map Label.toRaw) = .ok records ∧
      Enumerates source root nodes records := by
  refine ⟨fun _ _ => Tree.mem_located, Tree.pairwise_entered _ root [],
    Tree.located_eq_preorder root, keptNodes root, flatten (normalise source root),
    Tree.entered_sublist isKept root [], flattenRaw_map_toRaw _, ?_⟩
  exact {
    ordered := Tree.pairwise_entered isKept root []
    complete := fun _ _ => Tree.mem_labels_entered
    below := by
      intro a n hmem b v hb hne hv
      have hkept := (Tree.mem_labels_entered.mp hmem).property hb hne hv
      simpa [isKept] using hkept
    length := length_flatten_normalise source root
    record := by
      intro k a n hk
      obtain ⟨v, hv, hlabel⟩ := exists_of_getElem?_keptNodes hk
      have hr := getElem?_flatten (normalise source root) k
      rw [getElem?_preorder_normalise source hv, Option.map_some] at hr
      have hl : (v.map (enteredLabel source)).label = labelOf source n := by
        rw [Tree.label_map, hlabel]
        rfl
      refine ⟨_, hr, rfl, ?_, ?_⟩
      · rw [recordAt, hl]
        rfl
      · rw [recordAt, hl]
        exact hasValue_value source n
    first := getElem?_keptNodes_zero root
    orphan := not_lists_zero source root
    parent := by
      intro k a i n hk
      have hreaches := Tree.mem_labels_entered.mp (List.mem_of_getElem? hk)
      obtain ⟨m, hm, hn⟩ := hreaches.parent
      obtain ⟨j, hj⟩ := List.mem_iff_getElem?.mp (Tree.mem_labels_entered.mpr hm)
      exact ⟨j, m, hj, hn, lists_iff_parent hj hk⟩ }

end SyntaxCorpus.Cst
