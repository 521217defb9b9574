/-
SyntaxCorpus.Proofs.Grammar.Extras — what comments do to a syntax tree.

An extra, such as a comment, is no part of the syntax tree, and neither is what
is below it. Its node is still one of the children that the value of its parent
is worked out from, so it may show there.

* `withoutExtras` — a concrete tree with its extras taken out, the root apart.
* `HidesExtras` — what it takes for the value of a node not to show its extras.
* `map_type_normalise_withoutExtras` — extras never change the shape of the
  syntax tree or the type of a node.
* `value_withoutExtras` — nor a value, where they are hidden.
* `normalise_withoutExtras` — so the syntax tree is the same without extras,
  exactly if no value shows them.
-/
import SyntaxCorpus.Proofs.Grammar.Answer
import SyntaxCorpus.Proofs.Grammar.Normalise

namespace SyntaxCorpus.Cst

open SyntaxCorpus.Tree (Reaches)

/-! ## Trees without extras -/

mutual
/-- The tree without the extras below its root; what is below an extra goes with
it. Everything else stays as it is, and in its order. -/
def withoutExtras : Cst → Cst
  | .node n ts => .node n (withoutExtrasForest ts)

/-- The trees of a list that are no extras, without the extras below them. -/
def withoutExtrasForest : List Cst → List Cst
  | [] => []
  | t :: ts =>
    if t.label.isExtra then withoutExtrasForest ts
    else withoutExtras t :: withoutExtrasForest ts
end

@[simp] theorem label_withoutExtras (t : Cst) : t.withoutExtras.label = t.label := by
  cases t with
  | node n ts => rw [withoutExtras, Tree.label, Tree.label]

/-- The trees that stay are those that are no extras. -/
theorem withoutExtrasForest_eq (ts : List Cst) :
    withoutExtrasForest ts = (ts.filter (!·.label.isExtra)).map withoutExtras := by
  induction ts with
  | nil => rfl
  | cons t ts ih =>
    rw [withoutExtrasForest, ih]
    cases hextra : t.label.isExtra with
    | true => simp [hextra]
    | false => simp [hextra]

theorem children_withoutExtras (t : Cst) :
    t.withoutExtras.children = (t.children.filter (!·.label.isExtra)).map withoutExtras := by
  cases t with
  | node n ts => rw [withoutExtras, Tree.children, Tree.children, withoutExtrasForest_eq]

theorem isKept_withoutExtras (t : Cst) :
    isKept t.withoutExtras.label = isKept t.label := by
  rw [label_withoutExtras]

/-- What is taken out is not kept anyway. -/
theorem isKept_of_isExtra {n : CstNode} (h : n.isExtra = true) : isKept n = false := by
  simp [isKept, h]

/-! ## Values -/

/-- What it takes for the value of a node not to show its extras: where a child
is named, one of the named children is no extra, and the first anonymous child
in a field is none. -/
structure HidesExtras (t : Cst) : Prop where
  named : (∃ c ∈ t.children, c.label.isNamed = true) → ∃ c ∈ t.children, IsKept c
  token : ∀ c, (∃ d ∈ t.children, d.label.isNamed = true) →
    FirstIn (isFieldToken ·.label = true) t.children c → c.label.isExtra = false

/-- The first element with a property stays the first one when others are left
out. -/
theorem find?_filter_eq {α : Type} {p keep : α → Bool} {xs : List α}
    (h : ∀ x, xs.find? p = some x → keep x = true) : (xs.filter keep).find? p = xs.find? p := by
  cases hfind : xs.find? p with
  | none =>
    rw [List.find?_eq_none] at hfind ⊢
    exact fun x hx => hfind x (List.mem_of_mem_filter hx)
  | some x =>
    obtain ⟨hp, before, after, rfl, hbefore⟩ := List.find?_eq_some_iff_append.mp hfind
    refine List.find?_eq_some_iff_append.mpr
      ⟨hp, before.filter keep, after.filter keep, ?_, fun y hy => ?_⟩
    · rw [List.filter_append, List.filter_cons_of_pos (h x hfind)]
    · exact hbefore y (List.mem_of_mem_filter hy)

/-- The value of a node without extras is looked for among the children that
stay. -/
theorem valueNode?_withoutExtras_eq (t : Cst) :
    valueNode? t.withoutExtras =
      if (t.children.filter (!·.label.isExtra)).all (!·.label.isNamed) then some t.label
      else ((t.children.filter (!·.label.isExtra)).find? (isFieldToken ·.label)).map
        Tree.label := by
  rw [valueNode?, children_withoutExtras, List.all_map, List.find?_map, Option.map_map]
  simp only [Function.comp_def, label_withoutExtras]

/-- Where extras are hidden, the value of a node comes from the same node
without them. -/
theorem valueNode?_withoutExtras {t : Cst} (h : HidesExtras t) :
    valueNode? t.withoutExtras = valueNode? t := by
  rw [valueNode?_withoutExtras_eq, valueNode?]
  by_cases hnamed : ∃ c ∈ t.children, c.label.isNamed = true
  · obtain ⟨c, hc, hcnamed, hcextra⟩ := h.named hnamed
    have hall : t.children.all (!·.label.isNamed) = false := by
      rw [List.all_eq_false]
      obtain ⟨d, hd, hdnamed⟩ := hnamed
      exact ⟨d, hd, by simp [hdnamed]⟩
    have hkept : (t.children.filter (!·.label.isExtra)).all (!·.label.isNamed) = false := by
      rw [List.all_eq_false]
      exact ⟨c, List.mem_filter.mpr ⟨hc, by simp [hcextra]⟩, by simp [hcnamed]⟩
    have htoken : (t.children.filter (!·.label.isExtra)).find? (isFieldToken ·.label)
        = t.children.find? (isFieldToken ·.label) := by
      refine find?_filter_eq fun x hx => ?_
      rw [Bool.not_eq_true']
      exact h.token x hnamed ((firstIn_iff fun _ => Iff.rfl).mpr hx)
    rw [hall, hkept, htoken]
  · have hall : t.children.all (!·.label.isNamed) = true := by simpa using hnamed
    have hkept : (t.children.filter (!·.label.isExtra)).all (!·.label.isNamed) = true := by
      rw [List.all_eq_true] at hall ⊢
      exact fun c hc => hall c (List.mem_of_mem_filter hc)
    rw [hall, hkept, if_pos rfl, if_pos rfl]

/-- So the value is the same, too. -/
theorem value_withoutExtras (source : ByteArray) {t : Cst} (h : HidesExtras t) :
    value source t.withoutExtras = value source t := by
  rw [value_eq, value_eq, valueNode?_withoutExtras h]

/-! ## The syntax tree -/

/-- The nodes below a child are nodes below its parent. -/
theorem Reaches.below {α : Type} {p : α → Bool} {t c u : Tree α} {i : Nat} {a : List Nat}
    (hc : t.children[i]? = some c) (hp : p c.label = true) (h : Reaches p c a u) :
    Reaches p t (i :: a) u := by
  induction h with
  | root => exact .child .root hc hp
  | child _ hd hq ih => exact .child ih hd hq

mutual
/-- What the syntax tree says of its nodes is the same without extras, if it is
the same for each node that is kept. -/
theorem map_normalise_withoutExtras {β : Type} (f : Label → β) (source : ByteArray) : ∀ t : Cst,
    (∀ a n, Reaches isKept t a n → f (labelOf source (withoutExtras n)) = f (labelOf source n)) →
    (normalise source t.withoutExtras).map f = (normalise source t).map f
  | .node n ts, h => by
      have hroot : f (labelOf source (.node n (withoutExtrasForest ts)))
          = f (labelOf source (.node n ts)) := h [] _ .root
      have hkept := map_normaliseKept_withoutExtras f source ts fun i c hc hp a u hu =>
        h (i :: a) u (Reaches.below hc hp hu)
      rw [withoutExtras, normalise_node, normalise_node, Tree.map_node, Tree.map_node, hroot, hkept]

theorem map_normaliseKept_withoutExtras {β : Type} (f : Label → β) (source : ByteArray) :
    ∀ ts : List Cst, (∀ (i : Nat) c, ts[i]? = some c → isKept c.label = true →
      ∀ a n, Reaches isKept c a n →
        f (labelOf source (withoutExtras n)) = f (labelOf source n)) →
    (normaliseKept source (withoutExtrasForest ts)).map (Tree.map f)
      = (normaliseKept source ts).map (Tree.map f)
  | [], _ => rfl
  | t :: ts, h => by
      have hrest := map_normaliseKept_withoutExtras f source ts fun i c hc =>
        h (i + 1) c (by rwa [List.getElem?_cons_succ])
      rw [withoutExtrasForest]
      cases hextra : t.label.isExtra with
      | true =>
        rw [if_pos rfl, hrest, normaliseKept_cons, isKept_of_isExtra hextra,
          if_neg Bool.false_ne_true]
      | false =>
        rw [if_neg Bool.false_ne_true, normaliseKept_cons, normaliseKept_cons, isKept_withoutExtras]
        split
        · rename_i hkept
          rw [List.map_cons, List.map_cons, hrest,
            map_normalise_withoutExtras f source t (h 0 t rfl hkept)]
        · exact hrest
end

/-- Extras never change the shape of the syntax tree, nor the type of a node. -/
theorem map_type_normalise_withoutExtras (source : ByteArray) (t : Cst) :
    (normalise source t.withoutExtras).map Label.type = (normalise source t).map Label.type :=
  map_normalise_withoutExtras Label.type source t fun _ n _ => by
    rw [labelOf, labelOf, label_withoutExtras]

theorem normaliseKept_withoutExtras_eq_map (source : ByteArray) (ts : List Cst) :
    normaliseKept source (withoutExtrasForest ts)
      = (ts.filter (isKept ·.label)).map fun t => normalise source t.withoutExtras := by
  have hkept : ∀ t : Cst, (isKept t.label && !t.label.isExtra) = isKept t.label := by
    intro t
    simp [isKept]
  rw [normaliseKept, withoutExtrasForest_eq, List.filter_map, List.filter_filter,
    List.map_map]
  simp only [Function.comp_def, label_withoutExtras, hkept]

/-- If the syntax tree is the same without extras, so is that of each node that
is kept. -/
theorem normalise_withoutExtras_of_reaches {source : ByteArray} {t n : Cst} {a : List Nat}
    (h : normalise source t.withoutExtras = normalise source t) (hn : Reaches isKept t a n) :
    normalise source (withoutExtras n) = normalise source n := by
  induction hn with
  | root => exact h
  | @child a u i c _ hc hkept ih =>
    cases u with
    | node m us =>
      rw [withoutExtras, normalise_node, normalise_node, Tree.node.injEq,
        normaliseKept_withoutExtras_eq_map, normaliseKept, List.map_inj_left] at ih
      exact ih.2 c (List.mem_filter.mpr ⟨List.mem_of_getElem? hc, hkept⟩)

theorem label_normalise (source : ByteArray) (t : Cst) :
    (normalise source t).label = labelOf source t := by
  cases t with
  | node n ts => rw [normalise_node, Tree.label]

/-- **Extras do not show in the shape of a syntax tree or in a type.** They do
not show at all exactly if no value of a kept node shows them, and a value does
not where extras are hidden. -/
theorem normalise_withoutExtras (source : ByteArray) (root : Cst) :
    (normalise source root.withoutExtras).map Label.type
        = (normalise source root).map Label.type ∧
      (normalise source root.withoutExtras = normalise source root ↔
        ∀ a n, Reaches isKept root a n → value source (withoutExtras n) = value source n) ∧
      ∀ n : Cst, HidesExtras n → value source (withoutExtras n) = value source n := by
  refine ⟨map_type_normalise_withoutExtras source root, ⟨fun h a n hn => ?_, fun h => ?_⟩,
    fun n hn => value_withoutExtras source hn⟩
  · have hlabel := congrArg Tree.label (normalise_withoutExtras_of_reaches h hn)
    rw [label_normalise, label_normalise, labelOf, labelOf, Label.mk.injEq] at hlabel
    exact hlabel.2
  · have hmap := map_normalise_withoutExtras id source root fun a n hn => by
      rw [id, id, labelOf, labelOf, label_withoutExtras, h a n hn]
    rwa [Tree.map_id, Tree.map_id] at hmap

/-! ## Comments in a sum and in a call -/

/-- The sum in the source `1 # c⏎ + 2`. -/
def commentedSum : Cst :=
  .node { type := "binary_operator", isNamed := true, span := some ⟨0, 10⟩ }
    [.node { type := "integer", isNamed := true, field := some "left", span := some ⟨0, 1⟩ } [],
      .node { type := "comment", isNamed := true, isExtra := true, span := some ⟨2, 5⟩ } [],
      .node { type := "+", isNamed := false, field := some "operator", span := some ⟨7, 8⟩ } [],
      .node { type := "integer", isNamed := true, field := some "right", span := some ⟨9, 10⟩ } []]

theorem hidesExtras_commentedSum : HidesExtras commentedSum where
  named := fun _ => ⟨_, List.mem_cons_self .., rfl, rfl⟩
  token := by
    intro c _ hc
    have hfind : commentedSum.children.find? (isFieldToken ·.label) = some c :=
      (firstIn_iff fun _ => Iff.rfl).mp hc
    cases hfind
    rfl

/-- Between operands a comment is hidden, and the operator is the value. -/
theorem normalise_withoutExtras_sum :
    HidesExtras commentedSum ∧ value "1 # c\n + 2".toUTF8 commentedSum.withoutExtras
      = value "1 # c\n + 2".toUTF8 commentedSum :=
  ⟨hidesExtras_commentedSum,
    (normalise_withoutExtras _ commentedSum).2.2 _ hidesExtras_commentedSum⟩

/-- The arguments in the source `f(# c⏎)`. The comment is a named child, and an
extra. -/
def commentedArguments : Cst :=
  .node { type := "argument_list", isNamed := true, span := some ⟨1, 7⟩ }
    [.node { type := "(", isNamed := false, span := some ⟨1, 2⟩ } [],
      .node { type := "comment", isNamed := true, isExtra := true, span := some ⟨2, 5⟩ } [],
      .node { type := ")", isNamed := false, span := some ⟨6, 7⟩ } []]

/-- A comment that is the only named child takes the value of its parent
away. -/
theorem not_normalise_withoutExtras :
    ¬ ∀ source root, normalise source (withoutExtras root) = normalise source root := by
  intro h
  have hlabel := congrArg Tree.label (h "f(# c\n)".toUTF8 commentedArguments)
  rw [label_normalise, label_normalise] at hlabel
  have hvalue : value "f(# c\n)".toUTF8 commentedArguments.withoutExtras
      = value "f(# c\n)".toUTF8 commentedArguments := congrArg Label.value hlabel
  have hshown : value "f(# c\n)".toUTF8 commentedArguments = .null := rfl
  have htext : value "f(# c\n)".toUTF8 commentedArguments.withoutExtras
      = .text (text "f(# c\n)".toUTF8 commentedArguments.label) := rfl
  rw [htext, hshown] at hvalue
  cases hvalue

end SyntaxCorpus.Cst
