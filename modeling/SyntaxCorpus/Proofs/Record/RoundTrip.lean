/-
SyntaxCorpus.Proofs.Record.RoundTrip — a tree is rebuilt from its records.

* `wellNumbered_flatten` — the records of a tree pass all checks.
* `rebuild_flatten` — what is rebuilt from the records of a tree is the tree,
  its values as text, if they can be written.
* `RawLabel.checked`, `flattenRaw_eq_ok_iff` — the trees of raw labels that have
  records, and which these are.
* `rebuild_flattenRaw` — with values that are text or absent, the tree comes
  back as it was.

The tree of numbers that the records of a tree describe is `numbersFrom 0`;
that it is the only one (`Describes.unique`) makes the rebuilt tree its image.
-/
import SyntaxCorpus.Proofs.Record.Flatten
import SyntaxCorpus.Proofs.Record.Rebuild
import SyntaxCorpus.Proofs.Validation.Check

namespace SyntaxCorpus

open SyntaxCorpus.Tree (forestNumbersFrom forestSize numbersFrom)

/-! ## The records of a tree describe its numbers -/

theorem cons_prefix_drop {α : Type} {x : α} {xs ys : List α} {i : Nat}
    (h : x :: xs <+: ys.drop i) : ys[i]? = some x ∧ xs <+: ys.drop (i + 1) := by
  obtain ⟨rest, hrest⟩ := h
  rw [List.cons_append] at hrest
  refine ⟨?_, rest, ?_⟩
  · rw [← List.head?_drop, ← hrest, List.head?_cons]
  · rw [← List.tail_drop, ← hrest, List.tail_cons]

theorem append_prefix_drop {α : Type} {xs ys zs : List α} {i : Nat}
    (h : xs ++ ys <+: zs.drop i) : xs <+: zs.drop i ∧ ys <+: zs.drop (i + xs.length) := by
  obtain ⟨rest, hrest⟩ := h
  rw [List.append_assoc] at hrest
  refine ⟨⟨_, hrest⟩, rest, ?_⟩
  rw [← List.drop_drop, ← hrest, List.drop_left]

mutual
theorem describes_numbersFrom {records : List Record} : ∀ (t : Tree Label) (start : Nat),
    recordsFrom start t <+: records.drop start → Describes records (numbersFrom start t)
  | .node l ts, start, h => by
      rw [recordsFrom] at h
      obtain ⟨hr, htail⟩ := cons_prefix_drop h
      exact describes_node.mpr ⟨⟨_, hr, rfl⟩, describes_forestNumbersFrom ts (start + 1) htail⟩

theorem describes_forestNumbersFrom {records : List Record} :
    ∀ (ts : List (Tree Label)) (start : Nat), forestRecordsFrom start ts <+: records.drop start →
      ∀ u ∈ forestNumbersFrom start ts, Describes records u
  | [], _, _, _, hu => by cases hu
  | t :: ts, start, h, u, hu => by
      rw [forestRecordsFrom] at h
      obtain ⟨hfirst, hrest⟩ := append_prefix_drop h
      rw [length_recordsFrom] at hrest
      rw [forestNumbersFrom, List.mem_cons] at hu
      rcases hu with rfl | hu
      · exact describes_numbersFrom t start hfirst
      · exact describes_forestNumbersFrom ts (start + t.size) hrest u hu
end

/-- A label with its value as text. -/
def Label.textual (l : Label) : Label := ⟨l.type, l.value.textual⟩

mutual
theorem map_labelAt_numbersFrom {records : List Record} : ∀ (t : Tree Label) (start : Nat),
    recordsFrom start t <+: records.drop start →
    (numbersFrom start t).map (labelAt records) = t.map Label.textual
  | .node l ts, start, h => by
      rw [recordsFrom] at h
      obtain ⟨hr, htail⟩ := cons_prefix_drop h
      rw [numbersFrom, Tree.map_node, Tree.map_node, labelAt_of_getElem? hr,
        map_labelAt_forestNumbersFrom ts (start + 1) htail]
      rfl

theorem map_labelAt_forestNumbersFrom {records : List Record} :
    ∀ (ts : List (Tree Label)) (start : Nat), forestRecordsFrom start ts <+: records.drop start →
      (forestNumbersFrom start ts).map (Tree.map (labelAt records))
        = ts.map (Tree.map Label.textual)
  | [], _, _ => rfl
  | t :: ts, start, h => by
      rw [forestRecordsFrom] at h
      obtain ⟨hfirst, hrest⟩ := append_prefix_drop h
      rw [length_recordsFrom] at hrest
      rw [forestNumbersFrom, List.map_cons, List.map_cons,
        map_labelAt_numbersFrom t start hfirst,
        map_labelAt_forestNumbersFrom ts (start + t.size) hrest]
end

theorem recordsFrom_prefix_flatten (t : Tree Label) :
    recordsFrom 0 t <+: (flatten t).drop 0 := by
  have heq : (flatten t).drop 0 = recordsFrom 0 t := by rw [List.drop_zero, flatten_eq]
  exact ⟨[], by rw [List.append_nil, heq]⟩

theorem describes_flatten (t : Tree Label) : Describes (flatten t) (numbersFrom 0 t) :=
  describes_numbersFrom t 0 (recordsFrom_prefix_flatten t)

theorem id_of_getElem?_flatten {t : Tree Label} {i : Nat} {r : Record}
    (h : (flatten t)[i]? = some r) : r.id = i := by
  have hid : ((flatten t).map (·.id))[i]? = some r.id := by rw [List.getElem?_map, h]; rfl
  rw [flatten_eq, ids_recordsFrom, List.getElem?_eq_some_iff] at hid
  obtain ⟨_, hid⟩ := hid
  rw [List.getElem_range'] at hid
  omega

theorem wellNumbered_flatten (t : Tree Label) : WellNumbered (flatten t) := by
  refine (describes_flatten t).wellNumbered (Tree.label_numbersFrom 0 t) ?_
    (fun i r h => id_of_getElem?_flatten h) ?_
  · rw [Tree.labels_numbersFrom, length_flatten, List.range_eq_range']
  · rw [length_flatten, flatten_eq]
    intro r hr c hc
    have := children_recordsFrom t 0 r hr c hc
    omega

theorem writable_flatten {t : Tree Label} (h : ∀ l ∈ t.labels, l.value.isWritable = true) :
    Rebuild.Writable (flatten t) :=
  fun _ hr => h _ (label_mem_of_mem_flatten hr)

/-- What is rebuilt from the records of a tree is the tree, its values as
text. -/
theorem rebuild_flatten {t : Tree Label} (h : ∀ l ∈ t.labels, l.value.isWritable = true) :
    rebuild (flatten t) = .ok (t.map Label.textual) := by
  obtain ⟨u, hroot, hu, hrebuild⟩ :=
    Rebuild.rebuild_of_wellNumbered (wellNumbered_flatten t) (writable_flatten h)
  have heq : u = numbersFrom 0 t :=
    Describes.unique u _ hu (describes_flatten t) (by rw [hroot, Tree.label_numbersFrom])
  rw [hrebuild, heq, map_labelAt_numbersFrom t 0 (recordsFrom_prefix_flatten t)]

/-! ## Trees as parsers offer them -/

/-- Whether the type of a raw label is text, and its value text or absent. -/
def RawLabel.isPlain (l : RawLabel) : Bool :=
  match l.type, l.value with
  | .text _, .null | .text _, .text _ => true
  | _, _ => false

/-- The label that a plain raw label stands for. -/
def RawLabel.toLabel (l : RawLabel) : Label :=
  match l.type, l.value with
  | .text type, .text value => ⟨type, .text value⟩
  | .text type, _ => ⟨type, .null⟩
  | _, _ => default

theorem RawLabel.toRaw_toLabel {l : RawLabel} (h : l.isPlain = true) : l.toLabel.toRaw = l := by
  obtain ⟨type, value⟩ := l
  cases type <;> cases value <;> simp [isPlain, toLabel, Label.toRaw, Scalar.toDatum] at h ⊢

theorem RawLabel.textual_toLabel {l : RawLabel} (h : l.isPlain = true) :
    l.toLabel.textual = l.toLabel := by
  obtain ⟨type, value⟩ := l
  cases type <;> cases value <;> simp [isPlain, toLabel, Label.textual, Scalar.textual] at h ⊢

theorem RawLabel.isWritable_toLabel (l : RawLabel) : l.toLabel.value.isWritable = true := by
  obtain ⟨type, value⟩ := l
  cases type <;> cases value <;> rfl

/-- A plain tree is the tree of its labels. -/
theorem map_toRaw_map_toLabel {raw : Tree RawLabel} (h : raw.all RawLabel.isPlain = true) :
    (raw.map RawLabel.toLabel).map Label.toRaw = raw := by
  have hall := (Tree.all_iff RawLabel.isPlain raw).mp h
  rw [Tree.map_map]
  calc raw.map (Label.toRaw ∘ RawLabel.toLabel)
      = raw.map id := Tree.map_congr raw fun l hl => RawLabel.toRaw_toLabel (hall l hl)
    _ = raw := Tree.map_id raw

mutual
theorem entriesFrom_map {α β : Type} (f : α → β) : ∀ (t : Tree α) (parent : Option Nat)
    (start : Nat), Tree.entriesFrom parent start (t.map f)
      = (Tree.entriesFrom parent start t).map fun e => (e.1, f e.2)
  | .node a ts, parent, start => by
      rw [Tree.map_node, Tree.entriesFrom, Tree.entriesFrom, List.map_cons,
        forestEntriesFrom_map f ts start (start + 1)]

theorem forestEntriesFrom_map {α β : Type} (f : α → β) : ∀ (ts : List (Tree α))
    (parent start : Nat), Tree.forestEntriesFrom parent start (ts.map (Tree.map f))
      = (Tree.forestEntriesFrom parent start ts).map fun e => (e.1, f e.2)
  | [], _, _ => rfl
  | t :: ts, parent, start => by
      rw [List.map_cons, Tree.forestEntriesFrom, Tree.forestEntriesFrom, List.map_append,
        entriesFrom_map f t (some parent) start, Tree.size_map,
        forestEntriesFrom_map f ts parent (start + t.size)]
end

/-- The label that a raw label passes its check as. -/
def RawLabel.checked (l : RawLabel) : Label := l.check.toOption.getD default

theorem RawLabel.checked_of_check {l : RawLabel} {label : Label} (h : l.check = .ok label) :
    l.checked = label := by
  rw [checked, h]
  rfl

/-- The entries of an outline are checked one by one. -/
theorem checkOutline_eq_ok_iff {entries : List (Tree.Entry RawLabel)}
    {checked : List (Tree.Entry Label)} :
    checkOutline entries = .ok checked ↔
      (∀ e ∈ entries, ∃ label, e.2.check = .ok label) ∧
        checked = entries.map fun e => (e.1, e.2.checked) := by
  have hentry : ∀ (e : Tree.Entry RawLabel) (e' : Tree.Entry Label),
      (e.2.check.map fun label => (e.1, label)) = .ok e' ↔
        (∃ label, e.2.check = .ok label) ∧ (e.1, e.2.checked) = e' := by
    intro e e'
    cases hcheck : e.2.check with
    | error ps => simp [Except.map]
    | ok label => simp [Except.map, RawLabel.checked_of_check hcheck]
  rw [checkOutline, mapM_eq_ok_iff]
  simp only [hentry]
  rw [List.forall₂_and_left, ← List.forall₂_map_left_iff (f := fun e : Tree.Entry RawLabel =>
    (e.1, e.2.checked)) (R := Eq), List.forall₂_eq_eq_eq]
  exact and_congr_right fun _ => eq_comm

/-- The trees with records are those whose labels all pass their checks. The records are
those of the tree of the checked labels. -/
theorem flattenRaw_eq_ok_iff {raw : Tree RawLabel} {records : List Record} :
    flattenRaw raw = .ok records ↔
      (∀ l ∈ raw.labels, ∃ label, l.check = .ok label) ∧
        records = flatten (raw.map RawLabel.checked) := by
  have houtline : (raw.map RawLabel.checked).outline
      = raw.outline.map fun e => (e.1, e.2.checked) := by
    rw [Tree.outline_eq, Tree.outline_eq, entriesFrom_map]
  have hlabels : (∀ l ∈ raw.labels, ∃ label, l.check = .ok label) ↔
      ∀ e ∈ raw.outline, ∃ label, e.2.check = .ok label := by
    rw [← Tree.labels_entriesFrom raw none 0, ← Tree.outline_eq, List.forall_mem_map]
  rw [hlabels, flattenRaw, flatten, houtline]
  constructor
  · intro h
    cases hchecked : checkOutline raw.outline with
    | error ps =>
      rw [hchecked] at h
      cases h
    | ok checked =>
      rw [hchecked] at h
      obtain ⟨hall, rfl⟩ := checkOutline_eq_ok_iff.mp hchecked
      exact ⟨hall, (Except.ok.inj h).symm⟩
  · rintro ⟨hall, rfl⟩
    rw [checkOutline_eq_ok_iff.mpr ⟨hall, rfl⟩]
    rfl

/-- A raw label stands for a label, if its type stands for a text and its value for a
scalar. -/
def RawLabel.StandsFor (l : RawLabel) (label : Label) : Prop :=
  Validation.StandsForText l.type label.type ∧ Validation.StandsForScalar l.value label.value

theorem RawLabel.check_eq_ok_iff {l : RawLabel} {label : Label} :
    l.check = .ok label ↔ l.StandsFor label := by
  have hmap : l.check = .ok label ↔
      Validation.both (Validation.at_ (.field "type") (Validation.string l.type))
        (Validation.at_ (.field "value") (Validation.scalar l.value))
          = .ok (label.type, label.value) := by
    rw [check]
    cases Validation.both (Validation.at_ (.field "type") (Validation.string l.type))
      (Validation.at_ (.field "value") (Validation.scalar l.value)) with
    | error ps => simp [Except.map]
    | ok parts =>
      obtain ⟨type, value⟩ := parts
      obtain ⟨type', value'⟩ := label
      simp [Except.map]
  rw [hmap, Validation.both_eq_ok_iff, Validation.at_eq_ok_iff, Validation.at_eq_ok_iff,
    Validation.string_eq_ok_iff, Validation.scalar_eq_ok_iff, StandsFor]

/-- The trees without records are those with a raw label that stands for none. -/
theorem flattenRaw_eq_error_iff {raw : Tree RawLabel} :
    (∃ ps, flattenRaw raw = .error ps) ↔ ∃ l ∈ raw.labels, ∀ label, ¬ l.StandsFor label := by
  constructor
  · rintro ⟨ps, hps⟩
    by_contra hall
    have hchecks : ∀ l ∈ raw.labels, ∃ label, l.check = .ok label := by
      intro l hl
      by_contra hnone
      exact hall ⟨l, hl, fun label h => hnone ⟨label, RawLabel.check_eq_ok_iff.mpr h⟩⟩
    cases (flattenRaw_eq_ok_iff.mpr ⟨hchecks, rfl⟩).symm.trans hps
  · rintro ⟨l, hl, hnone⟩
    cases hrecords : flattenRaw raw with
    | error ps => exact ⟨ps, rfl⟩
    | ok records =>
      obtain ⟨label, hlabel⟩ := (flattenRaw_eq_ok_iff.mp hrecords).1 l hl
      exact absurd (RawLabel.check_eq_ok_iff.mp hlabel) (hnone label)

/-- The records of the tree of labels are those of the raw tree. -/
theorem flattenRaw_map_toRaw (t : Tree Label) :
    flattenRaw (t.map Label.toRaw) = .ok (flatten t) := by
  refine flattenRaw_eq_ok_iff.mpr ⟨fun l hl => ?_, ?_⟩
  · rw [Tree.labels_map] at hl
    obtain ⟨label, -, rfl⟩ := List.mem_map.mp hl
    exact ⟨label, RawLabel.check_toRaw label⟩
  · have hchecked : (t.map Label.toRaw).map RawLabel.checked = t := by
      rw [Tree.map_map]
      calc t.map (RawLabel.checked ∘ Label.toRaw)
          = t.map id := Tree.map_congr t fun l _ =>
            RawLabel.checked_of_check (RawLabel.check_toRaw l)
        _ = t := Tree.map_id t
    rw [hchecked]

theorem flattenRaw_of_isPlain {raw : Tree RawLabel} (h : raw.all RawLabel.isPlain = true) :
    flattenRaw raw = .ok (flatten (raw.map RawLabel.toLabel)) := by
  rw [← flattenRaw_map_toRaw, map_toRaw_map_toLabel h]

/-- A tree whose types are text and whose values are text or absent has
records, and the tree that is rebuilt from them is the same tree. -/
theorem rebuild_flattenRaw (raw : Tree RawLabel) (h : raw.all RawLabel.isPlain = true) :
    ∃ records t, flattenRaw raw = .ok records ∧ rebuild records = .ok t ∧
      t.map Label.toRaw = raw := by
  have hall := (Tree.all_iff RawLabel.isPlain raw).mp h
  have hwritable : ∀ l ∈ (raw.map RawLabel.toLabel).labels, l.value.isWritable = true := by
    intro l hl
    rw [Tree.labels_map] at hl
    obtain ⟨l, -, rfl⟩ := List.mem_map.mp hl
    exact l.isWritable_toLabel
  refine ⟨_, _, flattenRaw_of_isPlain h, rebuild_flatten hwritable, ?_⟩
  rw [Tree.map_map (f := RawLabel.toLabel)]
  have htextual : raw.map (Label.textual ∘ RawLabel.toLabel) = raw.map RawLabel.toLabel :=
    Tree.map_congr raw fun l hl => RawLabel.textual_toLabel (hall l hl)
  rw [htextual, map_toRaw_map_toLabel h]

/-- An absent value and an empty text stay apart, and so do equal siblings. -/
theorem rebuild_flattenRaw_absent_and_empty :
    (Tree.node ⟨.text "call", .null⟩
        [.node ⟨.text "name", .text ""⟩ [.node ⟨.text "", .text "f"⟩ []],
          .node ⟨.text "name", .null⟩ [], .node ⟨.text "name", .text ""⟩ []]
      : Tree RawLabel).all RawLabel.isPlain = true ∧
    ∃ records t, flattenRaw (Tree.node ⟨.text "call", .null⟩
        [.node ⟨.text "name", .text ""⟩ [.node ⟨.text "", .text "f"⟩ []],
          .node ⟨.text "name", .null⟩ [], .node ⟨.text "name", .text ""⟩ []]) = .ok records ∧
      rebuild records = .ok t ∧
      t.map Label.toRaw = Tree.node ⟨.text "call", .null⟩
        [.node ⟨.text "name", .text ""⟩ [.node ⟨.text "", .text "f"⟩ []],
          .node ⟨.text "name", .null⟩ [], .node ⟨.text "name", .text ""⟩ []] :=
  ⟨by decide, rebuild_flattenRaw _ (by decide)⟩

end SyntaxCorpus
