/-
SyntaxCorpus.Proofs.Traversal — a list taken item by item, up to the first error.

* `mapM_cases` — every item has a value, or the first one that has none ends it.
* `mapM_eq_ok_iff`, `exists_of_mapM_ok` — the values are those of the items, in
  order.
* `exists_of_mapM_error` — an error is that of an item.
-/
import Mathlib.Data.List.Forall2

namespace SyntaxCorpus

variable {ε α β : Type} {f : α → Except ε β}

/-- A list is taken to its end, or to the first item with an error. -/
theorem mapM_cases (f : α → Except ε β) (xs : List α) :
    (∃ ys, List.Forall₂ (fun x y => f x = .ok y) xs ys ∧ xs.mapM f = .ok ys) ∨
      ∃ before x after e, xs = before ++ x :: after ∧ (∀ y ∈ before, ∃ z, f y = .ok z) ∧
        f x = .error e ∧ xs.mapM f = .error e := by
  induction xs with
  | nil => exact .inl ⟨[], .nil, rfl⟩
  | cons x xs ih =>
    rw [List.mapM_cons]
    cases hx : f x with
    | error e => exact .inr ⟨[], x, xs, e, rfl, by simp, hx, rfl⟩
    | ok y =>
      rcases ih with ⟨ys, hys, hmap⟩ | ⟨before, z, after, e, rfl, hbefore, hz, hmap⟩
      · refine .inl ⟨y :: ys, .cons hx hys, ?_⟩
        rw [hmap]
        rfl
      · refine .inr ⟨x :: before, z, after, e, rfl, ?_, hz, ?_⟩
        · exact List.forall_mem_cons.mpr ⟨⟨y, hx⟩, hbefore⟩
        · rw [hmap]
          rfl

/-- The values of a list are those of its items. -/
theorem mapM_eq_ok_iff {xs : List α} {ys : List β} :
    xs.mapM f = .ok ys ↔ List.Forall₂ (fun x y => f x = .ok y) xs ys := by
  constructor
  · intro h
    rcases mapM_cases f xs with ⟨zs, hzs, hmap⟩ | ⟨_, _, _, e, _, _, _, hmap⟩
    · obtain rfl : zs = ys := Except.ok.inj (hmap.symm.trans h)
      exact hzs
    · cases hmap.symm.trans h
  · intro h
    induction h with
    | nil => rfl
    | cons hx _ ih =>
      rw [List.mapM_cons, hx, ih]
      rfl

theorem exists_of_mapM_ok {xs : List α} {ys : List β} (h : xs.mapM f = .ok ys) :
    ∀ x ∈ xs, ∃ y, f x = .ok y := by
  have hys := mapM_eq_ok_iff.mp h
  exact ((List.forall₂_and_left xs ys).mp (hys.imp fun _ y hy => ⟨⟨y, hy⟩, hy⟩)).1

theorem exists_of_mapM_error {xs : List α} {e : ε} (h : xs.mapM f = .error e) :
    ∃ x ∈ xs, f x = .error e := by
  rcases mapM_cases f xs with ⟨ys, _, hmap⟩ | ⟨before, x, after, e', rfl, _, hx, hmap⟩
  · cases hmap.symm.trans h
  · obtain rfl := Except.error.inj (hmap.symm.trans h)
    exact ⟨x, List.mem_append_right _ (List.mem_cons_self ..), hx⟩

end SyntaxCorpus
