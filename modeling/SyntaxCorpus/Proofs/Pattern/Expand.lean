/-
SyntaxCorpus.Proofs.Pattern.Expand — how a pattern is expanded.

A pattern is taken apart at the slashes before its last part. So there are three
kinds of patterns: a part alone, a part below the root, and a part in what a
shorter pattern stands for.

* `exists_of_flatten_ok`, `exists_of_flatten_error` — lists that are gathered,
  as long as none of them is an error.
* `joined_of_slash`, `joined_of_not_slash` — a name put to a directory.
* `of_mem_namesIn`, `namesIn_eq_error` — the names in a directory.
* `exists_last_part` — the last part of a text.
* `expandReversed_alone`, `expandReversed_split` — the kinds of patterns.
* `expand_of_unlisted` — a part alone, where nothing can be listed.
-/
import Mathlib.Data.List.Basic
import Mathlib.Data.List.Induction
import SyntaxCorpus.Pattern.Expand
import SyntaxCorpus.Proofs.FileSystem.Walk
import SyntaxCorpus.Proofs.Text.Split
import SyntaxCorpus.Proofs.Traversal

namespace SyntaxCorpus

theorem FileSystem.mem_listing_iff (fs : FileSystem) {directory : Location} {name : String} :
    name ∈ (fs.listing directory).map (·.1) ↔ (fs.node? (directory ++ [name])).isSome = true := by
  rw [node?_of_ne_nil fs (by simp), Option.isSome_map, List.find?_isSome, List.mem_map]
  constructor
  · rintro ⟨⟨_, n⟩, hmem, rfl⟩
    obtain ⟨⟨l, m⟩, hentry, hsome⟩ := List.mem_filterMap.mp hmem
    refine ⟨(l, m), hentry, ?_⟩
    cases hlast : l.getLast? with
    | none => simp [hlast] at hsome
    | some last =>
      simp only [hlast] at hsome
      split at hsome
      · rename_i hdirectory
        obtain ⟨rfl, -⟩ := Prod.mk.inj (Option.some.inj hsome)
        obtain ⟨above, rfl⟩ := List.getLast?_eq_some_iff.mp hlast
        rw [List.dropLast_concat] at hdirectory
        rw [eq_of_beq hdirectory, beq_self_eq_true]
      · cases hsome
  · rintro ⟨⟨l, m⟩, hentry, hl⟩
    obtain rfl : l = directory ++ [name] := by simpa using hl
    exact ⟨(name, m), List.mem_filterMap.mpr ⟨_, hentry, by simp⟩, rfl⟩

namespace Pattern

/-! ## Lists that are gathered -/

section

variable {ε α β : Type} {f : α → Except ε (List β)}

theorem flatten_of_ok {g : α → List β} {xs : List α} (h : ∀ x ∈ xs, f x = .ok (g x)) :
    (xs.mapM f).map List.flatten = .ok (xs.flatMap g) := by
  have hmap : xs.mapM f = .ok (xs.map g) :=
    mapM_eq_ok_iff.mpr (List.forall₂_map_right_iff.mpr (List.forall₂_same.mpr h))
  rw [hmap, Except.map, List.flatMap_def]

/-- What is not gathered has an error. -/
theorem exists_of_flatten_error {xs : List α} {e : ε}
    (h : (xs.mapM f).map List.flatten = .error e) : ∃ x ∈ xs, f x = .error e := by
  cases hmap : xs.mapM f with
  | error e' =>
    rw [hmap] at h
    obtain rfl := Except.error.inj h
    exact exists_of_mapM_error hmap
  | ok yss =>
    rw [hmap] at h
    cases h

/-- What is gathered comes from lists without an error. -/
theorem exists_of_flatten_ok {xs : List α} {zs : List β}
    (h : (xs.mapM f).map List.flatten = .ok zs) :
    ∃ g : α → List β, (∀ x ∈ xs, f x = .ok (g x)) ∧ zs = xs.flatMap g := by
  have hall : ∀ x ∈ xs, f x = .ok ((f x).toOption.getD []) := by
    cases hmap : xs.mapM f with
    | error e =>
      rw [hmap] at h
      cases h
    | ok yss =>
      intro x hx
      obtain ⟨ys, hys⟩ := exists_of_mapM_ok hmap x hx
      rw [hys]
      rfl
  refine ⟨_, hall, ?_⟩
  exact Except.ok.inj (h.symm.trans (flatten_of_ok hall))

end

variable {fs : FileSystem} {directoriesOnly : Bool} {directory part : String}

/-! ## Names put to directories -/

theorem startsAtRoot_eq_false (h : '/' ∉ part.toList) : startsAtRoot part = false := by
  rw [startsAtRoot, beq_eq_false_iff_ne]
  exact fun hhead => h (List.mem_of_head? hhead)

/-- Characters without a slash stay the last ones. -/
theorem getLast?_append_ne_slash {cs : List Char} (hne : cs ≠ []) (h : '/' ∉ cs)
    (front : List Char) : (front ++ cs).getLast? ≠ some '/' := by
  rw [List.getLast?_append_of_ne_nil _ hne]
  exact fun hlast => h (List.mem_of_getLast? hlast)

theorem joined_here (part : String) : joined "" part = part := by
  simp [joined]

theorem joined_of_slash (hpart : startsAtRoot part = false)
    (hlast : directory.toList.getLast? = some '/') : joined directory part = directory ++ part := by
  have hne : directory ≠ "" := by
    rintro rfl
    cases hlast
  rw [joined, hpart, if_neg (by simpa using hne), if_pos (by rw [hlast]; rfl)]

theorem joined_of_not_slash (hpart : startsAtRoot part = false) (hne : directory ≠ "")
    (hlast : directory.toList.getLast? ≠ some '/') :
    joined directory part = directory ++ "/" ++ part := by
  rw [joined, hpart, if_neg (by simpa using hne), if_neg (by simpa using hlast)]

theorem pathIn_of_ne (hne : part ≠ "") : pathIn directory part = joined directory part := by
  rw [pathIn, if_neg (by simpa using hne)]

/-! ## Names in a directory -/

/-- A directory as it is looked up: the empty path stands for the working
directory. -/
def lookup (directory : String) : String := if directory.isEmpty then "." else directory

theorem lookup_of_ne (h : directory ≠ "") : lookup directory = directory := by
  rw [lookup, if_neg (by simpa using h)]

theorem namesIn_of_directory {l : Location}
    (h : fs.status (lookup directory) = .ok (l, .directory)) (hlisted : l ∉ fs.unlisted) :
    ∃ names, namesIn fs directoriesOnly directory = .ok names ∧ ∀ name, name ∈ names ↔
      (fs.node? (l ++ [name])).isSome = true ∧
        (directoriesOnly = true → fs.isDirectory (pathIn directory name) = true) := by
  have hnames : namesIn fs directoriesOnly directory
      = .ok (((fs.listing l).map (·.1)).filter fun name =>
          !directoriesOnly || fs.isDirectory (pathIn directory name)) := by
    rw [namesIn, ← lookup, h]
    exact if_neg (by simpa using hlisted)
  refine ⟨_, hnames, fun name => ?_⟩
  rw [List.mem_filter, fs.mem_listing_iff]
  cases directoriesOnly <;> simp

/-- A directory that cannot be listed seems to have no names. -/
theorem namesIn_of_unlisted {l : Location}
    (h : fs.status (lookup directory) = .ok (l, .directory)) (hunlisted : l ∈ fs.unlisted) :
    namesIn fs directoriesOnly directory = .ok [] := by
  rw [namesIn, ← lookup, h]
  exact if_pos (by simpa using hunlisted)

/-- A name in a directory is there. -/
theorem of_mem_namesIn {names : List String} (h : namesIn fs directoriesOnly directory = .ok names)
    {name : String} (hname : name ∈ names) :
    ∃ l, fs.status (lookup directory) = .ok (l, .directory) ∧
      (fs.node? (l ++ [name])).isSome = true ∧
        (directoriesOnly = true → fs.isDirectory (pathIn directory name) = true) := by
  have hnil : namesIn fs directoriesOnly directory ≠ .ok [] := by
    rintro heq
    obtain rfl := Except.ok.inj (heq.symm.trans h)
    exact List.not_mem_nil hname
  cases hstatus : fs.status (lookup directory) with
  | error e =>
    rw [namesIn, ← lookup, hstatus] at h hnil
    cases e
    case nullCharacter => cases h
    all_goals exact absurd rfl hnil
  | ok found =>
    obtain ⟨l, n⟩ := found
    cases n
    case directory =>
      by_cases hlisted : l ∈ fs.unlisted
      · exact absurd (namesIn_of_unlisted hstatus hlisted) hnil
      · obtain ⟨names', hnames', hiff⟩ :=
          @namesIn_of_directory _ directoriesOnly _ _ hstatus hlisted
        obtain rfl := Except.ok.inj (h.symm.trans hnames')
        exact ⟨l, rfl, (hiff name).mp hname⟩
    all_goals
      rw [namesIn, ← lookup, hstatus] at hnil
      exact absurd rfl hnil

/-- A null character is what keeps the names in a directory from being looked
up. -/
theorem namesIn_eq_error {e : ExpandError} (h : namesIn fs directoriesOnly directory = .error e) :
    e = .nullCharacter ∧ fs.status (lookup directory) = .error .nullCharacter := by
  rw [namesIn, ← lookup] at h
  split at h
  · split at h <;> cases h
  · rename_i hstatus
    exact ⟨(Except.error.inj h).symm, hstatus⟩
  · cases h

/-! ## The kinds of patterns -/

section

variable {parent part : List Char}

theorem exists_slashes (cs : List Char) :
    ∃ front more, cs = front ++ List.replicate more '/' ∧ front.getLast? ≠ some '/' := by
  induction cs using List.reverseRecOn with
  | nil => exact ⟨[], 0, rfl, by simp⟩
  | append_singleton cs c ih =>
    by_cases hc : c = '/'
    · obtain ⟨front, more, rfl, hlast⟩ := ih
      exact ⟨front, more + 1, by rw [hc, List.replicate_succ', List.append_assoc], hlast⟩
    · exact ⟨cs ++ [c], 0, by simp, by simpa using hc⟩

/-- A text with a slash has a last part, and slashes before it. -/
theorem exists_last_part {cs : List Char} (h : '/' ∈ cs) : ∃ parent more part,
    cs = parent ++ List.replicate (more + 1) '/' ++ part ∧ '/' ∉ part ∧
      parent.getLast? ≠ some '/' := by
  obtain ⟨front, part, rfl, hpart⟩ := Text.exists_last_occurrence h
  obtain ⟨parent, more, rfl, hlast⟩ := exists_slashes front
  exact ⟨parent, more, part, by simp [List.replicate_succ'], hpart, hlast⟩

theorem ne_slash (hpart : '/' ∉ part) : ∀ c ∈ part.reverse, (c != '/') = true := by
  intro c hc
  rw [bne_iff_ne]
  rintro rfl
  exact hpart (List.mem_reverse.mp hc)

/-- A part alone is looked for in the working directory. -/
theorem expandReversed_alone (hpart : '/' ∉ part) (depth : Nat) :
    expandReversed fs (depth + 1) directoriesOnly part.reverse
      = expandPart fs depth directoriesOnly "" (String.ofList part) := by
  have htake : (part.reverse ++ []).takeWhile (· != '/') = part.reverse ++ [] :=
    List.takeWhile_append_of_pos (ne_slash hpart)
  have hdrop : (part.reverse ++ []).dropWhile (· != '/') = [] :=
    List.dropWhile_append_of_pos (ne_slash hpart)
  rw [List.append_nil] at htake hdrop
  rw [expandReversed]
  split
  · rw [htake, List.reverse_reverse]
  · rename_i habove
    rw [hdrop] at habove
    cases habove

/-- The slashes before the last part are left out, unless there is nothing before
them. -/
theorem expandReversed_split (hpart : '/' ∉ part) (hlast : parent.getLast? ≠ some '/')
    (more depth : Nat) :
    expandReversed fs (depth + 1) directoriesOnly
        (parent ++ List.replicate (more + 1) '/' ++ part).reverse
      = if parent.isEmpty then
          expandIn fs depth directoriesOnly (String.ofList part)
            [String.ofList (List.replicate (more + 1) '/')]
        else if parent.any isWildcard then
          (expandReversed fs depth true parent.reverse).bind
            (expandIn fs depth directoriesOnly (String.ofList part))
        else expandIn fs depth directoriesOnly (String.ofList part) [String.ofList parent] := by
  have hreversed : (parent ++ List.replicate (more + 1) '/' ++ part).reverse
      = part.reverse ++ '/' :: (List.replicate more '/' ++ parent.reverse) := by
    rw [List.reverse_append, List.reverse_append, List.reverse_replicate, List.replicate_succ,
      List.cons_append]
  have htake : (part.reverse ++ '/' :: (List.replicate more '/' ++ parent.reverse)).takeWhile
      (· != '/') = part.reverse := by
    rw [List.takeWhile_append_of_pos (ne_slash hpart), List.takeWhile_cons_of_neg (by simp),
      List.append_nil]
  have hdrop : (part.reverse ++ '/' :: (List.replicate more '/' ++ parent.reverse)).dropWhile
      (· != '/') = '/' :: (List.replicate more '/' ++ parent.reverse) := by
    rw [List.dropWhile_append_of_pos (ne_slash hpart), List.dropWhile_cons_of_neg (by simp)]
  have hslashes : (List.replicate more '/' ++ parent.reverse).dropWhile (· == '/')
      = parent.reverse := by
    rw [List.dropWhile_append_of_pos (by simp)]
    cases hreverse : parent.reverse with
    | nil => rfl
    | cons c cs =>
      have hc : c ≠ '/' := by
        rintro rfl
        exact hlast (by rw [List.getLast?_eq_head?_reverse, hreverse]; rfl)
      rw [List.dropWhile_cons_of_neg (by simpa using hc)]
  rw [hreversed, expandReversed]
  split
  · rename_i habove
    rw [hdrop] at habove
    cases habove
  · rename_i slash above habove
    rw [hdrop] at habove
    obtain ⟨rfl, rfl⟩ := List.cons.inj habove
    simp only [htake, hslashes, List.reverse_reverse, List.isEmpty_reverse, List.any_reverse]
    split
    · rename_i hempty
      rw [List.isEmpty_iff.mp hempty, List.reverse_nil, List.append_nil, List.replicate_succ]
    · rfl

/-- No name fits a part alone if the working directory cannot be listed. -/
theorem expand_of_unlisted {fs : FileSystem} {here : Location} {depth : Nat} {part : String}
    (hslash : '/' ∉ part.toList) (hany : part ≠ anyDepth) (hwildcard : hasWildcard part = true)
    (hhere : fs.status "." = .ok (here, .directory)) (hunlisted : here ∈ fs.unlisted)
    (hdepth : fs.searchDepth = depth + 1) : expand fs part = .ok [] := by
  have hlookup : lookup "" = "." := rfl
  rw [expand, hdepth, expandReversed_alone hslash, String.ofList_toList, expandPart,
    if_neg (by simpa using hany), if_pos hwildcard,
    namesIn_of_unlisted (by rw [hlookup, hhere]) hunlisted]
  rfl

end
end Pattern
end SyntaxCorpus
