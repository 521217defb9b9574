/-
SyntaxCorpus.Proofs.FileSystem.Walk — where names lead.

* `node?_set` — the law of a node put at a location.
* `Leads` — the walks that lead somewhere, one case for each kind of name;
  `leads_of_walk` and `walk_of_leads` are its two directions.
* `find_eq_ok_iff` — a path leads where its names lead.
* `isPlace_of_find` — a path leads to what the file system has there.
* `find_eq_nullCharacter_iff` — which paths are no paths for any operation.
* `find_of_isName` — a path of a single name leads to what the working
  directory has under that name, or to where a link of that name leads.
-/
import SyntaxCorpus.FileSystem.Content

namespace SyntaxCorpus

namespace FileSystem

/-! ## Nodes -/

theorem node?_of_ne_nil (fs : FileSystem) {l : Location} (hl : l ≠ []) :
    fs.node? l = (fs.entries.find? (·.1 == l)).map (·.2) := by
  rw [node?, if_neg (by simpa using hl)]

theorem workingDirectory_set (fs : FileSystem) (l : Location) (n : Node) :
    (fs.set l n).workingDirectory = fs.workingDirectory := by
  unfold set
  split <;> rfl

/-- Only the location that a node is put at has another node. -/
theorem node?_set (fs : FileSystem) {l : Location} (hl : l ≠ []) (n : Node) (m : Location) :
    (fs.set l n).node? m = if m = l then some n else fs.node? m := by
  by_cases hm : m = []
  · rw [hm, if_neg (Ne.symm hl)]
    rfl
  rw [node?_of_ne_nil _ hm, node?_of_ne_nil _ hm]
  by_cases hold : (fs.node? l).isSome = true
  · -- the node is replaced wherever the location is listed
    have hsame : (fun e : Location × Node => e.1 == m) ∘
        (fun e : Location × Node => if e.1 == l then (e.1, n) else (e.1, e.2))
          = fun e => e.1 == m := by
      funext e
      rw [Function.comp_apply]
      split <;> rfl
    rw [set, if_pos hold]
    simp only [List.find?_map, hsame]
    by_cases heq : m = l
    · rw [node?_of_ne_nil _ hl, Option.isSome_map] at hold
      obtain ⟨e, he⟩ := Option.isSome_iff_exists.mp hold
      have hfst : (e.1 == l) = true := by simpa using List.find?_some he
      rw [if_pos heq, heq, he, Option.map_some, Option.map_some, if_pos hfst]
    · rw [if_neg heq]
      cases he : fs.entries.find? (·.1 == m) with
      | none => rfl
      | some e =>
        have hfst : e.1 = m := by simpa using List.find?_some he
        have hne : ¬ (e.1 == l) = true := by simpa [hfst] using heq
        rw [Option.map_some, Option.map_some, if_neg hne, Option.map_some]
  · -- the location is listed last
    rw [set, if_neg hold]
    rw [node?_of_ne_nil _ hl, Option.isSome_map, Bool.not_eq_true, Option.isSome_eq_false_iff,
      Option.isNone_iff_eq_none] at hold
    simp only [List.find?_append]
    by_cases heq : m = l
    · rw [if_pos heq, heq, hold]
      simp
    · rw [if_neg heq]
      have hne : ¬ (l == m) = true := by simpa using fun h : l = m => heq h.symm
      simp [hne]

/-! ## Walks that lead somewhere -/

/-- A name that is looked up in the directory that the walk is in. -/
structure IsEntry (purpose : Purpose) (name : String) (rest : List String) : Prop where
  proper : (name == "" || name == ".") = false
  down : (name == "..") = false
  unslashed : isSlashedFile purpose rest = false
  short : ¬ maxNameSize < name.utf8ByteSize

/-- The walks that lead somewhere, name by name. -/
inductive Leads (fs : FileSystem) (purpose : Purpose) :
    Nat → Location → List String → Place → Prop
  | arrive {links here n} (hhere : fs.node? here = some n) :
      Leads fs purpose links here [] (.present here n)
  | stay {links here name rest place} (hhere : fs.node? here = some .directory)
      (hname : (name == "" || name == ".") = true)
      (hrest : Leads fs purpose links here rest place) :
      Leads fs purpose links here (name :: rest) place
  | up {links here name rest place} (hhere : fs.node? here = some .directory)
      (hname : (name == "" || name == ".") = false) (hup : (name == "..") = true)
      (hrest : Leads fs purpose links here.dropLast rest place) :
      Leads fs purpose links here (name :: rest) place
  | free {links here name} (hhere : fs.node? here = some .directory)
      (hname : IsEntry purpose name []) (hnode : fs.node? (here ++ [name]) = none) :
      Leads fs purpose links here [name] (.vacant here name)
  | inspect {links here name target} (hhere : fs.node? here = some .directory)
      (hname : IsEntry purpose name []) (hnode : fs.node? (here ++ [name]) = some (.link target))
      (hpurpose : purpose = .inspect) :
      Leads fs purpose links here [name] (.present (here ++ [name]) (.link target))
  | follow {links here name rest target place} (hhere : fs.node? here = some .directory)
      (hname : IsEntry purpose name rest)
      (hnode : fs.node? (here ++ [name]) = some (.link target))
      (hgoes : (rest.isEmpty && decide (purpose = .inspect)) = false)
      (hrest :
        Leads fs purpose links (startOf target here) (Text.pieces '/' target ++ rest) place) :
      Leads fs purpose (links + 1) here (name :: rest) place
  | enter {links here name rest n place} (hhere : fs.node? here = some .directory)
      (hname : IsEntry purpose name rest) (hnode : fs.node? (here ++ [name]) = some n)
      (hlink : ∀ target, n ≠ .link target)
      (hrest : Leads fs purpose links (here ++ [name]) rest place) :
      Leads fs purpose links here (name :: rest) place

theorem leads_of_walk {fs : FileSystem} {purpose : Purpose} {links : Nat} {here : Location}
    {names : List String} {place : Place} (h : fs.walk purpose links here names = .ok place) :
    Leads fs purpose links here names place := by
  fun_induction walk fs purpose links here names with
  | case1 links here n hhere =>
    obtain rfl := Except.ok.inj h
    exact .arrive hhere
  | case4 links here name rest hhere hname ih => exact .stay hhere hname (ih h)
  | case5 links here name rest hhere hname hup ih =>
    exact .up hhere (by simpa using hname) hup (ih h)
  | case8 links here name rest hhere hname hup hslash hshort hnode hrest =>
    obtain rfl := Except.ok.inj h
    obtain rfl := List.isEmpty_iff.mp hrest
    exact .free hhere
      ⟨by simpa using hname, by simpa using hup, by simpa using hslash, hshort⟩ hnode
  | case10 links here name rest hhere hname hup hslash hshort target hnode hlast =>
    obtain rfl := Except.ok.inj h
    rw [Bool.and_eq_true, List.isEmpty_iff, decide_eq_true_eq] at hlast
    obtain ⟨rfl, hpurpose⟩ := hlast
    exact .inspect hhere ⟨by simpa using hname, by simpa using hup, by simpa using hslash, hshort⟩
      hnode hpurpose
  | case12 here name rest hhere hname hup hslash hshort target hnode hgoes links ih =>
    exact .follow hhere ⟨by simpa using hname, by simpa using hup, by simpa using hslash, hshort⟩
      hnode (by simpa using hgoes) (ih h)
  | case13 links here name rest hhere hname hup hslash hshort n hlink hnode ih =>
    exact .enter hhere ⟨by simpa using hname, by simpa using hup, by simpa using hslash, hshort⟩
      hnode hlink (ih h)
  | _ => cases h

theorem walk_of_leads {fs : FileSystem} {purpose : Purpose} {links : Nat} {here : Location}
    {names : List String} {place : Place} (h : Leads fs purpose links here names place) :
    fs.walk purpose links here names = .ok place := by
  induction h with
  | arrive hhere => rw [walk, hhere]
  | stay hhere hname hrest ih =>
    rw [walk, hhere]
    simp only [hname, if_true, ih]
  | up hhere hname hup hrest ih =>
    rw [walk, hhere]
    simp only [hname, hup, if_true, ih, Bool.false_eq_true, if_false]
  | free hhere hname hnode =>
    rw [walk, hhere]
    simp [hname.proper, hname.down, hname.unslashed, hname.short, hnode]
  | inspect hhere hname hnode hpurpose =>
    subst hpurpose
    rw [walk, hhere]
    simp [hname.proper, hname.down, hname.unslashed, hname.short, hnode]
  | follow hhere hname hnode hgoes hrest ih =>
    rw [walk, hhere]
    simp [hname.proper, hname.down, hname.unslashed, hname.short, hnode, hgoes, ih]
  | enter hhere hname hnode hlink hrest ih =>
    rw [walk, hhere]
    simp [hname.proper, hname.down, hname.unslashed, hname.short, hnode, ih]

/-- Whether a place is what the file system has there. -/
def IsPlace (fs : FileSystem) : Place → Prop
  | .present l n => fs.node? l = some n
  | .vacant d name => fs.node? (d ++ [name]) = none

theorem Leads.isPlace {fs : FileSystem} {purpose : Purpose} {links : Nat} {here : Location}
    {names : List String} {place : Place} (h : Leads fs purpose links here names place) :
    IsPlace fs place := by
  induction h with
  | arrive hhere => exact hhere
  | stay _ _ _ ih => exact ih
  | up _ _ _ _ ih => exact ih
  | free _ _ hnode => exact hnode
  | inspect _ _ hnode => exact hnode
  | follow _ _ _ _ _ ih => exact ih
  | enter _ _ _ _ _ ih => exact ih

/-- Whether a path is looked up at all. -/
structure IsLookedUp (path : String) : Prop where
  noNull : path.toList.contains (Char.ofNat 0) = false
  nonempty : path.isEmpty = false
  short : ¬ pathSizeLimit ≤ path.utf8ByteSize

/-- A path leads where its names lead. -/
theorem find_eq_ok_iff {fs : FileSystem} {purpose : Purpose} {path : String} {place : Place} :
    fs.find purpose path = .ok place ↔ IsLookedUp path ∧
      Leads fs purpose maxLinks (startOf path fs.workingDirectory) (Text.pieces '/' path)
        place := by
  constructor
  · intro h
    unfold find at h
    split at h
    · cases h
    · rename_i hnull
      split at h
      · cases h
      · rename_i hempty
        split at h
        · cases h
        · rename_i hsize
          exact ⟨⟨by simpa using hnull, by simpa using hempty, hsize⟩, leads_of_walk h⟩
  · rintro ⟨⟨hnull, hempty, hsize⟩, h⟩
    rw [find, hnull, hempty, if_neg Bool.false_ne_true, if_neg Bool.false_ne_true, if_neg hsize]
    exact walk_of_leads h

theorem isPlace_of_find {fs : FileSystem} {purpose : Purpose} {path : String} {place : Place}
    (h : fs.find purpose path = .ok place) : IsPlace fs place :=
  (find_eq_ok_iff.mp h).2.isPlace

theorem node?_of_status {fs : FileSystem} {path : String} {l : Location} {n : Node}
    (h : fs.status path = .ok (l, n)) : fs.node? l = some n := by
  unfold status at h
  cases hfind : fs.find .reach path with
  | error e =>
    rw [hfind] at h
    cases h
  | ok place =>
    rw [hfind] at h
    cases place with
    | vacant d name => cases h
    | present m k =>
      cases h
      exact isPlace_of_find hfind

/-! ## Paths with a null character -/

/-- No walk ends at a null character. -/
theorem walk_ne_nullCharacter (fs : FileSystem) (purpose : Purpose) (links : Nat)
    (here : Location) (names : List String) :
    fs.walk purpose links here names ≠ .error .nullCharacter := by
  fun_induction walk fs purpose links here names <;> first | assumption | simp

/-- A null character keeps a path from being looked up, and nothing else does so
with this error. -/
theorem find_eq_nullCharacter_iff (fs : FileSystem) (purpose : Purpose) {path : String} :
    fs.find purpose path = .error .nullCharacter ↔ Char.ofNat 0 ∈ path.toList := by
  unfold find
  split
  · rename_i hnull
    exact iff_of_true rfl (List.contains_iff_mem.mp hnull)
  · rename_i hnull
    refine iff_of_false ?_ fun hmem => hnull (List.contains_iff_mem.mpr hmem)
    split
    · simp
    · split
      · simp
      · exact walk_ne_nullCharacter fs purpose _ _ _

theorem read_eq_nullCharacter_iff {fs : FileSystem} {path : String} :
    fs.read path = .error .nullCharacter ↔ Char.ofNat 0 ∈ path.toList := by
  rw [← find_eq_nullCharacter_iff fs .reach, read, status]
  cases fs.find .reach path with
  | error e => simp [Except.bind]
  | ok place =>
    refine iff_of_false ?_ (by simp)
    cases place with
    | vacant d name => simp [Except.bind]
    | present l n => cases n <;> simp [Except.bind]

/-! ## Paths of a single name -/

instance (purpose : Purpose) (name : String) (rest : List String) :
    Decidable (IsEntry purpose name rest) :=
  decidable_of_iff ((name == "" || name == ".") = false ∧ (name == "..") = false ∧
      isSlashedFile purpose rest = false ∧ ¬ maxNameSize < name.utf8ByteSize)
    ⟨fun ⟨h₁, h₂, h₃, h₄⟩ => ⟨h₁, h₂, h₃, h₄⟩, fun ⟨h₁, h₂, h₃, h₄⟩ => ⟨h₁, h₂, h₃, h₄⟩⟩

/-- Whether a path is a single name that is looked up in the working
directory. -/
structure IsName (purpose : Purpose) (path : String) : Prop where
  isEntry : IsEntry purpose path []
  noNull : path.toList.contains (Char.ofNat 0) = false
  nonempty : path.isEmpty = false
  short : ¬ pathSizeLimit ≤ path.utf8ByteSize
  single : Text.pieces '/' path = [path]
  relative : startsAtRoot path = false

instance (purpose : Purpose) (path : String) : Decidable (IsName purpose path) :=
  decidable_of_iff (IsEntry purpose path [] ∧ path.toList.contains (Char.ofNat 0) = false ∧
      path.isEmpty = false ∧ ¬ pathSizeLimit ≤ path.utf8ByteSize ∧
      Text.pieces '/' path = [path] ∧ startsAtRoot path = false)
    ⟨fun ⟨h₁, h₂, h₃, h₄, h₅, h₆⟩ => ⟨h₁, h₂, h₃, h₄, h₅, h₆⟩,
      fun ⟨h₁, h₂, h₃, h₄, h₅, h₆⟩ => ⟨h₁, h₂, h₃, h₄, h₅, h₆⟩⟩

section

variable {fs : FileSystem} {purpose : Purpose} {name : String}

theorem find_of_isName (hname : IsName purpose name) {place : Place}
    (h : Leads fs purpose maxLinks fs.workingDirectory [name] place) :
    fs.find purpose name = .ok place := by
  have hstart : startOf name fs.workingDirectory = fs.workingDirectory := by
    rw [startOf, hname.relative, if_neg Bool.false_ne_true]
  refine find_eq_ok_iff.mpr ⟨⟨hname.noNull, hname.nonempty, hname.short⟩, ?_⟩
  rw [hstart, hname.single]
  exact h

theorem leads_file {links : Nat} {here : Location} {content : ByteArray}
    (hhere : fs.node? here = some .directory) (hname : IsEntry purpose name [])
    (hnode : fs.node? (here ++ [name]) = some (.file content)) :
    Leads fs purpose links here [name] (.present (here ++ [name]) (.file content)) :=
  .enter hhere hname hnode (by simp) (.arrive hnode)

theorem find_file (hname : IsName purpose name) {content : ByteArray}
    (hhere : fs.node? fs.workingDirectory = some .directory)
    (hnode : fs.node? (fs.workingDirectory ++ [name]) = some (.file content)) :
    fs.find purpose name = .ok (.present (fs.workingDirectory ++ [name]) (.file content)) :=
  find_of_isName hname (leads_file hhere hname.isEntry hnode)

theorem find_free (hname : IsName purpose name)
    (hhere : fs.node? fs.workingDirectory = some .directory)
    (hnode : fs.node? (fs.workingDirectory ++ [name]) = none) :
    fs.find purpose name = .ok (.vacant fs.workingDirectory name) :=
  find_of_isName hname (.free hhere hname.isEntry hnode)

theorem status_file (hname : IsName .reach name) {content : ByteArray}
    (hhere : fs.node? fs.workingDirectory = some .directory)
    (hnode : fs.node? (fs.workingDirectory ++ [name]) = some (.file content)) :
    fs.status name = .ok (fs.workingDirectory ++ [name], .file content) := by
  rw [status, find_file hname hhere hnode]
  rfl

/-- A dot stands for the working directory. -/
theorem status_dot (hhere : fs.node? fs.workingDirectory = some .directory) :
    fs.status "." = .ok (fs.workingDirectory, .directory) := by
  have hpieces : Text.pieces '/' "." = ["."] := by decide
  have hfind : fs.find .reach "." = .ok (.present fs.workingDirectory .directory) := by
    rw [find, if_neg (by decide), if_neg (by decide), if_neg (by decide), hpieces]
    exact walk_of_leads (.stay hhere rfl (.arrive hhere))
  rw [status, hfind]
  rfl

theorem openForWriting_of_find {l : Location} {content : ByteArray}
    (h : fs.find .create name = .ok (.present l (.file content))) :
    fs.openForWriting name = .ok (l, fs.set l (.file .empty)) := by
  rw [openForWriting, h]
  rfl

theorem openForWriting_free (hname : IsName .create name)
    (hhere : fs.node? fs.workingDirectory = some .directory)
    (hnode : fs.node? (fs.workingDirectory ++ [name]) = none) :
    fs.openForWriting name = .ok (fs.workingDirectory ++ [name],
      fs.set (fs.workingDirectory ++ [name]) (.file .empty)) := by
  rw [openForWriting, find_free hname hhere hnode]
  rfl

end

end FileSystem
end SyntaxCorpus
