/-
SyntaxCorpus.Proofs.FileSystem.Tidy — paths without the names that lead nowhere.

An empty name and a point lead nowhere, but only a directory has them. So a path
still leads where it leads if some of them are left out. It does not always lead
somewhere if they are put back.

* `Tidies`, `IsTidied` — names, and paths, without some names that lead nowhere.
* `Leads.tidy`, `IsTidied.status` — they lead to the same place.
* `status_ofText` — so a file is where its path is, read and written again.
* `Leads.split` — names in a row lead through a directory.
* `has_of_status` — what can be reached is there.
-/
import SyntaxCorpus.Proofs.FileSystem.Opening
import SyntaxCorpus.Proofs.Path.Basic

namespace SyntaxCorpus

namespace FileSystem

/-! ## Names that lead nowhere -/

/-- Names without some of those that lead nowhere. -/
inductive Tidies : List String → List String → Prop
  | nil : Tidies [] []
  | keep (name : String) {ns ms} (h : Tidies ns ms) : Tidies (name :: ns) (name :: ms)
  | drop {name ns ms} (hname : (name == "" || name == ".") = true) (h : Tidies ns ms) :
      Tidies (name :: ns) ms

namespace Tidies

variable {ns ms : List String}

theorem refl : ∀ ns : List String, Tidies ns ns
  | [] => .nil
  | name :: ns => .keep name (refl ns)

theorem append {ns' ms' : List String} (h : Tidies ns ms) (h' : Tidies ns' ms') :
    Tidies (ns ++ ns') (ms ++ ms') := by
  induction h with
  | nil => exact h'
  | keep name _ ih => exact .keep name ih
  | drop hname _ ih => exact .drop hname ih

theorem filter (ns : List String) : Tidies ns (ns.filter Path.isProperName) := by
  induction ns with
  | nil => exact .nil
  | cons name ns ih =>
    cases hname : Path.isProperName name with
    | true =>
      rw [List.filter_cons_of_pos hname]
      exact .keep name ih
    | false =>
      rw [List.filter_cons_of_neg (by simp [hname])]
      exact .drop (by simpa [Path.isProperName, or_iff_not_imp_left] using hname) ih

/-- The names that lead somewhere are the same. -/
theorem filter_eq (h : Tidies ns ms) :
    ms.filter Path.isProperName = ns.filter Path.isProperName := by
  induction h with
  | nil => rfl
  | keep name _ ih => rw [List.filter_cons, List.filter_cons, ih]
  | @drop name _ _ hname _ ih =>
    rw [List.filter_cons_of_neg, ih]
    rcases (Bool.or_eq_true ..).mp hname with h | h <;> simp [Path.isProperName, eq_of_beq h]

theorem sublist (h : Tidies ns ms) : ms.Sublist ns := by
  induction h with
  | nil => exact .slnil
  | keep name _ ih => exact .cons_cons name ih
  | drop _ _ ih => exact .cons _ ih

theorem size_le (h : Tidies ns ms) :
    (ms.map (·.utf8ByteSize + 1)).sum ≤ (ns.map (·.utf8ByteSize + 1)).sum := by
  induction h with
  | nil => exact Nat.le_refl _
  | keep name _ ih => simpa using ih
  | drop _ _ ih =>
    rw [List.map_cons, List.sum_cons]
    exact ih.trans (Nat.le_add_left _ _)

end Tidies

section

variable {fs : FileSystem} {links : Nat} {here : Location}

/-! ## Where names lead -/

/-- A name that is looked up is looked up before any other names, unless it is to
be created. -/
theorem IsEntry.before {purpose : Purpose} {name : String} {rest : List String}
    (h : IsEntry purpose name rest) {purpose' : Purpose} (hpurpose : purpose' ≠ .create)
    (rest' : List String) : IsEntry purpose' name rest' :=
  ⟨h.proper, h.down, by simp [isSlashedFile, hpurpose], h.short⟩

/-- Names lead to the same place without those that lead nowhere. -/
theorem Leads.tidy {ns ms : List String} {place : Place}
    (h : Leads fs .reach links here ns place) (htidy : Tidies ns ms) :
    Leads fs .reach links here ms place := by
  induction h generalizing ms with
  | arrive hhere =>
    cases htidy
    exact .arrive hhere
  | stay hhere hname hrest ih =>
    cases htidy with
    | keep _ htidy => exact .stay hhere hname (ih htidy)
    | drop _ htidy => exact ih htidy
  | up hhere hname hup hrest ih =>
    cases htidy with
    | keep _ htidy => exact .up hhere hname hup (ih htidy)
    | drop hdrop _ => cases hname.symm.trans hdrop
  | free hhere hname hnode =>
    cases htidy with
    | keep _ htidy =>
      cases htidy
      exact .free hhere hname hnode
    | drop hdrop _ => cases hname.proper.symm.trans hdrop
  | inspect _ _ _ hpurpose => cases hpurpose
  | follow hhere hname hnode hgoes hrest ih =>
    cases htidy with
    | keep _ htidy =>
      exact .follow hhere (hname.before (by decide) _) hnode (by simp)
        (ih ((Tidies.refl _).append htidy))
    | drop hdrop _ => cases hname.proper.symm.trans hdrop
  | enter hhere hname hnode hlink hrest ih =>
    cases htidy with
    | keep _ htidy => exact .enter hhere (hname.before (by decide) _) hnode hlink (ih htidy)
    | drop hdrop _ => cases hname.proper.symm.trans hdrop

theorem Leads.isDirectory {name : String} {rest : List String} {place : Place}
    (h : Leads fs .reach links here (name :: rest) place) : fs.node? here = some .directory := by
  cases h <;> assumption

/-- Names lead on from a directory. -/
theorem Leads.split {ns ms : List String} {m : String} {place : Place}
    (h : Leads fs .reach links here (ns ++ m :: ms) place) :
    ∃ l left, Leads fs .reach links here ns (.present l .directory) ∧
      Leads fs .reach left l (m :: ms) place := by
  generalize hnames : ns ++ m :: ms = names at h
  induction h generalizing ns with
  | arrive _ => simp at hnames
  | stay hhere hname hrest ih =>
    cases ns with
    | nil =>
      obtain ⟨rfl, rfl⟩ := List.cons.inj hnames
      exact ⟨_, _, .arrive hhere, .stay hhere hname hrest⟩
    | cons name ns =>
      obtain ⟨rfl, hafter⟩ := List.cons.inj hnames
      obtain ⟨l, left, hto, hon⟩ := ih hafter
      exact ⟨l, left, .stay hhere hname hto, hon⟩
  | up hhere hname hup hrest ih =>
    cases ns with
    | nil =>
      obtain ⟨rfl, rfl⟩ := List.cons.inj hnames
      exact ⟨_, _, .arrive hhere, .up hhere hname hup hrest⟩
    | cons name ns =>
      obtain ⟨rfl, hafter⟩ := List.cons.inj hnames
      obtain ⟨l, left, hto, hon⟩ := ih hafter
      exact ⟨l, left, .up hhere hname hup hto, hon⟩
  | @free links here name hhere hname hnode =>
    cases ns with
    | nil =>
      obtain ⟨rfl, rfl⟩ := List.cons.inj hnames
      exact ⟨here, links, .arrive hhere, .free hhere hname hnode⟩
    | cons name ns => simp at hnames
  | inspect _ _ _ hpurpose => cases hpurpose
  | @follow links here name rest target place hhere hname hnode hgoes hrest ih =>
    cases ns with
    | nil =>
      obtain ⟨rfl, rfl⟩ := List.cons.inj hnames
      exact ⟨_, _, .arrive hhere, .follow hhere hname hnode hgoes hrest⟩
    | cons name ns =>
      obtain ⟨rfl, rfl⟩ := List.cons.inj hnames
      obtain ⟨l, left, hto, hon⟩ := ih (List.append_assoc (Text.pieces '/' target) ns (m :: ms))
      exact ⟨l, left, .follow hhere (hname.before (by decide) _) hnode (by simp) hto, hon⟩
  | enter hhere hname hnode hlink hrest ih =>
    cases ns with
    | nil =>
      obtain ⟨rfl, rfl⟩ := List.cons.inj hnames
      exact ⟨_, _, .arrive hhere, .enter hhere hname hnode hlink hrest⟩
    | cons name ns =>
      obtain ⟨rfl, hafter⟩ := List.cons.inj hnames
      obtain ⟨l, left, hto, hon⟩ := ih hafter
      exact ⟨l, left, .enter hhere (hname.before (by decide) _) hnode hlink hto, hon⟩

/-- A slash after a directory leads nowhere. -/
theorem Leads.append_empty {ns : List String} {place : Place}
    (h : Leads fs .reach links here ns place) {l : Location}
    (hplace : place = .present l .directory) : Leads fs .reach links here (ns ++ [""]) place := by
  induction h with
  | arrive hhere =>
    obtain ⟨rfl, rfl⟩ := Place.present.inj hplace
    exact .stay hhere rfl (.arrive hhere)
  | stay hhere hname _ ih => exact .stay hhere hname (ih hplace)
  | up hhere hname hup _ ih => exact .up hhere hname hup (ih hplace)
  | free _ _ _ => cases hplace
  | inspect _ _ _ hpurpose => cases hpurpose
  | follow hhere hname hnode _ _ ih =>
    have hleads := ih hplace
    rw [List.append_assoc] at hleads
    exact .follow hhere (hname.before (by decide) _) hnode (by simp) hleads
  | enter hhere hname hnode hlink _ ih =>
    exact .enter hhere (hname.before (by decide) _) hnode hlink (ih hplace)

/-- What can be reached is there, be it by a link in the last place. -/
theorem Leads.inspect_of_reach {ns : List String} {place : Place}
    (h : Leads fs .reach links here ns place) {l : Location} {n : Node}
    (hplace : place = .present l n) :
    ∃ m k, Leads fs .inspect links here ns (.present m k) := by
  induction h with
  | arrive hhere => exact ⟨_, _, .arrive hhere⟩
  | stay hhere hname _ ih =>
    obtain ⟨m, k, hleads⟩ := ih hplace
    exact ⟨m, k, .stay hhere hname hleads⟩
  | up hhere hname hup _ ih =>
    obtain ⟨m, k, hleads⟩ := ih hplace
    exact ⟨m, k, .up hhere hname hup hleads⟩
  | free _ _ _ => cases hplace
  | inspect _ _ _ hpurpose => cases hpurpose
  | @follow links here name rest target place hhere hname hnode hgoes hrest ih =>
    cases rest with
    | nil => exact ⟨_, _, .inspect hhere (hname.before (by decide) _) hnode rfl⟩
    | cons next rest =>
      obtain ⟨m, k, hleads⟩ := ih hplace
      exact ⟨m, k, .follow hhere (hname.before (by decide) _) hnode rfl hleads⟩
  | enter hhere hname hnode hlink _ ih =>
    obtain ⟨m, k, hleads⟩ := ih hplace
    exact ⟨m, k, .enter hhere (hname.before (by decide) _) hnode hlink hleads⟩

end

/-! ## Where paths lead -/

section

variable {fs : FileSystem} {path : String}

theorem status_eq_ok_iff {l : Location} {n : Node} :
    fs.status path = .ok (l, n) ↔ IsLookedUp path ∧
      Leads fs .reach maxLinks (startOf path fs.workingDirectory) (Text.pieces '/' path)
        (.present l n) := by
  rw [← find_eq_ok_iff, status]
  cases fs.find .reach path with
  | error e => simp [Except.bind]
  | ok place => cases place <;> simp [Except.bind]

theorem has_of_status {l : Location} {n : Node} (h : fs.status path = .ok (l, n)) :
    fs.has path = true := by
  obtain ⟨hpath, hleads⟩ := status_eq_ok_iff.mp h
  obtain ⟨m, k, hinspect⟩ := hleads.inspect_of_reach rfl
  rw [has, find_eq_ok_iff.mpr ⟨hpath, hinspect⟩]

end

/-- The front of a path is looked up if the path is. -/
theorem IsLookedUp.of_append {front rest : String} (h : IsLookedUp (front ++ rest))
    (hne : front ≠ "") : IsLookedUp front := by
  refine ⟨?_, by simpa using hne, fun hlong => h.short ?_⟩
  · have hnull := h.noNull
    rw [← Bool.not_eq_true, List.contains_iff_mem] at hnull ⊢
    exact fun hmem => hnull (by rw [String.toList_append]; exact List.mem_append_left _ hmem)
  · rw [String.utf8ByteSize_append]
    exact hlong.trans (Nat.le_add_right _ _)

/-- A path without some of its names that lead nowhere. -/
structure IsTidied (path tidied : String) : Prop where
  root : Root.ofChars tidied.toList = Root.ofChars path.toList
  names : Tidies (Text.pieces '/' path) (Text.pieces '/' tidied)
  nonempty : tidied ≠ ""

theorem startsAtRoot_eq (path : String) :
    startsAtRoot path = (Root.ofChars path.toList != .none) := by
  rw [startsAtRoot]
  unfold Root.ofChars
  split
  case h_4 hslash =>
    cases hchars : path.toList with
    | nil => rfl
    | cons c cs =>
      have hc : c ≠ '/' := by
        rintro rfl
        exact hslash cs hchars
      simpa using hc
  all_goals
    rename_i hchars
    rw [hchars]
    rfl

namespace IsTidied

variable {path tidied : String}

theorem refl (h : path ≠ "") : IsTidied path path := ⟨rfl, .refl _, h⟩

/-- They are the same path. -/
theorem ofText_eq (h : IsTidied path tidied) : Path.ofText tidied = Path.ofText path := by
  rw [Path.ofText, Path.ofText, h.root, h.names.filter_eq]

theorem size_le (h : IsTidied path tidied) : tidied.utf8ByteSize ≤ path.utf8ByteSize := by
  have hsize : ∀ s : String,
      s.utf8ByteSize + 1 = ((Text.pieces '/' s).map (·.utf8ByteSize + 1)).sum := by
    intro s
    have hsum := @Text.utf8ByteSize_intercalate (String.singleton '/') _ (Text.pieces_ne_nil '/' s)
    rwa [Text.intercalate_pieces] at hsum
  have hle := h.names.size_le
  rw [← hsize, ← hsize] at hle
  exact Nat.le_of_succ_le_succ hle

theorem isLookedUp (h : IsTidied path tidied) (hpath : IsLookedUp path) : IsLookedUp tidied := by
  refine ⟨?_, by simpa using h.nonempty, fun hlong => hpath.short (hlong.trans h.size_le)⟩
  have hnull := hpath.noNull
  rw [← Bool.not_eq_true, List.contains_iff_mem] at hnull ⊢
  intro hmem
  have hslash : Char.ofNat 0 ≠ '/' := by decide
  obtain ⟨piece, hpiece, hmem⟩ := (Text.exists_mem_pieces_iff hslash tidied).mpr hmem
  exact hnull ((Text.exists_mem_pieces_iff hslash path).mp
    ⟨piece, h.names.sublist.subset hpiece, hmem⟩)

/-- They lead to the same place. -/
theorem status {fs : FileSystem} (h : IsTidied path tidied) {l : Location} {n : Node}
    (hstatus : fs.status path = .ok (l, n)) : fs.status tidied = .ok (l, n) := by
  obtain ⟨hpath, hleads⟩ := status_eq_ok_iff.mp hstatus
  refine status_eq_ok_iff.mpr ⟨h.isLookedUp hpath, ?_⟩
  rw [startOf, startsAtRoot_eq, h.root, ← startsAtRoot_eq]
  exact hleads.tidy h.names

end IsTidied

/-- A root has names of its own. -/
theorem exists_pieces_root (root : Root) :
    ∃ front, ∀ s : String, Text.pieces '/' (root.text ++ s) = front ++ Text.pieces '/' s := by
  have hslash : ∀ s : String, Text.pieces '/' ("/" ++ s) = [""] ++ Text.pieces '/' s :=
    Text.pieces_append '/' ""
  cases root with
  | none => exact ⟨[], fun s => by rw [Root.text, String.empty_append, List.nil_append]⟩
  | single => exact ⟨[""], hslash⟩
  | double =>
    refine ⟨[""] ++ [""], fun s => ?_⟩
    have htext : Root.double.text ++ s = "/" ++ ("/" ++ s) := by
      rw [← String.append_assoc]
      rfl
    rw [htext, hslash, hslash, List.append_assoc]

theorem exists_eq_root_append (path : String) :
    ∃ rest, path = (Root.ofChars path.toList).text ++ rest := by
  have hrest : ∀ (front : String) (cs : List Char), path.toList = front.toList ++ cs →
      ∃ rest, path = front ++ rest := by
    intro front cs h
    exact ⟨String.ofList cs, by rw [← String.toList_inj, String.toList_append, h,
      String.toList_ofList]⟩
  unfold Root.ofChars
  split
  case h_1 cs hchars => exact hrest "/" ('/' :: '/' :: cs) hchars
  case h_2 cs _ hchars => exact hrest "//" cs hchars
  case h_3 cs _ _ hchars => exact hrest "/" cs hchars
  case h_4 => exact hrest "" path.toList rfl

/-- The written form of a path of a file is that path without the names that lead
nowhere. -/
theorem isTidied_ofText {fs : FileSystem} {path : String} {l : Location} {content : ByteArray}
    (h : fs.status path = .ok (l, .file content)) : IsTidied path (Path.ofText path).text := by
  obtain ⟨-, hleads⟩ := status_eq_ok_iff.mp h
  have hproper := Path.isProper_ofText path
  have hne : (Path.ofText path).names ≠ [] := by
    -- with no name to go by, the path would lead to the directory where it starts
    intro hnil
    obtain ⟨first, rest, hpieces⟩ : ∃ first rest, Text.pieces '/' path = first :: rest :=
      List.exists_cons_of_ne_nil (Text.pieces_ne_nil '/' path)
    have hnone : (Text.pieces '/' path).filter Path.isProperName = [] := hnil
    have hstart := hleads.tidy (.filter _)
    rw [hnone] at hstart
    rw [hpieces] at hleads
    cases hstart with
    | arrive hfile => cases hleads.isDirectory.symm.trans hfile
  have htext : (Path.ofText path).text
      = (Root.ofChars path.toList).text ++ String.intercalate "/" (Path.ofText path).names := by
    unfold Path.text
    split
    · rename_i hnil
      exact absurd hnil hne
    · rfl
  obtain ⟨rest, hrest⟩ := exists_eq_root_append path
  obtain ⟨front, hfront⟩ := exists_pieces_root (Root.ofChars path.toList)
  have hnames : (Path.ofText path).names = (Text.pieces '/' rest).filter Path.isProperName := by
    rw [Path.ofText]
    conv_lhs => rw [hrest]
    exact Path.filter_pieces_append _ rest
  refine ⟨?_, ?_, ?_⟩
  · rw [htext, String.toList_append]
    exact Path.ofChars_append _ (Path.head?_intercalate hproper)
  · have hpieces : Text.pieces '/' (String.intercalate "/" (Path.ofText path).names)
        = (Path.ofText path).names :=
      Text.pieces_intercalate hne fun name hname => (hproper name hname).2
    rw [htext, hfront, hpieces, hnames]
    conv_lhs => rw [hrest, hfront]
    exact (Tidies.refl front).append (.filter _)
  · intro hempty
    rw [htext, String.append_eq_empty_iff] at hempty
    have hpieces := Path.filter_pieces_intercalate hproper
    rw [hempty.2] at hpieces
    exact hne hpieces.symm

/-- A file is where its path is, read and written again. -/
theorem status_ofText {fs : FileSystem} {path : String} {l : Location} {content : ByteArray}
    (h : fs.status path = .ok (l, .file content)) :
    fs.status (Path.ofText path).text = .ok (l, .file content) :=
  (isTidied_ofText h).status h

end FileSystem
end SyntaxCorpus
