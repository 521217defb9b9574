/-
SyntaxCorpus.Proofs.FileSystem.Opening — which paths a file can be opened by.

Writing some files makes no difference to that: a path that a file can be opened
by stays one, and no other path becomes one. For the second half, a name `..`
has to lead to a directory, so directories have to be in directories.

* `CanOpen` — a file can be opened for writing by a path.
* `canOpen_of_status` — that is so for a path that leads to a file.
* `IsGrounded` — directories are in directories.
* `Frame.exists_leads_before` — a walk that leads somewhere when some files are
  written led to the same place before.
* `Frame.canOpen`, `Frame.canOpen_before` — the two halves.
-/
import SyntaxCorpus.Proofs.FileSystem.Frame

namespace SyntaxCorpus

/-- Whether a file can be written at a place: a file is there, or the name is
free. -/
def Place.TakesFile : Place → Prop
  | .present _ (.file _) => True
  | .present .. => False
  | .vacant .. => True

namespace FileSystem

/-- Whether a file can be opened for writing by a path. -/
def CanOpen (fs : FileSystem) (path : String) : Prop :=
  ∃ opened, fs.openForWriting path = .ok opened

theorem canOpen_iff {fs : FileSystem} {path : String} :
    fs.CanOpen path ↔ ∃ place, fs.find .create path = .ok place ∧ place.TakesFile := by
  unfold CanOpen openForWriting
  cases fs.find .create path with
  | error e => simp [Except.bind]
  | ok place =>
    cases place with
    | vacant d name => simp [Except.bind, Place.TakesFile]
    | present l n => cases n <;> simp [Except.bind, Place.TakesFile]

theorem not_canOpen {fs : FileSystem} {path : String} {e : FileError}
    (h : fs.openForWriting path = .error e) : ¬ fs.CanOpen path := by
  rintro ⟨opened, hopen⟩
  cases h.symm.trans hopen

/-! ## Paths of files -/

/-- A path with a slash at its end leads to a directory. -/
theorem Leads.isDirectory_of_getLast? {fs : FileSystem} {purpose : Purpose} {links : Nat}
    {here : Location} {names : List String} {place : Place}
    (h : Leads fs purpose links here names place) (hlast : names.getLast? = some "") :
    ∃ l, place = .present l .directory := by
  -- the name that a step leaves is the last one, or the last one is still to come
  have htail : ∀ {name : String} {rest : List String}, (name :: rest).getLast? = some "" →
      rest = [] ∧ name = "" ∨ rest.getLast? = some "" := by
    intro name rest hlast
    cases rest with
    | nil => exact .inl ⟨rfl, by simpa using hlast⟩
    | cons next rest => exact .inr (by rwa [List.getLast?_cons_cons] at hlast)
  induction h with
  | arrive _ => cases hlast
  | stay hhere _ hrest ih =>
    rcases htail hlast with ⟨rfl, -⟩ | hlast
    · cases hrest with
      | arrive hn => exact ⟨_, by rw [Option.some.inj (hn.symm.trans hhere)]⟩
    · exact ih hlast
  | up _ _ hup _ ih =>
    rcases htail hlast with ⟨-, rfl⟩ | hlast
    · cases hup
    · exact ih hlast
  | free _ hname _ =>
    rcases htail hlast with ⟨-, rfl⟩ | hlast
    · cases hname.proper
    · cases hlast
  | inspect _ hname _ _ =>
    rcases htail hlast with ⟨-, rfl⟩ | hlast
    · cases hname.proper
    · cases hlast
  | follow _ hname _ _ _ ih =>
    rcases htail hlast with ⟨-, rfl⟩ | hlast
    · cases hname.proper
    · exact ih (by rw [List.getLast?_append, hlast, Option.some_or])
  | enter _ hname _ _ _ ih =>
    rcases htail hlast with ⟨-, rfl⟩ | hlast
    · cases hname.proper
    · exact ih hlast

/-- A name that has no slashes after it can be created. -/
theorem IsEntry.create {purpose : Purpose} {name : String} {rest : List String}
    (h : IsEntry purpose name rest) (hlast : rest.getLast? ≠ some "") :
    IsEntry .create name rest := by
  refine ⟨h.proper, h.down, ?_, h.short⟩
  cases hslashed : isSlashedFile .create rest with
  | false => rfl
  | true =>
    rw [isSlashedFile, Bool.and_eq_true, Bool.and_eq_true] at hslashed
    obtain ⟨⟨-, hne⟩, hall⟩ := hslashed
    have hne : rest ≠ [] := by simpa using hne
    have hempty : rest.getLast hne = "" := by
      simpa using List.all_eq_true.mp hall _ (List.getLast_mem hne)
    rw [List.getLast?_eq_some_getLast hne, hempty] at hlast
    exact absurd rfl hlast

/-- A walk that reaches a file gets there to write it as well. -/
theorem Leads.create {fs : FileSystem} {links : Nat} {here : Location} {names : List String}
    {place : Place} (h : Leads fs .reach links here names place) {l : Location}
    {content : ByteArray} (hplace : place = .present l (.file content)) :
    Leads fs .create links here names place := by
  have hlast : ∀ {links here names}, Leads fs .reach links here names place →
      names.getLast? ≠ some "" := by
    intro links here names hleads hlast
    obtain ⟨d, hd⟩ := hleads.isDirectory_of_getLast? hlast
    cases hplace.symm.trans hd
  induction h with
  | arrive hhere => exact .arrive hhere
  | stay hhere hname _ ih => exact .stay hhere hname (ih hplace hlast)
  | up hhere hname hup _ ih => exact .up hhere hname hup (ih hplace hlast)
  | free _ _ _ => cases hplace
  | inspect _ _ _ hpurpose => cases hpurpose
  | @follow links here name rest target place hhere hname hnode _ hrest ih =>
    refine .follow hhere (hname.create fun hslash => hlast hrest ?_) hnode (by simp)
      (ih hplace hlast)
    rw [List.getLast?_append, hslash, Option.some_or]
  | enter hhere hname hnode hlink hrest ih =>
    exact .enter hhere (hname.create (hlast hrest)) hnode hlink (ih hplace hlast)

/-- A path that leads to a file can be used to write it. -/
theorem canOpen_of_status {fs : FileSystem} {path : String} {l : Location} {content : ByteArray}
    (h : fs.status path = .ok (l, .file content)) : fs.CanOpen path := by
  unfold status at h
  cases hfind : fs.find .reach path with
  | error e =>
    rw [hfind] at h
    cases h
  | ok place =>
    rw [hfind] at h
    cases place with
    | vacant d name => cases h
    | present m n =>
      cases h
      obtain ⟨hpath, hleads⟩ := find_eq_ok_iff.mp hfind
      exact canOpen_iff.mpr ⟨_, find_eq_ok_iff.mpr ⟨hpath, hleads.create rfl⟩, trivial⟩

/-! ## Before and after some files are written -/

/-- Whether every directory is in a directory. -/
def IsGrounded (fs : FileSystem) : Prop :=
  ∀ l, fs.node? l = some .directory → fs.node? l.dropLast = some .directory

/-- From a file, no name leads on. -/
theorem Leads.eq_nil_of_file {fs : FileSystem} {purpose : Purpose} {links : Nat}
    {here : Location} {names : List String} {place : Place} {content : ByteArray}
    (h : Leads fs purpose links here names place) (hfile : fs.node? here = some (.file content)) :
    names = [] ∧ place = .present here (.file content) := by
  cases h with
  | arrive hn =>
    rw [Option.some.inj (hn.symm.trans hfile)]
    exact ⟨rfl, rfl⟩
  | stay hhere _ _ => cases hhere.symm.trans hfile
  | up hhere _ _ _ => cases hhere.symm.trans hfile
  | free hhere _ _ => cases hhere.symm.trans hfile
  | inspect hhere _ _ _ => cases hhere.symm.trans hfile
  | follow hhere _ _ _ _ => cases hhere.symm.trans hfile
  | enter hhere _ _ _ _ => cases hhere.symm.trans hfile

namespace Frame

variable {ls : List Location} {before after : FileSystem}

/-- What is no file was there before. -/
theorem node?_before (h : Frame ls before after) {l : Location} {n : Node}
    (hn : after.node? l = some n) (hfile : ∀ content, n ≠ .file content) :
    before.node? l = some n := by
  rw [← h.outside l, hn]
  intro hl
  obtain ⟨content, hc⟩ := h.isFile l hl
  exact hfile content (Option.some.inj (hn.symm.trans hc))

theorem node?_before_eq_none (h : Frame ls before after) {l : Location}
    (hn : after.node? l = none) : before.node? l = none := by
  rw [← h.outside l, hn]
  intro hl
  obtain ⟨content, hc⟩ := h.isFile l hl
  cases hn.symm.trans hc

/-- What is new is a file. -/
theorem isFile_of_new (h : Frame ls before after) {l : Location} {n : Node}
    (hn : after.node? l = some n) (hnew : before.node? l = none) :
    ∃ content, n = .file content := by
  by_cases hl : l ∈ ls
  · obtain ⟨content, hc⟩ := h.isFile l hl
    exact ⟨content, Option.some.inj (hn.symm.trans hc)⟩
  · rw [h.outside l hl, hnew] at hn
    cases hn

theorem isGrounded (h : Frame ls before after) (hgrounded : before.IsGrounded) :
    after.IsGrounded := by
  intro l hl
  exact h.node?_directory (hgrounded l (h.node?_before hl (by simp)))

/-- A walk that leads somewhere led to the same place before, unless it is over
where there was nothing. -/
theorem exists_leads_before (h : Frame ls before after) (hgrounded : before.IsGrounded)
    {purpose : Purpose} {links : Nat} {here : Location} {names : List String} {place : Place}
    (hleads : Leads after purpose links here names place)
    (hhere : names ≠ [] ∨ before.node? here ≠ none) :
    ∃ was, Leads before purpose links here names was ∧ Becomes after was place := by
  induction hleads with
  | arrive hn =>
    obtain ⟨m, hm⟩ := Option.ne_none_iff_exists'.mp (hhere.resolve_left (by simp))
    exact ⟨_, .arrive hm, .present hn⟩
  | stay hdir hname _ ih =>
    have hdir := h.node?_before hdir (by simp)
    obtain ⟨was, hwas, hbecomes⟩ := ih (.inr (by simp [hdir]))
    exact ⟨was, .stay hdir hname hwas, hbecomes⟩
  | up hdir hname hup _ ih =>
    have hdir := h.node?_before hdir (by simp)
    obtain ⟨was, hwas, hbecomes⟩ := ih (.inr (by simp [hgrounded _ hdir]))
    exact ⟨was, .up hdir hname hup hwas, hbecomes⟩
  | free hdir hname hn =>
    exact ⟨_, .free (h.node?_before hdir (by simp)) hname (h.node?_before_eq_none hn), .free hn⟩
  | inspect hdir hname hn hpurpose =>
    exact ⟨_, .inspect (h.node?_before hdir (by simp)) hname (h.node?_before hn (by simp)) hpurpose,
      .present hn⟩
  | follow hdir hname hn hgoes _ ih =>
    obtain ⟨was, hwas, hbecomes⟩ := ih (.inl (by simp [Text.pieces, Text.splitOn_ne_nil]))
    exact ⟨was, .follow (h.node?_before hdir (by simp)) hname (h.node?_before hn (by simp)) hgoes
      hwas, hbecomes⟩
  | enter hdir hname hn hlink hrest ih =>
    have hdir := h.node?_before hdir (by simp)
    cases hold : before.node? (_ ++ [_]) with
    | none =>
      -- the name was free, so it is the last one
      obtain ⟨content, rfl⟩ := h.isFile_of_new hn hold
      obtain ⟨rfl, rfl⟩ := hrest.eq_nil_of_file hn
      exact ⟨_, .free hdir hname hold, .created hn⟩
    | some m =>
      obtain ⟨was, hwas, hbecomes⟩ := ih (.inr (by simp [hold]))
      refine ⟨was, .enter hdir hname hold (fun target hm => ?_) hwas, hbecomes⟩
      subst hm
      exact hlink target (Option.some.inj (hn.symm.trans (h.node?_link hold)))

theorem find_before (h : Frame ls before after) (hgrounded : before.IsGrounded)
    {purpose : Purpose} {path : String} {place : Place}
    (hfind : after.find purpose path = .ok place) :
    ∃ was, before.find purpose path = .ok was ∧ Becomes after was place := by
  obtain ⟨hpath, hleads⟩ := find_eq_ok_iff.mp hfind
  rw [h.workingDirectory] at hleads
  obtain ⟨was, hwas, hbecomes⟩ :=
    h.exists_leads_before hgrounded hleads (.inl (by simp [Text.pieces, Text.splitOn_ne_nil]))
  exact ⟨was, find_eq_ok_iff.mpr ⟨hpath, hwas⟩, hbecomes⟩

/-- A path that a file can be opened by stays one. -/
theorem canOpen (h : Frame ls before after) {path : String} (hopen : before.CanOpen path) :
    after.CanOpen path := by
  obtain ⟨place, hfind, htakes⟩ := canOpen_iff.mp hopen
  have hplace := isPlace_of_find hfind
  suffices hnow : ∃ now, Becomes after place now ∧ now.TakesFile by
    obtain ⟨now, hbecomes, hnow⟩ := hnow
    exact canOpen_iff.mpr ⟨now, h.find (.inl rfl) hfind hbecomes, hnow⟩
  cases place with
  | vacant d name =>
    cases hn : after.node? (d ++ [name]) with
    | none => exact ⟨_, .free hn, trivial⟩
    | some n =>
      obtain ⟨content, rfl⟩ := h.isFile_of_new hn hplace
      exact ⟨_, .created hn, trivial⟩
  | present l n =>
    cases n with
    | file content =>
      rcases h.node? hplace with hn | ⟨-, -, content', hn⟩
      · exact ⟨_, .present hn, trivial⟩
      · exact ⟨_, .present hn, trivial⟩
    | directory => cases htakes
    | link target => cases htakes

/-- No other path becomes one that a file can be opened by. -/
theorem canOpen_before (h : Frame ls before after) (hgrounded : before.IsGrounded)
    {path : String} (hopen : after.CanOpen path) : before.CanOpen path := by
  obtain ⟨place, hfind, htakes⟩ := canOpen_iff.mp hopen
  obtain ⟨was, hwas, hbecomes⟩ := h.find_before hgrounded hfind
  refine canOpen_iff.mpr ⟨was, hwas, ?_⟩
  cases hbecomes with
  | created _ => trivial
  | free _ => trivial
  | @present l m n hn =>
    have hm : before.node? l = some m := isPlace_of_find hwas
    cases m with
    | file content => trivial
    | directory =>
      obtain rfl := Option.some.inj (hn.symm.trans (h.node?_directory hm))
      exact htakes
    | link target =>
      obtain rfl := Option.some.inj (hn.symm.trans (h.node?_link hm))
      exact htakes

end Frame
end FileSystem
end SyntaxCorpus
