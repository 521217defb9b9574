/-
SyntaxCorpus.Proofs.FileSystem.Frame — what stays when some files are written.

`Frame ls before after` says that only the files at the locations `ls` are
different: each of them is a file now, and was a file or free before. Links
and directories stay, so paths still lead where they led.

* `Frame.leads` — walks lead where they led; one that led to a free name leads
  to the file that is there now.
* `Frame.status_eq`, `Frame.read_eq` — a path that leads to none of the files
  gives what it gave.
* `Frame.read_opened` — the path that a file was opened by leads to the file,
  however much was written since.
* `exists_write`, `read_write` — a file that can be opened can be written, and has
  what was written.
-/
import SyntaxCorpus.Proofs.FileSystem.Walk

namespace SyntaxCorpus

/-- Bytes put over the end of a content are added to it. -/
theorem overwrite_end (content bytes : ByteArray) :
    overwrite content content.size bytes = content ++ bytes := by
  have hgap : (⟨Array.replicate (content.size - content.size) 0⟩ : ByteArray) = .empty := by
    rw [Nat.sub_self]
    rfl
  have hback : content.extract (content.size + bytes.size) content.size = .empty := by
    rw [ByteArray.extract_eq_empty_iff]
    omega
  rw [overwrite, hgap, hback, ByteArray.extract_zero_size, ByteArray.append_empty,
    ByteArray.append_empty]

namespace FileSystem

/-! ## Frames -/

/-- Only the files at some locations are different. -/
structure Frame (ls : List Location) (before after : FileSystem) : Prop where
  workingDirectory : after.workingDirectory = before.workingDirectory
  outside : ∀ l, l ∉ ls → after.node? l = before.node? l
  wasFile : ∀ l ∈ ls, before.node? l = none ∨ ∃ content, before.node? l = some (.file content)
  isFile : ∀ l ∈ ls, ∃ content, after.node? l = some (.file content)

namespace Frame

variable {ls ms : List Location} {before after later : FileSystem}

theorem refl (fs : FileSystem) : Frame [] fs fs :=
  ⟨rfl, fun _ _ => rfl, by simp, by simp⟩

theorem trans (h : Frame ls before after) (h' : Frame ms after later) :
    Frame (ls ++ ms) before later := by
  refine ⟨h'.workingDirectory.trans h.workingDirectory, fun l hl => ?_, fun l hl => ?_,
    fun l hl => ?_⟩
  · rw [List.mem_append, not_or] at hl
    rw [h'.outside l hl.2, h.outside l hl.1]
  · by_cases hls : l ∈ ls
    · exact h.wasFile l hls
    · rw [← h.outside l hls]
      exact h'.wasFile l ((List.mem_append.mp hl).resolve_left hls)
  · by_cases hms : l ∈ ms
    · exact h'.isFile l hms
    · rw [h'.outside l hms]
      exact h.isFile l ((List.mem_append.mp hl).resolve_right hms)

/-- More files may be different. -/
theorem mono (h : Frame ls before after) (hsub : ls ⊆ ms)
    (hfile : ∀ l ∈ ms, ∃ content, after.node? l = some (.file content)) :
    Frame ms before after := by
  refine ⟨h.workingDirectory, fun l hl => h.outside l fun hls => hl (hsub hls), fun l hl => ?_,
    hfile⟩
  by_cases hls : l ∈ ls
  · exact h.wasFile l hls
  · rw [← h.outside l hls]
    exact .inr (hfile l hl)

/-- The same files may be written again. -/
theorem trans_same (h : Frame ls before after) (h' : Frame ls after later) :
    Frame ls before later :=
  (h.trans h').mono (by simp) h'.isFile

/-- A file written at a location where a file may be. -/
theorem set_file (fs : FileSystem) {l : Location} (hl : l ≠ [])
    (hwas : fs.node? l = none ∨ ∃ content, fs.node? l = some (.file content))
    (content : ByteArray) : Frame [l] fs (fs.set l (.file content)) := by
  refine ⟨workingDirectory_set fs l _, fun m hm => ?_, fun m hm => ?_, fun m hm => ?_⟩
  · rw [node?_set fs hl, if_neg (by simpa using hm)]
  · obtain rfl := List.mem_singleton.mp hm
    exact hwas
  · obtain rfl := List.mem_singleton.mp hm
    exact ⟨content, by rw [node?_set fs hl, if_pos rfl]⟩

theorem ne_nil_of_isFile {fs : FileSystem} {l : Location}
    (hl : ∃ content, fs.node? l = some (.file content)) : l ≠ [] := by
  rintro rfl
  obtain ⟨content, hn⟩ := hl
  cases hn

theorem writeAt {fs : FileSystem} {l : Location}
    (hl : ∃ content, fs.node? l = some (.file content)) (offset : Nat) (bytes : ByteArray) :
    Frame [l] fs (fs.writeAt l offset bytes) := by
  have hne := ne_nil_of_isFile hl
  obtain ⟨content, hn⟩ := hl
  simp only [FileSystem.writeAt, hn]
  exact set_file fs hne (.inr ⟨content, hn⟩) _

/-- What is not a file stays. -/
theorem node? (h : Frame ls before after) {l : Location} {n : Node}
    (hn : before.node? l = some n) :
    after.node? l = some n ∨
      (∃ c, n = .file c) ∧ l ∈ ls ∧ ∃ content, after.node? l = some (.file content) := by
  by_cases hl : l ∈ ls
  · refine .inr ⟨?_, hl, h.isFile l hl⟩
    rcases h.wasFile l hl with hnone | ⟨c, hc⟩
    · rw [hnone] at hn
      cases hn
    · rw [hc] at hn
      exact ⟨c, (Option.some.inj hn).symm⟩
  · rw [h.outside l hl]
    exact .inl hn

theorem node?_directory (h : Frame ls before after) {l : Location}
    (hn : before.node? l = some .directory) : after.node? l = some .directory := by
  rcases h.node? hn with hn | ⟨⟨c, hc⟩, -⟩
  · exact hn
  · cases hc

theorem node?_link (h : Frame ls before after) {l : Location} {target : String}
    (hn : before.node? l = some (.link target)) : after.node? l = some (.link target) := by
  rcases h.node? hn with hn | ⟨⟨c, hc⟩, -⟩
  · exact hn
  · cases hc

/-- What is at a place later: where a name was free, it still is, or there is a
file. -/
inductive Becomes (after : FileSystem) : Place → Place → Prop
  | present {l n n'} (hn : after.node? l = some n') : Becomes after (.present l n) (.present l n')
  | created {d name content} (hn : after.node? (d ++ [name]) = some (.file content)) :
      Becomes after (.vacant d name) (.present (d ++ [name]) (.file content))
  | free {d name} (hn : after.node? (d ++ [name]) = none) :
      Becomes after (.vacant d name) (.vacant d name)

theorem isEntry_of_create {p q : Purpose} (hq : q = p ∨ p = .create ∧ q = .reach) {name : String}
    {rest : List String} (h : IsEntry p name rest) : IsEntry q name rest := by
  rcases hq with rfl | ⟨rfl, rfl⟩
  · exact h
  · exact ⟨h.proper, h.down, rfl, h.short⟩

/-- Walks lead where they led. A walk to a place for a new file becomes a walk
to the file. -/
theorem leads (h : Frame ls before after) {p q : Purpose}
    (hq : q = p ∨ p = .create ∧ q = .reach) {links : Nat} {here : Location}
    {names : List String} {place place' : Place} (hleads : Leads before p links here names place)
    (hbecomes : Becomes after place place') : Leads after q links here names place' := by
  induction hleads with
  | arrive hhere =>
    cases hbecomes with
    | present hn => exact .arrive hn
  | stay hhere hname _ ih => exact .stay (h.node?_directory hhere) hname (ih hbecomes)
  | up hhere hname hup _ ih => exact .up (h.node?_directory hhere) hname hup (ih hbecomes)
  | free hhere hname hnode =>
    cases hbecomes with
    | created hn =>
      exact .enter (h.node?_directory hhere) (isEntry_of_create hq hname) hn (by simp) (.arrive hn)
    | free hn => exact .free (h.node?_directory hhere) (isEntry_of_create hq hname) hn
  | inspect hhere hname hnode hpurpose =>
    subst hpurpose
    obtain rfl : q = .inspect := by simpa using hq
    cases hbecomes with
    | present hn =>
      rw [h.node?_link hnode] at hn
      obtain rfl := Option.some.inj hn
      exact .inspect (h.node?_directory hhere) hname (h.node?_link hnode) rfl
  | follow hhere hname hnode hgoes _ ih =>
    refine .follow (h.node?_directory hhere) (isEntry_of_create hq hname) (h.node?_link hnode) ?_
      (ih hbecomes)
    rcases hq with rfl | ⟨rfl, rfl⟩
    · exact hgoes
    · simp
  | enter hhere hname hnode hlink _ ih =>
    rcases h.node? hnode with hn | ⟨-, -, content, hn⟩
    · exact .enter (h.node?_directory hhere) (isEntry_of_create hq hname) hn hlink (ih hbecomes)
    · exact .enter (h.node?_directory hhere) (isEntry_of_create hq hname) hn (by simp)
        (ih hbecomes)

/-! ## Paths -/

/-- Paths lead where they led. -/
theorem find (h : Frame ls before after) {p q : Purpose}
    (hq : q = p ∨ p = .create ∧ q = .reach) {path : String} {place place' : Place}
    (hfind : before.find p path = .ok place) (hbecomes : Becomes after place place') :
    after.find q path = .ok place' := by
  obtain ⟨hpath, hleads⟩ := find_eq_ok_iff.mp hfind
  rw [← h.workingDirectory] at hleads
  exact find_eq_ok_iff.mpr ⟨hpath, h.leads hq hleads hbecomes⟩

theorem status (h : Frame ls before after) {path : String} {l : Location} {n n' : Node}
    (hstatus : before.status path = .ok (l, n)) (hn : after.node? l = some n') :
    after.status path = .ok (l, n') := by
  unfold FileSystem.status at hstatus ⊢
  cases hfind : before.find .reach path with
  | error e =>
    rw [hfind] at hstatus
    cases hstatus
  | ok place =>
    rw [hfind] at hstatus
    cases place with
    | vacant d name => cases hstatus
    | present m k =>
      cases hstatus
      rw [h.find (.inl rfl) hfind (.present hn)]
      rfl

/-- A path that leads to none of the files that were written leads to the same
thing. -/
theorem status_eq (h : Frame ls before after) {path : String} {l : Location} {n : Node}
    (hstatus : before.status path = .ok (l, n)) (hl : l ∉ ls) :
    after.status path = .ok (l, n) := by
  refine h.status hstatus ?_
  rw [h.outside l hl]
  exact node?_of_status hstatus

/-- So a file that is none of them has the same content. -/
theorem read_eq (h : Frame ls before after) {path : String} {l : Location} {n : Node}
    (hstatus : before.status path = .ok (l, n)) (hl : l ∉ ls) :
    after.read path = before.read path := by
  rw [FileSystem.read, FileSystem.read, hstatus, h.status_eq hstatus hl]

/-- A path that leads to a file leads to a file. -/
theorem exists_read (h : Frame ls before after) {path : String} {l : Location}
    {content : ByteArray} (hstatus : before.status path = .ok (l, .file content)) :
    ∃ content, after.read path = .ok content := by
  have hfile : ∃ content, after.node? l = some (.file content) := by
    rcases h.node? (node?_of_status hstatus) with hn | ⟨-, -, hfile⟩
    · exact ⟨content, hn⟩
    · exact hfile
  obtain ⟨content', hn⟩ := hfile
  refine ⟨content', ?_⟩
  rw [FileSystem.read, h.status hstatus hn]
  rfl

end Frame

/-! ## Opened files -/

theorem node?_writeAt {fs : FileSystem} {l : Location} {content : ByteArray}
    (hn : fs.node? l = some (.file content)) (offset : Nat) (bytes : ByteArray) :
    (fs.writeAt l offset bytes).node? l = some (.file (overwrite content offset bytes)) := by
  simp only [writeAt, hn]
  rw [node?_set fs (Frame.ne_nil_of_isFile ⟨content, hn⟩), if_pos rfl]

/-- A file that is opened is at a location that was free or a file, and it is
empty. -/
theorem openForWriting_eq_ok {fs fs' : FileSystem} {path : String} {l : Location}
    (h : fs.openForWriting path = .ok (l, fs')) :
    l ≠ [] ∧ (fs.node? l = none ∨ ∃ content, fs.node? l = some (.file content)) ∧
      fs' = fs.set l (.file .empty) ∧
      ∃ place, fs.find .create path = .ok place ∧
        ∀ (after : FileSystem) (content : ByteArray), after.node? l = some (.file content) →
          Frame.Becomes after place (.present l (.file content)) := by
  unfold openForWriting at h
  cases hfind : fs.find .create path with
  | error e =>
    rw [hfind] at h
    cases h
  | ok place =>
    have hplace := isPlace_of_find hfind
    rw [hfind] at h
    cases place with
    | present m n =>
      cases n with
      | file content =>
        cases h
        refine ⟨?_, .inr ⟨content, hplace⟩, rfl, _, rfl, fun _ _ hn => .present hn⟩
        rintro rfl
        cases hplace
      | directory => cases h
      | link target => cases h
    | vacant d name =>
      cases h
      exact ⟨by simp, .inl hplace, rfl, _, rfl, fun _ _ hn => .created hn⟩

theorem Frame.openForWriting {fs fs' : FileSystem} {path : String} {l : Location}
    (h : fs.openForWriting path = .ok (l, fs')) : Frame [l] fs fs' := by
  obtain ⟨hl, hwas, rfl, -⟩ := openForWriting_eq_ok h
  exact Frame.set_file fs hl hwas .empty

theorem node?_openForWriting {fs fs' : FileSystem} {path : String} {l : Location}
    (h : fs.openForWriting path = .ok (l, fs')) : fs'.node? l = some (.file .empty) := by
  obtain ⟨hl, -, rfl, -⟩ := openForWriting_eq_ok h
  rw [node?_set fs hl, if_pos rfl]

/-- The path that a file was opened by leads to the file. -/
theorem Frame.read_opened {ls : List Location} {fs fs' after : FileSystem} {path : String}
    {l : Location} {content : ByteArray} (h : fs.openForWriting path = .ok (l, fs'))
    (hframe : Frame ls fs after) (hn : after.node? l = some (.file content)) :
    after.read path = .ok content := by
  obtain ⟨-, -, -, place, hfind, hbecomes⟩ := openForWriting_eq_ok h
  rw [FileSystem.read, FileSystem.status,
    hframe.find (.inr ⟨rfl, rfl⟩) hfind (hbecomes after content hn)]
  rfl

theorem write_eq_error {fs : FileSystem} {path : String} {content : ByteArray} {e : FileError}
    (h : fs.openForWriting path = .error e) : fs.write path content = .error e := by
  rw [write, h]
  rfl

/-- A file that can be opened can be written; it has what was written, and
nothing else is different. -/
theorem exists_write {fs fs' : FileSystem} {path : String} {l : Location}
    (h : fs.openForWriting path = .ok (l, fs')) (content : ByteArray) :
    ∃ after, fs.write path content = .ok after ∧ Frame [l] fs after ∧
      after.read path = .ok content := by
  have hempty := node?_openForWriting h
  have hframe := (Frame.openForWriting h).trans_same (Frame.writeAt ⟨_, hempty⟩ 0 content)
  have hwritten := node?_writeAt hempty 0 content
  have hover : overwrite .empty 0 content = content := by simpa using overwrite_end .empty content
  rw [hover] at hwritten
  refine ⟨fs'.writeAt l 0 content, ?_, hframe, hframe.read_opened h hwritten⟩
  rw [write, h]
  rfl

/-- A file that is written has what was written, and nothing else. -/
theorem read_write {fs after : FileSystem} {path : String} {content : ByteArray}
    (h : fs.write path content = .ok after) : after.read path = .ok content := by
  cases hopen : fs.openForWriting path with
  | error e => cases (write_eq_error hopen).symm.trans h
  | ok opened =>
    obtain ⟨after', hwrite, -, hread⟩ := exists_write hopen content
    obtain rfl := Except.ok.inj (hwrite.symm.trans h)
    exact hread

end FileSystem
end SyntaxCorpus
