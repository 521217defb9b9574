/-
SyntaxCorpus.Proofs.Grammar.Session — which grammar a call uses.

Threads call the parser in any order, and loading a grammar may succeed at one
time and fail at another. What a thread has loaded is told by what happened: it
asked for a grammar and got one.

* `Turn` — a call by a thread, with the grammars as they are then.
* `Session.before` — the session before a turn of a run.
* `LoadsAt` — a turn of a run loads a grammar for a thread and a language.
* `grammar?_before_iff` — the session holds what the turns before have loaded, and
  nothing else.
* `Served` — what a turn asks for, and what it uses.
* `filter_replies` — a thread sees nothing of the turns of the others.
* `parse_servedByThread` — every thread is served with its own grammars, in every
  run.
-/
import SyntaxCorpus.Proofs.Grammar.Answer

namespace SyntaxCorpus

/-- A call of the parser by a thread, and the grammars as they are at that
time. -/
structure Turn (γ : Type) where
  thread : String
  call : ParseCall
  grammars : Grammars γ

/-- What a turn shows: its thread, its result, and what it did with
grammars. -/
structure Reply where
  thread : String
  result : Except GrammarFailure (Tree Label)
  use : GrammarUse

namespace Session

variable {γ : Type}

/-- What a turn shows in a session. -/
def reply (s : Session γ) (t : Turn γ) : Reply :=
  ⟨t.thread, (s.parse t.grammars t.thread t.call).1, (s.parse t.grammars t.thread t.call).2.1⟩

/-- The session after a turn. -/
def next (s : Session γ) (t : Turn γ) : Session γ :=
  (s.parse t.grammars t.thread t.call).2.2

/-- What the turns of a run show. -/
def replies (s : Session γ) : List (Turn γ) → List Reply
  | [] => []
  | t :: turns => s.reply t :: (s.next t).replies turns

/-- The session before the turn at a place of a run. -/
def before (turns : List (Turn γ)) (i : Nat) : Session γ :=
  (turns.take i).foldl next start

/-! ## A turn -/

section

variable {s : Session γ} {t : Turn γ} {wrapper : Option Wrapper} {source : ByteArray} {g : γ}
  {asked : Option String}

theorem grammar?_add (s : Session γ) (thread language : String) (g : γ)
    (thread' language' : String) :
    (s.add thread language g).grammar? thread' language' =
      if thread' = thread ∧ language' = language then some g
      else s.grammar? thread' language' := by
  simp only [grammar?, add, List.find?_cons]
  by_cases h : thread' = thread ∧ language' = language
  · obtain ⟨rfl, rfl⟩ := h
    simp
  · have hne : ((thread, language) == (thread', language')) = false := by
      rw [beq_eq_false_iff_ne]
      rintro heq
      exact h ⟨(congrArg Prod.fst heq).symm, (congrArg Prod.snd heq).symm⟩
    rw [hne, if_neg h]

/-- A turn with a grammar that its thread has. -/
theorem parse_kept (hcall : Prepares t.call wrapper source)
    (h : s.grammar? t.thread t.call.language = some g) :
    s.parse t.grammars t.thread t.call
      = (parseWith t.grammars g wrapper source, ⟨none, some source⟩, s) := by
  rw [hcall.parse, parseIn, h]

/-- A turn that loads a grammar. -/
theorem parse_new (hcall : Prepares t.call wrapper source)
    (h : s.grammar? t.thread t.call.language = none)
    (hload : t.grammars.load t.call.language = .ok g) :
    s.parse t.grammars t.thread t.call
      = (parseWith t.grammars g wrapper source, ⟨some t.call.language, some source⟩,
        s.add t.thread t.call.language g) := by
  rw [hcall.parse, parseIn, h, hload]

/-- A turn whose grammar does not load. -/
theorem parse_unloaded {c : Crash} (hcall : Prepares t.call wrapper source)
    (h : s.grammar? t.thread t.call.language = none)
    (hload : t.grammars.load t.call.language = .error c) :
    s.parse t.grammars t.thread t.call
      = (.error (.crashed c), ⟨some t.call.language, none⟩, s) := by
  rw [hcall.parse, parseIn_of_error h hload]

/-- Whether a call has a source to be parsed. -/
def IsPrepared (call : ParseCall) : Prop := ∃ wrapper source, Prepares call wrapper source

theorem parse_unprepared (h : ¬ IsPrepared t.call) :
    s.parse t.grammars t.thread t.call
      = (.error (.language (.noWrapper t.call.language)), ⟨none, none⟩, s) := by
  obtain ⟨hmethod, hname⟩ := (prepares_or_error t.call).resolve_left h
  exact parse_of_error hmethod hname

/-- A turn asks for a grammar exactly if it has a source to be parsed and its
thread has no grammar for its language. -/
theorem loaded_eq_some_iff {language : String} :
    (s.reply t).use.loaded = some language ↔
      language = t.call.language ∧ IsPrepared t.call ∧
        s.grammar? t.thread t.call.language = none := by
  unfold reply
  by_cases hprepared : IsPrepared t.call
  · obtain ⟨wrapper, source, hcall⟩ := hprepared
    have hprepared : IsPrepared t.call := ⟨wrapper, source, hcall⟩
    cases h : s.grammar? t.thread t.call.language with
    | some g => simp [parse_kept hcall h]
    | none =>
      cases hload : t.grammars.load t.call.language with
      | ok g => simp [parse_new hcall h hload, hprepared, eq_comm]
      | error c => simp [parse_unloaded hcall h hload, hprepared, eq_comm]
  · simp [parse_unprepared hprepared, hprepared]

/-- What a session has after a turn: what it had, and what the turn has
loaded. -/
theorem grammar?_next (s : Session γ) (t : Turn γ) (thread language : String) (g : γ) :
    (s.next t).grammar? thread language = some g ↔
      s.grammar? thread language = some g ∨
        t.thread = thread ∧ (s.reply t).use.loaded = some language ∧
          t.grammars.load language = .ok g := by
  rw [loaded_eq_some_iff, next]
  by_cases hprepared : IsPrepared t.call
  · obtain ⟨wrapper, source, hcall⟩ := hprepared
    have hprepared : IsPrepared t.call := ⟨wrapper, source, hcall⟩
    cases h : s.grammar? t.thread t.call.language with
    | some kept => simp [parse_kept hcall h]
    | none =>
      cases hload : t.grammars.load t.call.language with
      | error c =>
        rw [parse_unloaded hcall h hload]
        refine ⟨.inl, fun hor => hor.resolve_right ?_⟩
        rintro ⟨-, ⟨rfl, -⟩, hok⟩
        rw [hload] at hok
        cases hok
      | ok new =>
        rw [parse_new hcall h hload, grammar?_add]
        by_cases hsame : thread = t.thread ∧ language = t.call.language
        · obtain ⟨rfl, rfl⟩ := hsame
          simp [h, hload, hprepared]
        · rw [if_neg hsame]
          refine ⟨.inl, fun hor => hor.resolve_right ?_⟩
          rintro ⟨rfl, ⟨rfl, -⟩, -⟩
          exact hsame ⟨rfl, rfl⟩
  · rw [parse_unprepared hprepared]
    simp [hprepared]

/-- A turn changes nothing but the grammar of its thread for its language. -/
theorem grammar?_next_of_ne {thread language : String}
    (h : ¬ (thread = t.thread ∧ language = t.call.language)) :
    (s.next t).grammar? thread language = s.grammar? thread language := by
  refine Option.ext fun g => ?_
  rw [grammar?_next, loaded_eq_some_iff]
  refine ⟨fun hor => hor.resolve_right ?_, .inl⟩
  rintro ⟨rfl, ⟨rfl, -⟩, -⟩
  exact h ⟨rfl, rfl⟩

/-- What a turn shows depends on the grammars of its thread alone. -/
theorem reply_congr {s' : Session γ}
    (h : ∀ language, s'.grammar? t.thread language = s.grammar? t.thread language) :
    s'.reply t = s.reply t := by
  unfold reply
  have hsame := h t.call.language
  by_cases hprepared : IsPrepared t.call
  · obtain ⟨wrapper, source, hcall⟩ := hprepared
    simp only [hcall.parse, parseIn, hsame]
    cases s.grammar? t.thread t.call.language with
    | some g => rfl
    | none => cases t.grammars.load t.call.language <;> rfl
  · rw [parse_unprepared hprepared, parse_unprepared hprepared]

/-- So do the grammars of its thread after it. -/
theorem grammar?_next_congr {s' : Session γ}
    (h : ∀ language, s'.grammar? t.thread language = s.grammar? t.thread language)
    (language : String) :
    (s'.next t).grammar? t.thread language = (s.next t).grammar? t.thread language := by
  refine Option.ext fun g => ?_
  rw [grammar?_next, grammar?_next, reply_congr h, h]

end

/-! ## A run -/

section

variable {turns : List (Turn γ)} {i j k : Nat} {t : Turn γ} {thread language : String} {g : γ}

theorem before_succ (h : turns[k]? = some t) : before turns (k + 1) = (before turns k).next t := by
  rw [before, before, List.take_add_one, h, Option.toList_some, List.foldl_append]
  rfl

theorem before_succ_of_none (h : turns[k]? = none) : before turns (k + 1) = before turns k := by
  rw [before, before, List.take_add_one, h, Option.toList_none, List.append_nil]

/-- The turn at a place of a run asks for a grammar for a thread and a language,
and gets one. -/
def LoadsAt (turns : List (Turn γ)) (i : Nat) (thread language : String) (g : γ) : Prop :=
  ∃ t, turns[i]? = some t ∧ t.thread = thread ∧
    ((before turns i).reply t).use.loaded = some language ∧ t.grammars.load language = .ok g

/-- The session holds what was loaded before. -/
theorem grammar?_before_iff :
    (before turns k).grammar? thread language = some g ↔
      ∃ i < k, LoadsAt turns i thread language g := by
  induction k with
  | zero =>
    rw [before, List.take_zero]
    simp [start, grammar?]
  | succ k ih =>
    have hlast : (∃ i < k + 1, LoadsAt turns i thread language g) ↔
        (∃ i < k, LoadsAt turns i thread language g) ∨ LoadsAt turns k thread language g := by
      simp only [Nat.lt_succ_iff_lt_or_eq, or_and_right, exists_or, exists_eq_left]
    rw [hlast]
    cases hturn : turns[k]? with
    | none =>
      have hnot : ¬ LoadsAt turns k thread language g := by
        rintro ⟨t, ht, -⟩
        rw [hturn] at ht
        cases ht
      rw [before_succ_of_none hturn, ih]
      simp [hnot]
    | some t =>
      have hloads : LoadsAt turns k thread language g ↔ t.thread = thread ∧
          ((before turns k).reply t).use.loaded = some language ∧
            t.grammars.load language = .ok g := by
        simp only [LoadsAt, hturn, Option.some.injEq, exists_eq_left']
      rw [before_succ hturn, grammar?_next, ih, hloads]

theorem grammar?_before_eq_none_iff :
    (before turns k).grammar? thread language = none ↔
      ¬ ∃ i < k, ∃ g, LoadsAt turns i thread language g := by
  rw [Option.eq_none_iff_forall_ne_some]
  simp only [ne_eq, grammar?_before_iff]
  constructor
  · rintro h ⟨i, hi, g, hg⟩
    exact h g ⟨i, hi, hg⟩
  · rintro h g ⟨i, hi, hg⟩
    exact h ⟨i, hi, g, hg⟩

/-- A grammar is not loaded when there is one from an earlier turn. -/
theorem LoadsAt.not_lt {g' : γ} (h : LoadsAt turns j thread language g)
    (h' : LoadsAt turns i thread language g') : ¬ i < j := by
  intro hlt
  obtain ⟨t, -, rfl, hasked, -⟩ := h
  obtain ⟨rfl, -, hnone⟩ := loaded_eq_some_iff.mp hasked
  exact grammar?_before_eq_none_iff.mp hnone ⟨i, hlt, g', h'⟩

theorem LoadsAt.place_eq {g' : γ} (h : LoadsAt turns j thread language g)
    (h' : LoadsAt turns i thread language g') : i = j := by
  have hle := h.not_lt h'
  have hge := h'.not_lt h
  omega

/-- What the turn of a run at a place does: which grammar it asks for, which one
it uses, and what it leaves. -/
structure Served (turns : List (Turn γ)) (k : Nat) (t : Turn γ) : Prop where
  /-- It asks for the grammar of its language exactly if it has a source to be
  parsed and no turn before has loaded that grammar for its thread. -/
  asks : ∀ language, ((before turns k).reply t).use.loaded = some language ↔
    language = t.call.language ∧ IsPrepared t.call ∧
      ¬ ∃ i < k, ∃ g, LoadsAt turns i t.thread t.call.language g
  /-- It uses the grammar that its thread has loaded for its language, with this
  turn or before. -/
  uses : ∀ wrapper source, Prepares t.call wrapper source →
    ∀ i ≤ k, ∀ g, LoadsAt turns i t.thread t.call.language g →
      ((before turns k).reply t).result = parseWith t.grammars g wrapper source ∧
        ((before turns k).reply t).use.parsed = some source
  /-- A grammar that does not load is not kept, and nothing is parsed. -/
  unloaded : ∀ language c, ((before turns k).reply t).use.loaded = some language →
    t.grammars.load language = .error c →
      ((before turns k).reply t).result = .error (.crashed c) ∧
        ((before turns k).reply t).use.parsed = none ∧ before turns (k + 1) = before turns k
  /-- Without a source to be parsed, nothing is asked for, used or changed. -/
  unprepared : ¬ IsPrepared t.call →
    ((before turns k).reply t).result = .error (.language (.noWrapper t.call.language)) ∧
      ((before turns k).reply t).use = ⟨none, none⟩ ∧ before turns (k + 1) = before turns k
  /-- The grammars of other threads and for other languages stay. -/
  others : ∀ thread language, ¬ (thread = t.thread ∧ language = t.call.language) →
    (before turns (k + 1)).grammar? thread language = (before turns k).grammar? thread language

theorem served (h : turns[k]? = some t) : Served turns k t where
  asks language := by
    rw [loaded_eq_some_iff, grammar?_before_eq_none_iff]
  uses wrapper source hcall i hi g hloads := by
    rcases Nat.lt_or_eq_of_le hi with hlt | rfl
    · have hkept := grammar?_before_iff.mpr ⟨i, hlt, hloads⟩
      rw [reply, parse_kept hcall hkept]
      exact ⟨rfl, rfl⟩
    · obtain ⟨u, hu, -, hasked, hload⟩ := hloads
      rw [h] at hu
      obtain rfl := Option.some.inj hu
      obtain ⟨-, -, hnone⟩ := loaded_eq_some_iff.mp hasked
      rw [reply, parse_new hcall hnone hload]
      exact ⟨rfl, rfl⟩
  unloaded language c hasked hload := by
    obtain ⟨rfl, ⟨wrapper, source, hcall⟩, hnone⟩ := loaded_eq_some_iff.mp hasked
    rw [before_succ h, next, reply, parse_unloaded hcall hnone hload]
    exact ⟨rfl, rfl, rfl⟩
  unprepared hunprepared := by
    rw [before_succ h, next, reply, parse_unprepared hunprepared]
    exact ⟨rfl, rfl, rfl⟩
  others thread language hother := by
    rw [before_succ h, grammar?_next_of_ne hother]

end

/-! ## Other threads -/

theorem filter_replies (thread : String) : ∀ (turns : List (Turn γ)) {s s' : Session γ},
    (∀ language, s'.grammar? thread language = s.grammar? thread language) →
      (s.replies turns).filter (·.thread == thread)
        = s'.replies (turns.filter (·.thread == thread)) := by
  intro turns
  induction turns with
  | nil =>
    intro s s' _
    rfl
  | cons t turns ih =>
    intro s s' h
    by_cases hthread : t.thread = thread
    · subst hthread
      have hrest := ih fun language => grammar?_next_congr h language
      rw [replies, List.filter_cons_of_pos (by simp [reply]), hrest,
        List.filter_cons_of_pos (by simp), replies, reply_congr h]
    · have hskip : ∀ language,
          s'.grammar? thread language = (s.next t).grammar? thread language := by
        intro language
        rw [grammar?_next_of_ne fun hsame => hthread hsame.1.symm, h]
      rw [replies, List.filter_cons_of_neg (by simpa [reply] using hthread), ih hskip,
        List.filter_cons_of_neg (by simpa using hthread)]

/-- What holds of a run of calls by any threads. -/
structure ServedByThread (turns : List (Turn γ)) : Prop where
  turn : ∀ k t, turns[k]? = some t → Served turns k t
  /-- The replies of the run are those of its turns. -/
  replies : ∀ k t, turns[k]? = some t →
    (start.replies turns)[k]? = some ((before turns k).reply t)
  /-- A thread loads a grammar for a language once. -/
  once : ∀ i j thread language g g', LoadsAt turns i thread language g →
    LoadsAt turns j thread language g' → i = j
  /-- A thread gets the same replies as if the others made no calls. -/
  apart : ∀ thread, (start.replies turns).filter (·.thread == thread)
    = start.replies (turns.filter (·.thread == thread))

theorem getElem?_replies : ∀ {turns : List (Turn γ)} {s : Session γ} {k : Nat} {t : Turn γ},
    turns[k]? = some t →
      (s.replies turns)[k]? = some (((turns.take k).foldl next s).reply t) := by
  intro turns
  induction turns with
  | nil =>
    intro s k t h
    simp at h
  | cons u turns ih =>
    intro s k t h
    cases k with
    | zero =>
      obtain rfl : u = t := by simpa using h
      rfl
    | succ k => exact ih (s := s.next u) (by simpa using h)

/-- **Every thread is served with its own grammars.** -/
theorem parse_servedByThread (turns : List (Turn γ)) : ServedByThread turns where
  turn _ _ h := served h
  replies _ _ h := getElem?_replies h
  once _ _ _ _ _ _ h h' := h'.place_eq h
  apart thread := filter_replies thread turns fun _ => rfl

end Session
end SyntaxCorpus
