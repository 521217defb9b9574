/-
SyntaxCorpus.Proofs.Batch.Dispatch — every file is handed out and counted once.

`Dispatched` is what the dispatcher keeps up at every moment. The files that
were handed out are known by their positions; each of them is either counted or
still pending, and the tally is that of the counted ones. Which files are
pending depends on the phase: those in flight and those picked while files are
handed out, those picked while the rest is counted, and none in the end.

* `dispatched_initial` — it holds before the first step.
* `Dispatched.step` — every step keeps it.
-/
import Mathlib.Data.List.Perm.Subperm
import SyntaxCorpus.Proofs.Batch.Step

namespace SyntaxCorpus.Batch

/-! ## Steps that the dispatcher does not notice -/

/-- States that are the same to the dispatcher. -/
structure SameDispatch (s s₁ : State) : Prop where
  jobs : s₁.jobs = s.jobs
  phase : s₁.phase = s.phase
  tally : s₁.tally = s.tally
  waiting : s₁.waiting = s.waiting
  inFlight : s₁.inFlight = s.inFlight
  picked : s₁.picked = s.picked

namespace WorkerStep

variable {setup : Setup} {s s₁ : State} {job : Nat} {path : Path} {before after : Stage}

theorem sameDispatch (h : WorkerStep setup s job path before after s₁) : SameDispatch s s₁ := by
  have hlock : ∀ e holder, SameDispatch s (s.setLock e holder) := by
    intro e holder
    unfold State.setLock
    split <;> exact ⟨rfl, rfl, rfl, rfl, rfl, rfl⟩
  have hsinks : ∀ written, SameDispatch s (s.setSinks written) :=
    fun _ => ⟨rfl, rfl, rfl, rfl, rfl, rfl⟩
  cases h with
  | start _ _ => exact ⟨rfl, rfl, rfl, rfl, rfl, rfl⟩
  | work _ => exact ⟨rfl, rfl, rfl, rfl, rfl, rfl⟩
  | fail _ => exact ⟨rfl, rfl, rfl, rfl, rfl, rfl⟩
  | lock _ => exact hlock _ _
  | writeDocument _ _ => exact hsinks _
  | writePath _ _ => exact hsinks _
  | writeFailure _ _ => exact hsinks _
  | unlock e => exact hlock _ _

theorem isOver_before (h : WorkerStep setup s job path before after s₁) :
    before.isOver = false := by
  cases h <;> rfl

theorem after_ne_cancelled (h : WorkerStep setup s job path before after s₁) :
    after ≠ .cancelled := by
  cases h <;> simp

/-- The other files stay where they are. -/
theorem stage?_of_ne (h : WorkerStep setup s job path before after s₁) {i : Nat} (hi : i ≠ job) :
    (s₁.setStage job after).stage? i = s.stage? i := by
  rw [State.stage?_setStage_ne hi, State.stage?, State.stage?, h.sameDispatch.jobs]

theorem stage?_self (h : WorkerStep setup s job path before after s₁)
    (hjob : s.jobs[job]? = some ⟨path, before⟩) :
    (s₁.setStage job after).stage? job = some after := by
  refine State.stage?_setStage_self ?_
  rw [State.stage?, h.sameDispatch.jobs, hjob]
  simp

/-- A file that is done stays done. -/
theorem stage?_of_over (h : WorkerStep setup s job path before after s₁)
    (hjob : s.jobs[job]? = some ⟨path, before⟩) {i : Nat} {stage : Stage}
    (hi : s.stage? i = some stage) (hover : stage.isOver = true) :
    (s₁.setStage job after).stage? i = some stage := by
  rw [h.stage?_of_ne, hi]
  rintro rfl
  rw [State.stage?_of_getElem? hjob] at hi
  obtain rfl : before = stage := Option.some.inj hi
  rw [h.isOver_before] at hover
  cases hover

end WorkerStep

/-! ## The invariant of the dispatcher -/

/-- Whether a file is done and was accepted. -/
def State.isAccepted (s : State) (i : Nat) : Bool :=
  match s.stage? i with
  | some (.done (.ok accepted)) => accepted
  | _ => false

/-- Whether a file is done and ends the batch. -/
def State.Stops (s : State) (stop : FileStop) : Prop :=
  ∃ i, s.stage? i = some (.done (.error stop))

/-- What a batch has come to when it has ended: nothing is left to do, or a
file ended it. -/
def State.EndsAs (s : State) (pending : List Nat) : Except FileStop Unit → Prop
  | .ok _ => pending = [] ∧ s.waiting = []
  | .error stop => s.Stops stop

/-- What the dispatcher keeps up: `counted` are the files in the tally,
`pending` the others that were handed out. -/
structure Dispatched (setup : Setup) (paths : List Path) (counted pending : List Nat)
    (s : State) : Prop where
  handedOut : s.jobs.map (·.path) ++ s.waiting = paths
  once : (counted ++ pending).Perm (List.range s.jobs.length)
  countedDone : ∀ i ∈ counted, ∃ accepted, s.stage? i = some (.done (.ok accepted))
  pickedDone : ∀ i ∈ s.picked, s.isDone i = true
  total : s.tally.total = paths.length
  accepted : s.tally.accepted = counted.countP s.isAccepted
  rejected : s.tally.rejected = counted.countP fun i => !s.isAccepted i
  room : s.inFlight.length ≤ setup.options.workers
  dispatching : s.phase = .dispatching →
    pending.Perm (s.inFlight ++ s.picked) ∧ (s.waiting = [] → s.inFlight ≠ [])
  draining : s.phase = .draining → pending.Perm s.picked ∧ s.waiting = []
  stopping : ∀ stop, s.phase = .stopping stop → s.picked = [] ∧ s.Stops stop
  ended : ∀ r, s.phase = .ended r → s.picked = [] ∧
    (∀ job ∈ s.jobs, job.stage.isOver = true) ∧ s.EndsAs pending r
  cancelled : ∀ i, s.stage? i = some .cancelled →
    ∃ stop, s.phase = .stopping stop ∨ s.phase = .ended (.error stop)

section

variable {setup : Setup} {paths : List Path} {counted pending : List Nat} {s s' : State}

theorem dispatched_initial (files : FileSystem) (sinks : Sinks) (hne : paths ≠ []) :
    Dispatched setup paths [] [] (initial files sinks paths) where
  handedOut := rfl
  once := .refl _
  countedDone := by simp
  pickedDone := by simp [initial]
  total := rfl
  accepted := rfl
  rejected := rfl
  room := Nat.zero_le _
  dispatching := fun _ => ⟨.refl _, fun hnil => absurd hnil hne⟩
  draining := fun h => by cases h
  stopping := fun _ h => by cases h
  ended := fun _ h => by cases h
  cancelled := fun i h => by cases h

theorem isAccepted_congr {i : Nat} (h : s'.stage? i = s.stage? i) :
    s'.isAccepted i = s.isAccepted i := by
  rw [State.isAccepted, State.isAccepted, h]

theorem isDone_of_stage? {i : Nat} {r : Except FileStop Bool} (h : s.stage? i = some (.done r)) :
    s.isDone i = true := by
  rw [State.isDone, h]

theorem exists_of_isDone {i : Nat} (h : s.isDone i = true) :
    ∃ r, s.stage? i = some (.done r) := by
  unfold State.isDone at h
  split at h
  · rename_i r hstage
    exact ⟨r, hstage⟩
  · cases h

namespace Dispatched

/-- The tally depends on the counted files alone, and these are done. -/
theorem tally_congr (h : Dispatched setup paths counted pending s)
    (hdone : ∀ i r, s.stage? i = some (.done r) → s'.stage? i = some (.done r)) :
    counted.countP s'.isAccepted = counted.countP s.isAccepted ∧
      (counted.countP fun i => !s'.isAccepted i) = counted.countP fun i => !s.isAccepted i := by
  have hsame : ∀ i ∈ counted, s'.isAccepted i = s.isAccepted i := by
    intro i hi
    obtain ⟨accepted, hstage⟩ := h.countedDone i hi
    exact isAccepted_congr ((hdone i _ hstage).trans hstage.symm)
  constructor
  · exact List.countP_congr fun i hi => by rw [hsame i hi]
  · exact List.countP_congr fun i hi => by rw [hsame i hi]

/-- A step after which the files that are done are still done, and the
dispatcher is where it was. -/
theorem of_same (h : Dispatched setup paths counted pending s)
    (hphase : s'.phase = s.phase) (htally : s'.tally = s.tally) (hwaiting : s'.waiting = s.waiting)
    (hinFlight : s'.inFlight = s.inFlight) (hpicked : s'.picked = s.picked)
    (hpaths : s'.jobs.map (·.path) = s.jobs.map (·.path))
    (hdone : ∀ i r, s.stage? i = some (.done r) → s'.stage? i = some (.done r))
    (hover : (∀ job ∈ s.jobs, job.stage.isOver = true) → ∀ job ∈ s'.jobs, job.stage.isOver = true)
    (hcancelled : ∀ i, s'.stage? i = some .cancelled → s.stage? i = some .cancelled) :
    Dispatched setup paths counted pending s' := by
  have hlength : s'.jobs.length = s.jobs.length := by
    simpa using congrArg List.length hpaths
  have hstops : ∀ stop, s.Stops stop → s'.Stops stop :=
    fun stop ⟨i, hi⟩ => ⟨i, hdone i _ hi⟩
  obtain ⟨haccepted, hrejected⟩ := h.tally_congr hdone
  exact {
    handedOut := by
      rw [hpaths, hwaiting, h.handedOut]
    once := by
      rw [hlength]
      exact h.once
    countedDone := by
      intro i hi
      obtain ⟨accepted, hstage⟩ := h.countedDone i hi
      exact ⟨accepted, hdone i _ hstage⟩
    pickedDone := by
      intro i hi
      rw [hpicked] at hi
      obtain ⟨r, hr⟩ := exists_of_isDone (h.pickedDone i hi)
      exact isDone_of_stage? (hdone i r hr)
    total := by
      rw [htally, h.total]
    accepted := by
      rw [htally, h.accepted, haccepted]
    rejected := by
      rw [htally, h.rejected, hrejected]
    room := by
      rw [hinFlight]
      exact h.room
    dispatching := by
      rw [hphase, hinFlight, hpicked, hwaiting]
      exact h.dispatching
    draining := by
      rw [hphase, hpicked, hwaiting]
      exact h.draining
    stopping := by
      intro stop hstop
      rw [hphase] at hstop
      obtain ⟨hnil, hstops'⟩ := h.stopping stop hstop
      exact ⟨by rw [hpicked, hnil], hstops stop hstops'⟩
    ended := by
      intro r hr
      rw [hphase] at hr
      obtain ⟨hnil, hall, hresult⟩ := h.ended r hr
      refine ⟨by rw [hpicked, hnil], hover hall, ?_⟩
      cases r with
      | ok _ => exact ⟨hresult.1, hwaiting.trans hresult.2⟩
      | error stop => exact hstops stop hresult
    cancelled := by
      intro i hi
      rw [hphase]
      exact h.cancelled i (hcancelled i hi)
  }

theorem worker (h : Dispatched setup paths counted pending s) {job : Nat} {path : Path}
    {before after : Stage} {s₁ : State} (hjob : s.jobs[job]? = some ⟨path, before⟩)
    (hstep : WorkerStep setup s job path before after s₁) :
    Dispatched setup paths counted pending (s₁.setStage job after) := by
  have hsame := hstep.sameDispatch
  refine h.of_same hsame.phase hsame.tally hsame.waiting hsame.inFlight hsame.picked ?_ ?_ ?_ ?_
  · rw [State.map_path_setStage, hsame.jobs]
  · exact fun i r hi => hstep.stage?_of_over hjob hi rfl
  · intro hall
    have hover := hall _ (List.mem_of_getElem? hjob)
    rw [hstep.isOver_before] at hover
    cases hover
  · intro i hi
    by_cases heq : i = job
    · subst heq
      rw [hstep.stage?_self hjob] at hi
      exact absurd (Option.some.inj hi) hstep.after_ne_cancelled
    · rw [hstep.stage?_of_ne heq] at hi
      exact hi

theorem submit (h : Dispatched setup paths counted pending s) {path : Path} {rest : List Path}
    (hphase : s.phase = .dispatching) (hwaiting : s.waiting = path :: rest)
    (hroom : s.inFlight.length < setup.options.workers) :
    Dispatched setup paths counted (pending ++ [s.jobs.length]) { s with
      waiting := rest
      jobs := s.jobs ++ [⟨path, .queued⟩]
      inFlight := s.inFlight ++ [s.jobs.length] } := by
  obtain ⟨hpending, -⟩ := h.dispatching hphase
  have hold : ∀ i stage, s.stage? i = some stage →
      State.stage? { s with
        waiting := rest
        jobs := s.jobs ++ [⟨path, .queued⟩]
        inFlight := s.inFlight ++ [s.jobs.length] } i = some stage := by
    intro i stage hi
    obtain ⟨q, hq⟩ := State.stage?_eq_some.mp hi
    obtain ⟨hlt, -⟩ := List.getElem?_eq_some_iff.mp hq
    refine State.stage?_eq_some.mpr ⟨q, ?_⟩
    rw [List.getElem?_append_left hlt]
    exact hq
  obtain ⟨haccepted, hrejected⟩ := h.tally_congr fun i r => hold i (.done r)
  exact {
    handedOut := by
      simp only [List.map_append, List.map_cons, List.map_nil, List.append_assoc,
        List.singleton_append]
      rw [← hwaiting]
      exact h.handedOut
    once := by
      rw [← List.append_assoc, List.length_append, List.length_singleton, List.range_succ]
      exact h.once.append_right _
    countedDone := by
      intro i hi
      obtain ⟨accepted, hstage⟩ := h.countedDone i hi
      exact ⟨accepted, hold i _ hstage⟩
    pickedDone := by
      intro i hi
      obtain ⟨r, hr⟩ := exists_of_isDone (h.pickedDone i hi)
      exact isDone_of_stage? (hold i _ hr)
    total := h.total
    accepted := h.accepted.trans haccepted.symm
    rejected := h.rejected.trans hrejected.symm
    room := by
      rw [List.length_append, List.length_singleton]
      exact hroom
    dispatching := by
      intro _
      refine ⟨?_, fun _ => by simp⟩
      refine (hpending.append_right _).trans ?_
      rw [List.append_assoc, List.append_assoc]
      exact List.perm_append_comm.append_left _
    draining := by
      intro hdraining
      rw [hphase] at hdraining
      cases hdraining
    stopping := by
      intro stop hstop
      rw [hphase] at hstop
      cases hstop
    ended := by
      intro r hr
      rw [hphase] at hr
      cases hr
    cancelled := by
      intro i hi
      obtain ⟨q, hq⟩ := State.stage?_eq_some.mp hi
      rcases List.mem_append.mp (List.mem_of_getElem? hq) with hmem | hmem
      · obtain ⟨k, hk⟩ := List.mem_iff_getElem?.mp hmem
        exact h.cancelled k (State.stage?_eq_some.mpr ⟨q, hk⟩)
      · rw [List.mem_singleton] at hmem
        cases hmem
  }

/-- Files that are pending are pending once. -/
theorem pending_nodup (h : Dispatched setup paths counted pending s) : pending.Nodup :=
  (List.nodup_append.mp (h.once.nodup_iff.mpr List.nodup_range)).2.1

theorem pickSome (h : Dispatched setup paths counted pending s) {jobs : List Nat}
    (hphase : s.phase = .dispatching) (hpicked : s.picked = []) (hwaiting : s.waiting ≠ [])
    (hpick : Pickable s jobs) :
    Dispatched setup paths counted pending { s with
      picked := jobs
      inFlight := s.inFlight.filter fun job => !jobs.contains job } := by
  obtain ⟨hpending, -⟩ := h.dispatching hphase
  rw [hpicked, List.append_nil] at hpending
  have hnodup : s.inFlight.Nodup := hpending.nodup_iff.mp h.pending_nodup
  have hsplit : s.inFlight.Perm ((s.inFlight.filter fun job => !jobs.contains job) ++ jobs) := by
    refine (List.perm_ext_iff_of_nodup hnodup ?_).mpr fun i => ?_
    · refine List.nodup_append.mpr ⟨hnodup.filter _, hpick.nodup, fun a ha b hb => ?_⟩
      rintro rfl
      simp [hb] at ha
    · by_cases hi : i ∈ jobs
      · simp [hi, hpick.inFlight i hi]
      · simp [hi]
  exact {
    handedOut := h.handedOut
    once := h.once
    countedDone := h.countedDone
    pickedDone := hpick.isDone
    total := h.total
    accepted := h.accepted
    rejected := h.rejected
    room := Nat.le_trans (List.length_filter_le _ _) h.room
    dispatching := fun _ => ⟨hpending.trans hsplit, fun hnil => absurd hnil hwaiting⟩
    draining := by
      intro hdraining
      rw [hphase] at hdraining
      cases hdraining
    stopping := by
      intro stop hstop
      rw [hphase] at hstop
      cases hstop
    ended := by
      intro r hr
      rw [hphase] at hr
      cases hr
    cancelled := h.cancelled
  }

theorem pickAll (h : Dispatched setup paths counted pending s) {jobs : List Nat}
    (hphase : s.phase = .dispatching) (hpicked : s.picked = []) (hwaiting : s.waiting = [])
    (hall : jobs.length = s.inFlight.length) (hpick : Pickable s jobs) :
    Dispatched setup paths counted pending { s with phase := .draining, picked := jobs } := by
  obtain ⟨hpending, -⟩ := h.dispatching hphase
  rw [hpicked, List.append_nil] at hpending
  have hperm : jobs.Perm s.inFlight :=
    (List.subperm_of_subset hpick.nodup hpick.inFlight).perm_of_length_le (Nat.le_of_eq hall.symm)
  exact {
    handedOut := h.handedOut
    once := h.once
    countedDone := h.countedDone
    pickedDone := hpick.isDone
    total := h.total
    accepted := h.accepted
    rejected := h.rejected
    room := h.room
    dispatching := by
      intro hdispatching
      cases hdispatching
    draining := fun _ => ⟨hpending.trans hperm.symm, hwaiting⟩
    stopping := by
      intro stop hstop
      cases hstop
    ended := by
      intro r hr
      cases hr
    cancelled := by
      intro i hi
      obtain ⟨stop, hstop | hstop⟩ := h.cancelled i hi <;> rw [hphase] at hstop <;> cases hstop
  }

/-- Files are picked while they are handed out or drained. -/
theorem phase_of_picked (h : Dispatched setup paths counted pending s) {job : Nat}
    {rest : List Nat} (hpicked : s.picked = job :: rest) :
    s.phase = .dispatching ∨ s.phase = .draining := by
  cases hphase : s.phase with
  | dispatching => exact .inl rfl
  | draining => exact .inr rfl
  | stopping stop =>
    rw [(h.stopping stop hphase).1] at hpicked
    cases hpicked
  | ended r =>
    rw [(h.ended r hphase).1] at hpicked
    cases hpicked

theorem pending_perm (h : Dispatched setup paths counted pending s) {job : Nat} {rest : List Nat}
    (hpicked : s.picked = job :: rest) : ∃ others, pending.Perm (others ++ job :: rest) := by
  rcases h.phase_of_picked hpicked with hphase | hphase
  · refine ⟨s.inFlight, ?_⟩
    rw [← hpicked]
    exact (h.dispatching hphase).1
  · refine ⟨[], ?_⟩
    rw [← hpicked]
    exact (h.draining hphase).1

theorem count (h : Dispatched setup paths counted pending s) {job : Nat} {rest : List Nat}
    {accepted : Bool} (hpicked : s.picked = job :: rest)
    (hdone : s.stage? job = some (.done (.ok accepted))) (events : List Event) :
    Dispatched setup paths (counted ++ [job]) (pending.erase job)
      ({ s with tally := s.tally.add accepted, picked := rest }.note events) := by
  have herase : ∀ others : List Nat, pending.Perm (others ++ job :: rest) →
      (pending.erase job).Perm (others ++ rest) := by
    intro others hperm
    have herased := (hperm.trans List.perm_middle).erase job
    rw [List.erase_cons_head] at herased
    exact herased
  obtain ⟨others, hpending⟩ := h.pending_perm hpicked
  have hmem : job ∈ pending := hpending.mem_iff.mpr (by simp)
  have hisAccepted : s.isAccepted job = accepted := by rw [State.isAccepted, hdone]
  exact {
    handedOut := h.handedOut
    once := by
      rw [List.append_assoc, List.singleton_append]
      exact ((List.perm_cons_erase hmem).symm.append_left counted).trans h.once
    countedDone := by
      intro i hi
      rcases List.mem_append.mp hi with hi | hi
      · exact h.countedDone i hi
      · rw [List.mem_singleton] at hi
        exact ⟨accepted, by rw [hi]; exact hdone⟩
    pickedDone := by
      intro i hi
      exact h.pickedDone i (by rw [hpicked]; exact List.mem_cons_of_mem job hi)
    total := by
      show (s.tally.add accepted).total = paths.length
      rw [← h.total]
      cases accepted <;> rfl
    accepted := by
      show (s.tally.add accepted).accepted = (counted ++ [job]).countP s.isAccepted
      rw [List.countP_append, ← h.accepted, List.countP_singleton, hisAccepted]
      cases accepted <;> rfl
    rejected := by
      show (s.tally.add accepted).rejected = (counted ++ [job]).countP fun i => !s.isAccepted i
      rw [List.countP_append, ← h.rejected, List.countP_singleton, hisAccepted]
      cases accepted <;> rfl
    room := h.room
    dispatching := by
      intro hphase
      obtain ⟨hperm, hwaiting⟩ := h.dispatching hphase
      rw [hpicked] at hperm
      exact ⟨herase _ hperm, hwaiting⟩
    draining := by
      intro hphase
      obtain ⟨hperm, hwaiting⟩ := h.draining hphase
      rw [hpicked] at hperm
      exact ⟨herase [] hperm, hwaiting⟩
    stopping := by
      intro stop hstop
      rw [(h.stopping stop hstop).1] at hpicked
      cases hpicked
    ended := by
      intro r hr
      rw [(h.ended r hr).1] at hpicked
      cases hpicked
    cancelled := h.cancelled
  }

theorem stop (h : Dispatched setup paths counted pending s) {job : Nat} {stop : FileStop}
    (hdone : s.stage? job = some (.done (.error stop))) :
    Dispatched setup paths counted pending (stopAt s stop) := by
  obtain ⟨jobs, events, heq, hjobs⟩ := stopAt_eq s stop
  have hpaths : jobs.map (·.path) = s.jobs.map (·.path) := by
    rcases hjobs with rfl | rfl
    · rfl
    · exact map_path_cancelQueued s.jobs
  have hlength : jobs.length = s.jobs.length := by simpa using congrArg List.length hpaths
  have hstays : ∀ i r, s.stage? i = some (.done r) → (stopAt s stop).stage? i = some (.done r) := by
    intro i r hi
    obtain ⟨path, hpath⟩ := State.stage?_eq_some.mp hi
    rw [heq]
    refine State.stage?_eq_some.mpr ⟨path, ?_⟩
    rcases hjobs with rfl | rfl
    · exact hpath
    · exact getElem?_cancelQueued hpath rfl
  obtain ⟨haccepted, hrejected⟩ := h.tally_congr hstays
  rw [heq] at hstays haccepted hrejected ⊢
  exact {
    handedOut := by
      show jobs.map (·.path) ++ s.waiting = paths
      rw [hpaths, h.handedOut]
    once := by
      show (counted ++ pending).Perm (List.range jobs.length)
      rw [hlength]
      exact h.once
    countedDone := by
      intro i hi
      obtain ⟨accepted, hstage⟩ := h.countedDone i hi
      exact ⟨accepted, hstays i _ hstage⟩
    pickedDone := by
      intro i hi
      cases hi
    total := h.total
    accepted := h.accepted.trans haccepted.symm
    rejected := h.rejected.trans hrejected.symm
    room := h.room
    dispatching := by
      intro hphase
      cases hphase
    draining := by
      intro hphase
      cases hphase
    stopping := by
      intro other hother
      cases hother
      exact ⟨rfl, job, hstays job _ hdone⟩
    ended := by
      intro r hr
      cases hr
    cancelled := fun _ _ => ⟨stop, .inl rfl⟩
  }

theorem finish (h : Dispatched setup paths counted pending s) {r : Except FileStop Unit}
    (hover : ∀ job ∈ s.jobs, job.stage.isOver = true) (hresult : result? s = some r)
    (files : FileSystem) :
    Dispatched setup paths counted pending { s with files := files, phase := .ended r } := by
  have hend : s.picked = [] ∧ s.EndsAs pending r ∧
      ∀ i, s.stage? i = some .cancelled → ∃ stop, r = .error stop := by
    unfold result? at hresult
    split at hresult
    · rename_i hphase
      split at hresult
      · rename_i hpicked
        rw [List.isEmpty_iff] at hpicked
        cases hresult
        obtain ⟨hpending, hwaiting⟩ := h.draining hphase
        rw [hpicked] at hpending
        refine ⟨hpicked, ⟨hpending.eq_nil, hwaiting⟩, fun i hi => ?_⟩
        obtain ⟨stop, hstop | hstop⟩ := h.cancelled i hi <;> rw [hphase] at hstop <;> cases hstop
      · cases hresult
    · rename_i stop hphase
      cases hresult
      obtain ⟨hpicked, hstops⟩ := h.stopping stop hphase
      exact ⟨hpicked, hstops, fun _ _ => ⟨stop, rfl⟩⟩
    · cases hresult
  obtain ⟨hpicked, hends, hcancelled⟩ := hend
  exact {
    handedOut := h.handedOut
    once := h.once
    countedDone := h.countedDone
    pickedDone := h.pickedDone
    total := h.total
    accepted := h.accepted
    rejected := h.rejected
    room := h.room
    dispatching := by
      intro hphase
      cases hphase
    draining := by
      intro hphase
      cases hphase
    stopping := by
      intro stop hstop
      cases hstop
    ended := by
      intro r' hr
      cases hr
      refine ⟨hpicked, hover, ?_⟩
      cases r with
      | ok _ => exact hends
      | error stop => exact hends
    cancelled := by
      intro i hi
      obtain ⟨stop, rfl⟩ := hcancelled i hi
      exact ⟨stop, .inr rfl⟩
  }

/-- Every step keeps the invariant, for some files that are counted and
pending then. -/
theorem step (h : Dispatched setup paths counted pending s) (hstep : Step setup s s') :
    ∃ counted' pending', Dispatched setup paths counted' pending' s' := by
  cases hstep with
  | worker hjob hstep => exact ⟨_, _, h.worker hjob hstep⟩
  | submit hphase hwaiting _ hroom => exact ⟨_, _, h.submit hphase hwaiting hroom⟩
  | pickSome hphase hpicked hwaiting _ hpick =>
    exact ⟨_, _, h.pickSome hphase hpicked hwaiting hpick⟩
  | pickAll hphase hpicked hwaiting hall hpick =>
    exact ⟨_, _, h.pickAll hphase hpicked hwaiting hall hpick⟩
  | count hpicked hdone => exact ⟨_, _, h.count hpicked hdone _⟩
  | stop _ hdone => exact ⟨_, _, h.stop hdone⟩
  | finish hover hresult => exact ⟨_, _, h.finish hover hresult _⟩

end Dispatched
end
end SyntaxCorpus.Batch
