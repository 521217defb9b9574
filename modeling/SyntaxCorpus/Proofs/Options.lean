/-
SyntaxCorpus.Proofs.Options — where the options of a batch come from.

An option has the given value, or else that of its variable, or else its default.
The values are checked one by one, and the two numbers of nodes against each other
in the end.

* `Field` — the options, with their variables, kinds and defaults.
* `Field.HasValue` — the value of an option before its default.
* `Field.Takes`, `Field.Refused` — what an option comes to.
* `LoadOutcome`, `load_outcome` — what the options as a whole come to.
* `load_eq_ok_iff`, `load_eq_problems_iff`, `load_eq_disordered_iff` — each outcome
  and when there is it.
* `load_precedence` — which options come out, when there are none, and which
  variables do not matter.
-/
import SyntaxCorpus.Options
import SyntaxCorpus.Proofs.Text.Blank
import SyntaxCorpus.Proofs.Validation.Check

namespace SyntaxCorpus.BatchOptions

open Validation

/-! ## The options -/

/-- The options of a batch. -/
inductive Field
  | minNodes
  | maxNodes
  | methodOnly
  | language
  | workers
  | progressInterval

namespace Field

/-- The values that an option may have. -/
abbrev Value : Field → Type
  | methodOnly => Bool
  | language => Option String
  | minNodes | maxNodes | workers | progressInterval => Nat

/-- A value for each option. -/
def choose (least greatest : Nat) (only : Bool) (language? : Option String)
    (count interval : Nat) : (f : Field) → f.Value
  | minNodes => least
  | maxNodes => greatest
  | methodOnly => only
  | language => language?
  | workers => count
  | progressInterval => interval

/-- The value of an option. -/
def valueIn (o : BatchOptions) : (f : Field) → f.Value :=
  choose o.minNodes o.maxNodes o.methodOnly o.language o.workers o.progressInterval

/-- The value of an option that is neither given nor in the environment. There is a
worker for each processor, or one where their number is not known. -/
def default (processors : Option Nat) : (f : Field) → f.Value
  | minNodes => 20
  | maxNodes => 30000
  | methodOnly => false
  | language => none
  | workers => (processors.filter (0 < ·)).getD 1
  | progressInterval => 1000

/-- What is given for an option. -/
def givenIn (given : Overrides) : Field → Datum
  | minNodes => given.minNodes
  | maxNodes => given.maxNodes
  | methodOnly => given.methodOnly
  | language => given.language
  | workers => given.workers
  | progressInterval => given.progressInterval

/-- The name of an option. -/
def name : Field → String
  | minNodes => "min_nodes"
  | maxNodes => "max_nodes"
  | methodOnly => "method_only"
  | language => "language"
  | workers => "workers"
  | progressInterval => "progress_interval"

/-- The environment variable of an option, if it has one. -/
def setting? : Field → Option String
  | minNodes => some "ASTGEN_MIN_NODES"
  | maxNodes => some "ASTGEN_MAX_NODES"
  | workers => some "ASTGEN_WORKERS"
  | progressInterval => some "ASTGEN_PROGRESS_INTERVAL"
  | methodOnly | language => none

/-- A value stands for a value of an option, in its range: there is a worker at
least, and a progress entry is at least one file after the one before. -/
def StandsFor : (f : Field) → Datum → f.Value → Prop
  | minNodes, d, (n : Nat) | maxNodes, d, (n : Nat) => StandsForInteger d n
  | workers, d, (n : Nat) | progressInterval, d, (n : Nat) => StandsForInteger d n ∧ 1 ≤ n
  | methodOnly, d, b => StandsForBoolean d b
  | language, d, l => ∃ s, StandsForText d s ∧ l = some s

/-! ## The value of an option -/

section

variable {env env' : Environment} {processors : Option Nat} {given : Overrides} {f : Field}
  {d e : Datum}

/-- The value of an option before its default: the given one, or else the text of
its variable without the blanks around it, if this text is not blank. -/
inductive HasValue (env : Environment) (given : Overrides) (f : Field) : Datum → Prop
  | given (h : f.givenIn given ≠ .null) : HasValue env given f (f.givenIn given)
  | environment {setting value : String} (hnull : f.givenIn given = .null)
      (hsetting : f.setting? = some setting) (hset : env.value? setting = some value)
      (hblank : Text.isAllBlank value = false) : HasValue env given f (.text (Text.strip value))

theorem find?_optionVariables (f : Field) :
    optionVariables.find? (·.1 == f.name) = f.setting?.map fun setting => (f.name, setting) := by
  cases f <;> decide

theorem environmentValue?_eq_some_iff :
    environmentValue? env f.name = some d ↔ ∃ setting value, f.setting? = some setting ∧
      env.value? setting = some value ∧ Text.isAllBlank value = false ∧
        d = .text (Text.strip value) := by
  rw [environmentValue?, find?_optionVariables]
  simp only [Option.bind_eq_bind, Option.bind_eq_some_iff, Option.map_eq_some_iff,
    Text.isEmpty_strip]
  constructor
  · rintro ⟨_, ⟨setting, hsetting, rfl⟩, value, hset, h⟩
    cases hblank : Text.isAllBlank value with
    | true =>
      rw [hblank, if_pos rfl] at h
      cases h
    | false =>
      rw [hblank, if_neg Bool.false_ne_true] at h
      exact ⟨setting, value, hsetting, hset, hblank, (Option.some.inj h).symm⟩
  · rintro ⟨setting, value, hsetting, hset, hblank, rfl⟩
    refine ⟨_, ⟨setting, hsetting, rfl⟩, value, hset, ?_⟩
    rw [hblank, if_neg Bool.false_ne_true]

theorem effective?_of_ne_null {name : String} (h : d ≠ .null) : effective? env name d = some d := by
  cases d with
  | null => exact (h rfl).elim
  | _ => rfl

/-- The value of an option is found. -/
theorem effective?_eq_some_iff :
    effective? env f.name (f.givenIn given) = some d ↔ f.HasValue env given d := by
  by_cases hgiven : f.givenIn given = .null
  · rw [hgiven, effective?, environmentValue?_eq_some_iff]
    constructor
    · rintro ⟨setting, value, hsetting, hset, hblank, rfl⟩
      exact .environment hgiven hsetting hset hblank
    · intro h
      cases h with
      | given h => exact (h hgiven).elim
      | environment _ hsetting hset hblank => exact ⟨_, _, hsetting, hset, hblank, rfl⟩
  · rw [effective?_of_ne_null hgiven, Option.some.injEq]
    constructor
    · rintro rfl
      exact .given hgiven
    · intro h
      cases h with
      | given => rfl
      | environment hnull => exact (hgiven hnull).elim

theorem HasValue.unique (hd : f.HasValue env given d) (he : f.HasValue env given e) : d = e := by
  rw [← effective?_eq_some_iff] at hd he
  exact Option.some.inj (hd.symm.trans he)

/-- A variable does not matter for an option that is given. -/
theorem effective?_congr
    (h : f.givenIn given = .null → ∀ setting, f.setting? = some setting →
      env'.value? setting = env.value? setting) :
    effective? env' f.name (f.givenIn given) = effective? env f.name (f.givenIn given) := by
  by_cases hgiven : f.givenIn given = .null
  · rw [hgiven, effective?, effective?, environmentValue?, environmentValue?,
      find?_optionVariables]
    cases hsetting : f.setting? with
    | none => rfl
    | some setting =>
      simp only [Option.map_some, Option.bind_eq_bind, Option.bind_some, h hgiven setting hsetting]
  · rw [effective?_of_ne_null hgiven, effective?_of_ne_null hgiven]

/-! ## What an option comes to -/

theorem map_string_eq_ok_iff {l : Option String} :
    (string d).map some = .ok l ↔ language.StandsFor d l := by
  cases hstring : string d with
  | error ps =>
    constructor
    · intro h
      cases h
    · rintro ⟨s, hs, -⟩
      cases hstring.symm.trans (string_eq_ok_iff.mpr hs)
  | ok s =>
    constructor
    · intro h
      exact ⟨s, string_eq_ok_iff.mp hstring, (Except.ok.inj h).symm⟩
    · rintro ⟨t, ht, rfl⟩
      rw [ht.unique (string_eq_ok_iff.mp hstring)]
      rfl

/-- A value stands for one value of an option at most. -/
theorem StandsFor.unique {v w : f.Value} (hv : f.StandsFor d v) (hw : f.StandsFor d w) :
    v = w := by
  cases f with
  | minNodes => exact Int.ofNat.inj (StandsForInteger.unique hv hw)
  | maxNodes => exact Int.ofNat.inj (StandsForInteger.unique hv hw)
  | methodOnly => exact StandsForBoolean.unique hv hw
  | language =>
    obtain ⟨s, hs, rfl⟩ := hv
    obtain ⟨t, ht, rfl⟩ := hw
    rw [hs.unique ht]
  | workers => exact Int.ofNat.inj (hv.1.unique hw.1)
  | progressInterval => exact Int.ofNat.inj (hv.1.unique hw.1)

/-- An option takes the value that its given value stands for, or the one that its
variable stands for, or its default. -/
inductive Takes (env : Environment) (processors : Option Nat) (given : Overrides) (f : Field) :
    f.Value → Prop
  | value {d v} (hvalue : f.HasValue env given d) (h : f.StandsFor d v) :
      Takes env processors given f v
  | default (hnone : ∀ d, ¬ f.HasValue env given d) :
      Takes env processors given f (f.default processors)

/-- The value of an option does not stand for one in its range. -/
def Refused (env : Environment) (given : Overrides) (f : Field) : Prop :=
  ∃ d, f.HasValue env given d ∧ ∀ v, ¬ f.StandsFor d v

theorem Takes.unique {v w : f.Value} (hv : f.Takes env processors given v)
    (hw : f.Takes env processors given w) : v = w := by
  cases hv with
  | value hvalue h =>
    cases hw with
    | value hvalue' h' =>
      obtain rfl := hvalue.unique hvalue'
      exact h.unique h'
    | default hnone => exact (hnone _ hvalue).elim
  | default hnone =>
    cases hw with
    | value hvalue => exact (hnone _ hvalue).elim
    | default => rfl

theorem Takes.not_refused {v : f.Value} (h : f.Takes env processors given v) :
    ¬ f.Refused env given := by
  rintro ⟨d, hd, hnone⟩
  cases h with
  | value hvalue h =>
    obtain rfl := hvalue.unique hd
    exact hnone _ h
  | default h => exact h d hd

section

variable {α : Type} {check : Datum → Checked α} {start x : α}

/-- An option that passes its check takes a value. -/
theorem takes_of_option (f : Field) (val : α → f.Value)
    (hcheck : ∀ {d x}, check d = .ok x → f.StandsFor d (val x))
    (hstart : val start = f.default processors)
    (h : option env f.name (f.givenIn given) check start = .ok x) :
    f.Takes env processors given (val x) := by
  rw [option] at h
  cases hvalue : effective? env f.name (f.givenIn given) with
  | none =>
    simp only [hvalue] at h
    obtain rfl := Except.ok.inj h
    rw [hstart]
    refine .default fun d hd => ?_
    cases hvalue.symm.trans (effective?_eq_some_iff.mpr hd)
  | some d =>
    simp only [hvalue, at_eq_ok_iff] at h
    exact .value (effective?_eq_some_iff.mp hvalue) (hcheck h)

/-- An option that does not pass its check is refused. -/
theorem refused_of_option (f : Field) (hcheck : ∀ {d v}, f.StandsFor d v → ∃ x, check d = .ok x)
    (h : ∃ ps, option env f.name (f.givenIn given) check start = .error ps) :
    f.Refused env given := by
  obtain ⟨ps, h⟩ := h
  rw [option] at h
  cases hvalue : effective? env f.name (f.givenIn given) with
  | none => simp [hvalue] at h
  | some d =>
    refine ⟨d, effective?_eq_some_iff.mp hvalue, fun v hv => ?_⟩
    obtain ⟨x, hx⟩ := hcheck hv
    simp only [hvalue] at h
    cases h.symm.trans (at_eq_ok_iff.mpr hx)

end

end

end Field

/-! ## The options as a whole -/

section

variable {env env' : Environment} {processors : Option Nat} {given : Overrides}

/-- What the options come to: there are problems with their values, or all have
values but the two numbers of nodes are the wrong way round, or there are options. -/
inductive LoadOutcome (env : Environment) (processors : Option Nat) (given : Overrides) :
    Except ConfigError BatchOptions → Prop
  | problems {ps : List Problem} {f : Field} (h : f.Refused env given) :
      LoadOutcome env processors given (.error (.problems ps))
  | disordered {v : (f : Field) → f.Value}
      (htakes : ∀ f : Field, f.Takes env processors given (v f)) (h : v .maxNodes < v .minNodes) :
      LoadOutcome env processors given (.error (.disordered (v .minNodes) (v .maxNodes)))
  | ok {o : BatchOptions} (htakes : ∀ f : Field, f.Takes env processors given (f.valueIn o)) :
      LoadOutcome env processors given (.ok o)

/-- There is at least one worker. -/
theorem default_workers : defaultWorkers processors = Field.default processors .workers := by
  unfold defaultWorkers Field.default
  cases processors with
  | none => rfl
  | some n =>
    cases n with
    | zero => rfl
    | succ n =>
      rw [Option.filter_some, if_pos (by simp)]
      exact Nat.max_eq_right (Nat.succ_pos n)

theorem load_outcome (env : Environment) (processors : Option Nat) (given : Overrides) :
    LoadOutcome env processors given (load env processors given) := by
  unfold load
  simp only
  split
  · rename_i ps h
    have h := both_eq_error_iff.mp ⟨ps, h⟩
    simp only [both_eq_error_iff] at h
    rcases h with h | h | h | h | h | h
    · exact .problems (Field.refused_of_option .minNodes
        (fun hd => hd.exists_atLeast (Nat.zero_le _)) h)
    · exact .problems (Field.refused_of_option .maxNodes
        (fun hd => hd.exists_atLeast (Nat.zero_le _)) h)
    · exact .problems (Field.refused_of_option .methodOnly
        (fun hd => ⟨_, boolean_eq_ok_iff.mpr hd⟩) h)
    · exact .problems (Field.refused_of_option .language
        (fun hd => ⟨_, Field.map_string_eq_ok_iff.mpr hd⟩) h)
    · exact .problems (Field.refused_of_option .workers
        (fun hd => hd.1.exists_atLeast hd.2) h)
    · exact .problems (Field.refused_of_option .progressInterval
        (fun hd => hd.1.exists_atLeast hd.2) h)
  · rename_i least greatest methodOnly language workers interval h
    simp only [both_eq_ok_iff] at h
    obtain ⟨hleast, hgreatest, hmethodOnly, hlanguage, hworkers, hinterval⟩ := h
    have htakes : ∀ f : Field, f.Takes env processors given
        (Field.choose least greatest methodOnly language workers interval f) := by
      intro f
      cases f with
      | minNodes =>
        exact Field.takes_of_option .minNodes Subtype.val (fun hd => atLeast_eq_ok_iff.mp hd) rfl
          hleast
      | maxNodes =>
        exact Field.takes_of_option .maxNodes Subtype.val (fun hd => atLeast_eq_ok_iff.mp hd) rfl
          hgreatest
      | methodOnly =>
        exact Field.takes_of_option .methodOnly id (fun hd => boolean_eq_ok_iff.mp hd) rfl
          hmethodOnly
      | language =>
        exact Field.takes_of_option .language id (fun hd => Field.map_string_eq_ok_iff.mp hd) rfl
          hlanguage
      | workers =>
        exact Field.takes_of_option .workers Subtype.val
          (fun hd => ⟨atLeast_eq_ok_iff.mp hd, Subtype.property _⟩) default_workers hworkers
      | progressInterval =>
        exact Field.takes_of_option .progressInterval Subtype.val
          (fun hd => ⟨atLeast_eq_ok_iff.mp hd, Subtype.property _⟩) rfl hinterval
    split
    · exact .ok htakes
    · rename_i hlt
      exact .disordered htakes (Nat.lt_of_not_le hlt)

/-- Options with the same values are the same. -/
theorem eq_of_valueIn {o o' : BatchOptions} (h : ∀ f : Field, f.valueIn o = f.valueIn o') :
    o = o' := by
  cases o
  cases o'
  rw [mk.injEq]
  exact ⟨h .minNodes, h .maxNodes, h .methodOnly, h .language, h .workers, h .progressInterval⟩

theorem load_eq_ok_iff {o : BatchOptions} :
    load env processors given = .ok o ↔
      ∀ f : Field, f.Takes env processors given (f.valueIn o) := by
  have houtcome := load_outcome env processors given
  constructor
  · intro h
    rw [h] at houtcome
    cases houtcome with
    | ok htakes => exact htakes
  · intro htakes
    generalize load env processors given = outcome at houtcome ⊢
    cases houtcome with
    | problems h => exact ((htakes _).not_refused h).elim
    | disordered hv hlt =>
      rw [(hv .minNodes).unique (htakes .minNodes), (hv .maxNodes).unique (htakes .maxNodes)]
        at hlt
      exact (Nat.not_le_of_lt hlt o.minNodes_le_maxNodes).elim
    | ok ho => rw [eq_of_valueIn fun f => (ho f).unique (htakes f)]

theorem load_eq_problems_iff :
    (∃ ps, load env processors given = .error (.problems ps)) ↔
      ∃ f : Field, f.Refused env given := by
  have houtcome := load_outcome env processors given
  constructor
  · rintro ⟨ps, h⟩
    rw [h] at houtcome
    cases houtcome with
    | problems h => exact ⟨_, h⟩
  · rintro ⟨f, hrefused⟩
    generalize load env processors given = outcome at houtcome ⊢
    cases houtcome with
    | problems => exact ⟨_, rfl⟩
    | disordered hv => exact ((hv f).not_refused hrefused).elim
    | ok ho => exact ((ho f).not_refused hrefused).elim

theorem load_eq_disordered_iff {least greatest : Nat} :
    load env processors given = .error (.disordered least greatest) ↔
      (∀ f : Field, ¬ f.Refused env given) ∧ Field.minNodes.Takes env processors given least ∧
        Field.maxNodes.Takes env processors given greatest ∧ greatest < least := by
  have houtcome := load_outcome env processors given
  constructor
  · intro h
    rw [h] at houtcome
    cases houtcome with
    | disordered hv hlt => exact ⟨fun f => (hv f).not_refused, hv .minNodes, hv .maxNodes, hlt⟩
  · rintro ⟨hfit, hleast, hgreatest, hlt⟩
    generalize load env processors given = outcome at houtcome ⊢
    cases houtcome with
    | problems h => exact (hfit _ h).elim
    | disordered hv => rw [(hv .minNodes).unique hleast, (hv .maxNodes).unique hgreatest]
    | @ok o ho =>
      rw [hleast.unique (ho .minNodes), hgreatest.unique (ho .maxNodes)] at hlt
      exact (Nat.not_le_of_lt hlt o.minNodes_le_maxNodes).elim

/-- The variables of given options do not matter. -/
theorem load_congr
    (h : ∀ f : Field, f.givenIn given = .null → ∀ setting, f.setting? = some setting →
      env'.value? setting = env.value? setting) :
    load env' processors given = load env processors given := by
  have heffective := fun f => Field.effective?_congr (h f)
  have hleast : effective? env' "min_nodes" given.minNodes = _ := heffective .minNodes
  have hgreatest : effective? env' "max_nodes" given.maxNodes = _ := heffective .maxNodes
  have honly : effective? env' "method_only" given.methodOnly = _ := heffective .methodOnly
  have hlanguage : effective? env' "language" given.language = _ := heffective .language
  have hworkers : effective? env' "workers" given.workers = _ := heffective .workers
  have hinterval : effective? env' "progress_interval" given.progressInterval = _ :=
    heffective .progressInterval
  simp only [load, option, hleast, hgreatest, honly, hlanguage, hworkers, hinterval,
    Field.name, Field.givenIn]

end

/-- **The options of a run are the given ones, then those of the environment, then
the defaults.** There are none if and only if a value is refused, or none is and the
least number of nodes is above the greatest one. They are in their ranges, and the
variables of given options do not matter. -/
theorem load_precedence (env : Environment) (processors : Option Nat) (given : Overrides) :
    (∀ o, load env processors given = .ok o ↔
      ∀ f : Field, f.Takes env processors given (f.valueIn o)) ∧
    ((∃ e, load env processors given = .error e) ↔
      (∃ f : Field, f.Refused env given) ∨
        (∀ f : Field, ¬ f.Refused env given) ∧ ∃ least greatest,
          Field.minNodes.Takes env processors given least ∧
          Field.maxNodes.Takes env processors given greatest ∧ greatest < least) ∧
    (∀ o, load env processors given = .ok o →
      o.minNodes ≤ o.maxNodes ∧ 1 ≤ o.workers ∧ 1 ≤ o.progressInterval) ∧
    ∀ env' : Environment,
      (∀ f : Field, f.givenIn given = .null → ∀ setting, f.setting? = some setting →
        env'.value? setting = env.value? setting) →
      load env' processors given = load env processors given := by
  refine ⟨fun o => load_eq_ok_iff, ⟨?_, ?_⟩,
    fun o _ => ⟨o.minNodes_le_maxNodes, o.workers_pos, o.progressInterval_pos⟩,
    fun env' => load_congr⟩
  · rintro ⟨ps | ⟨least, greatest⟩, h⟩
    · exact .inl (load_eq_problems_iff.mp ⟨ps, h⟩)
    · obtain ⟨hfit, horder⟩ := load_eq_disordered_iff.mp h
      exact .inr ⟨hfit, least, greatest, horder⟩
  · rintro (hrefused | ⟨hfit, least, greatest, horder⟩)
    · obtain ⟨ps, h⟩ := load_eq_problems_iff.mpr hrefused
      exact ⟨_, h⟩
    · exact ⟨_, load_eq_disordered_iff.mpr ⟨hfit, horder⟩⟩

/-- A given option counts, whatever its variable says; blanks around a variable do not. -/
example : (load [("ASTGEN_MIN_NODES", " 5 "), ("ASTGEN_WORKERS", "many")] none
    { workers := .text "2" }).toOption.map (fun o => (o.minNodes, o.maxNodes, o.workers))
      = some (5, 30000, 2) := by
  decide +kernel

end SyntaxCorpus.BatchOptions
