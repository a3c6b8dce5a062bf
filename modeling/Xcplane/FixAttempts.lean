import Xcplane.Escalation

/-!
How often the corrective actions of a service are tried: whether each of them is
started at most once in a failure episode.
-/

namespace Xcplane.FixAttempts

open Xcplane.Lib
open Xcplane.Types
open Xcplane.Deploy
open Xcplane.Service
open Xcplane.Escalation

section Property

def started (mon : Monitor) : List AnsibleAction := (episode mon.checks).map Prod.snd

/-- Both actions of the service were started and no run is stored: a check that comes
to the actions asks for a manual inspection. -/
def FutileReported (w : Watch) (mon : Monitor) : Event → Prop
  | .check false c => ∀ status ∈ mon.checking,
      attends w c status mon.actionMap = true → stored w.kind mon.actionMap = none →
        (∀ level < 2, ∀ action ∈ actionAt w.kind level, action ∈ started mon) →
          (handleResponse w mon.runs c false status mon.actionMap).spawned = none ∧
            (handleResponse w mon.runs c false status mon.actionMap).extraInfo = futile
  | _ => True

def TriedOnce (w : Watch) (mon : Monitor) (e : Event) : Prop :=
  (started (step w mon e)).Nodup ∧ (started (step w mon e)).length ≤ 2 ∧
    FutileReported w mon e

/-- The finished run that an unhealthy check takes out of the registry. -/
def taken (w : Watch) (mon : Monitor) (c : Circumstances) (status : SvcStatus) :
    Option FixOutcome :=
  if attends w c status mon.actionMap = true ∧ status.fixTry < 2 then
    (stored w.kind mon.actionMap).bind (finished mon.runs)
  else none

/-- The status of a check that takes a finished run out is not lost, nor that of a check
from a level above the last one sent. A check does not start from a lower level than
that. -/
def AttemptKept (w : Watch) (mon : Monitor) : Event → Prop
  | .check false c => ∀ status ∈ mon.checking,
      (∀ outcome ∈ taken w mon c status,
        Keeps w.kind c.lastXuiDb status.fixTry outcome ∧ c.aggregator.isOk = true) ∧
      ((latest mon).fixTry < status.fixTry → c.aggregator.isOk = true)
  | .tick =>
      (mon.running && mon.checkCompleted) = true → (latest mon).fixTry ≤ mon.entry.fixTry
  | _ => True

def resets : Event → Bool
  | .resetFix _ => true
  | _ => false

instance (w : Watch) (mon : Monitor) : ∀ e, Decidable (FutileReported w mon e)
  | .check false c =>
      inferInstanceAs (Decidable (∀ status ∈ mon.checking,
        attends w c status mon.actionMap = true → stored w.kind mon.actionMap = none →
          (∀ level < 2, ∀ action ∈ actionAt w.kind level, action ∈ started mon) → _ ∧ _))
  | .check true _ => isTrue trivial
  | .tick => isTrue trivial
  | .crash => isTrue trivial
  | .receive => isTrue trivial
  | .join => isTrue trivial
  | .resetFix _ => isTrue trivial
  | .finish _ _ => isTrue trivial
  | .sibling _ _ => isTrue trivial

instance (w : Watch) (mon : Monitor) (e : Event) : Decidable (TriedOnce w mon e) :=
  inferInstanceAs (Decidable (_ ∧ _ ∧ FutileReported w mon e))

instance (kind : SvcKind) (lastXuiDb : Except BoxError (Except BoxError Unit)) (level : Nat)
    (outcome : FixOutcome) : Decidable (Keeps kind lastXuiDb level outcome) :=
  inferInstanceAs (Decidable (_ = _ ∧ (_ = _ ∨ _ = _)))

instance (w : Watch) (mon : Monitor) : ∀ e, Decidable (AttemptKept w mon e)
  | .check false c =>
      inferInstanceAs (Decidable (∀ status ∈ mon.checking,
        (∀ outcome ∈ taken w mon c status,
          Keeps w.kind c.lastXuiDb status.fixTry outcome ∧ c.aggregator.isOk = true) ∧
        ((latest mon).fixTry < status.fixTry → c.aggregator.isOk = true)))
  | .tick =>
      inferInstanceAs (Decidable ((mon.running && mon.checkCompleted) = true →
        (latest mon).fixTry ≤ mon.entry.fixTry))
  | .check true _ => isTrue trivial
  | .crash => isTrue trivial
  | .receive => isTrue trivial
  | .join => isTrue trivial
  | .resetFix _ => isTrue trivial
  | .finish _ _ => isTrue trivial
  | .sibling _ _ => isTrue trivial

end Property

section Levels

variable {kind : SvcKind} {level level' : Nat} {action : AnsibleAction}

theorem actionAt_lt (haction : actionAt kind level = some action) : level < 2 := by
  by_contra hlevel
  have hnone := actionAt_eq_none kind (show 1 < level by omega)
  rw [hnone] at haction
  cases haction

theorem actionAt_inj (hkind : kind = .Nginx ∨ kind = SvcKind.superXray)
    (haction : actionAt kind level = some action)
    (haction' : actionAt kind level' = some action) : level = level' := by
  have hcases : level = 0 ∨ level = 1 := by
    have hlt := actionAt_lt haction
    omega
  have hcases' : level' = 0 ∨ level' = 1 := by
    have hlt := actionAt_lt haction'
    omega
  rcases hkind with rfl | rfl <;> rcases hcases with rfl | rfl <;>
    rcases hcases' with rfl | rfl <;>
    first
      | rfl
      | exact absurd (haction.trans haction'.symm) (by decide)

end Levels

section Invariant

variable {w : Watch} {mon mon' : Monitor} {e : Event} {c : Circumstances} {status : SvcStatus}

/-- A level below the last one sent, or equal to it with its run stored. -/
def Passed (w : Watch) (mon : Monitor) (level : Nat) : Prop :=
  level < (latest mon).fixTry ∨
    (level = (latest mon).fixTry ∧ stored w.kind mon.actionMap ≠ none)

theorem passed_of_stored {level id : Nat} (hlevel : (latest mon).fixTry = level)
    (hid : stored w.kind mon.actionMap = some id) : Passed w mon level := by
  refine Or.inr ⟨hlevel.symm, ?_⟩
  rw [hid]
  exact Option.some_ne_none id

theorem Passed.raise {level : Nat} (h : Passed w mon level)
    (hraised : (latest mon).fixTry < (latest mon').fixTry) : Passed w mon' level := by
  unfold Passed at *
  exact Or.inl (by omega)

theorem Passed.mono {level : Nat} (h : Passed w mon level)
    (hle : (latest mon).fixTry ≤ (latest mon').fixTry)
    (hslot : stored w.kind mon'.actionMap = stored w.kind mon.actionMap) :
    Passed w mon' level := by
  rcases Nat.lt_or_eq_of_le hle with hlt | heq
  · exact h.raise hlt
  · unfold Passed at *
    rw [← heq, hslot]
    exact h

/-- The actions started in the episode are distinct and their levels are passed, so the
level of the next check was not tried yet. -/
structure Attempted (w : Watch) (mon : Monitor) : Prop where
  nodup : (started mon).Nodup
  known : ∀ action ∈ started mon, ∃ level, actionAt w.kind level = some action
  passed : ∀ level action, actionAt w.kind level = some action → action ∈ started mon →
    Passed w mon level
  checking : ∀ status, mon.checking = some status → (latest mon).fixTry ≤ status.fixTry

theorem attempted_of_started_nil (hstarted : started mon = []) (hchecking : mon.checking = none) :
    Attempted w mon := by
  constructor
  · rw [hstarted]
    exact List.nodup_nil
  · intro action haction
    rw [hstarted] at haction
    cases haction
  · intro level action _ haction
    rw [hstarted] at haction
    cases haction
  · intro status hstatus
    rw [hchecking] at hstatus
    cases hstatus

theorem Attempted.idle (hinv : Attempted w mon) (h : Idle w mon mon') : Attempted w mon' := by
  have hstarted : started mon' = started mon := by
    unfold started
    rw [h.checks]
  constructor
  · rw [hstarted]
    exact hinv.nodup
  · rw [hstarted]
    exact hinv.known
  · rw [hstarted]
    unfold Passed
    rw [h.latest, h.stored]
    exact hinv.passed
  · intro status hstatus
    rw [h.latest]
    exact hinv.checking status (h.checking status hstatus)

theorem Attempted.tick (hinv : Attempted w mon)
    (hkept : (latest mon).fixTry ≤ mon.entry.fixTry) :
    Attempted w { mon with checkCompleted := false, checking := some mon.entry } where
  nodup := hinv.nodup
  known := hinv.known
  passed := hinv.passed
  checking := by
    intro status hchecking
    have hentry : mon.entry = status := Option.some.inj hchecking
    rw [← hentry]
    exact hkept

theorem started_applyChecker :
    started (applyChecker w mon false c status) =
      (handleErr w mon.runs c status mon.actionMap).spawned.toList ++ started mon := by
  unfold started
  rw [episode_applyChecker]
  cases (handleErr w mon.runs c status mon.actionMap).spawned <;> rfl

/-- A check that starts nothing and leaves every passed level passed. -/
theorem Attempted.spawn_none (hinv : Attempted w mon)
    (hspawned : (handleErr w mon.runs c status mon.actionMap).spawned = none)
    (hpassed : ∀ level, Passed w mon level → Passed w (applyChecker w mon false c status) level) :
    Attempted w (applyChecker w mon false c status) := by
  have hstarted : started (applyChecker w mon false c status) = started mon := by
    rw [started_applyChecker, hspawned]
    rfl
  constructor
  · rw [hstarted]
    exact hinv.nodup
  · rw [hstarted]
    exact hinv.known
  · intro level action haction hmem
    rw [hstarted] at hmem
    exact hpassed level (hinv.passed level action haction hmem)
  · intro status' hstatus'
    cases hstatus'

/-- A check that starts the action of a level that was not passed before and is now. -/
theorem Attempted.spawn_some (hinv : Attempted w mon)
    (hkind : w.kind = .Nginx ∨ w.kind = SvcKind.superXray) {level : Nat}
    {action : AnsibleAction} (haction : actionAt w.kind level = some action)
    (hspawned : (handleErr w mon.runs c status mon.actionMap).spawned = some action)
    (hnew : ¬ Passed w mon level)
    (hnow : Passed w (applyChecker w mon false c status) level)
    (hpassed : ∀ level, Passed w mon level → Passed w (applyChecker w mon false c status) level) :
    Attempted w (applyChecker w mon false c status) := by
  have hstarted : started (applyChecker w mon false c status) = action :: started mon := by
    rw [started_applyChecker, hspawned]
    rfl
  have hfresh : action ∉ started mon := fun hmem =>
    hnew (hinv.passed level action haction hmem)
  constructor
  · rw [hstarted]
    exact List.nodup_cons.mpr ⟨hfresh, hinv.nodup⟩
  · intro action' hmem
    rw [hstarted] at hmem
    rcases List.mem_cons.mp hmem with rfl | hold
    · exact ⟨level, haction⟩
    · exact hinv.known action' hold
  · intro level' action' haction' hmem
    rw [hstarted] at hmem
    rcases List.mem_cons.mp hmem with rfl | hold
    · rw [actionAt_inj hkind haction' haction]
      exact hnow
    · exact hpassed level' (hinv.passed level' action' haction' hold)
  · intro status' hstatus'
    cases hstatus'

theorem taken_of_finished {id : Nat} {outcome : FixOutcome}
    (hattends : attends w c status mon.actionMap = true) (hlevel : status.fixTry < 2)
    (hid : stored w.kind mon.actionMap = some id)
    (hfinished : finished mon.runs id = some outcome) :
    taken w mon c status = some outcome := by
  simp [taken, hattends, hlevel, hid, hfinished]

theorem Attempted.unhealthy (hinv : Attempted w mon)
    (hkind : w.kind = .Nginx ∨ w.kind = SvcKind.superXray)
    (hchecking : mon.checking = some status) (hkept : AttemptKept w mon (.check false c)) :
    Attempted w (applyChecker w mon false c status) := by
  obtain ⟨htaken, hraised⟩ := hkept status hchecking
  have hle := hinv.checking status hchecking
  have hhandled : handleResponse w mon.runs c false status mon.actionMap =
      handleErr w mon.runs c status mon.actionMap := rfl
  have hsent := applyChecker_sent hhandled
  have htreats : Treats (attends w c status mon.actionMap = true) w.kind mon.runs c.lastXuiDb
      status.fixTry (stored w.kind mon.actionMap)
      (handleErr w mon.runs c status mon.actionMap) := handleErr_treats hkind
  cases htreats with
  | rest hspawned hstored hreports =>
      apply hinv.spawn_none hspawned
      intro level hpassed
      have hrisen : (latest mon).fixTry ≤
          (latest (applyChecker w mon false c status)).fixTry := by
        rcases hsent with ⟨sent, hstatus, hlatest, -⟩ | ⟨-, hlatest, -⟩
        · rw [hlatest, (hreports sent hstatus).2]
          exact hle
        · rw [hlatest]
      exact hpassed.mono hrisen hstored
  | start action hfree haction hspawned hstored hreports hok =>
      have hnow : (latest (applyChecker w mon false c status)).fixTry = status.fixTry := by
        rcases hsent with ⟨sent, hstatus, hlatest, -⟩ | ⟨hlost, hlatest, -⟩
        · rw [hlatest, (hreports sent hstatus).2]
        · rw [hlatest]
          -- A lost status is one from the level that was sent last.
          by_contra hne
          exact hlost ⟨hok, hraised (by omega)⟩
      apply hinv.spawn_some hkind haction hspawned
      · rintro (hlt | ⟨-, hstored'⟩)
        · omega
        · exact hstored' hfree
      · exact passed_of_stored hnow hstored
      · rintro level (hlt | ⟨-, hstored'⟩)
        · exact Or.inl (by omega)
        · exact absurd hfree hstored'
  | harvest hreached hlevel id hid outcome hfinished hspawned hstored hreports hkeeps =>
      obtain ⟨hkeep, hdelivered⟩ :=
        htaken outcome (taken_of_finished hreached hlevel hid hfinished)
      obtain ⟨sent, hstatus, hlatest⟩ :=
        applyChecker_delivered hhandled (hkeeps hkeep) hdelivered
      have hrisen := (hreports sent hstatus).2
      rw [← hlatest] at hrisen
      apply hinv.spawn_none hspawned
      intro level hpassed
      exact hpassed.raise (by omega)
  | advance hnginx hreached hlevel id hid outcome hfinished action haction hspawned hstored
      hreports hok =>
      obtain ⟨-, hdelivered⟩ :=
        htaken outcome (taken_of_finished hreached hlevel hid hfinished)
      obtain ⟨sent, hstatus, hlatest⟩ := applyChecker_delivered hhandled hok hdelivered
      have hrisen := (hreports sent hstatus).2
      rw [← hlatest] at hrisen
      apply hinv.spawn_some hkind haction hspawned
      · unfold Passed
        omega
      · exact passed_of_stored hrisen hstored
      · intro level hpassed
        exact hpassed.raise (by omega)

theorem Attempted.step (hkind : w.kind = .Nginx ∨ w.kind = SvcKind.superXray) (mon : Monitor)
    (e : Event) (hinv : Attempted w mon) (hkept : AttemptKept w mon e ∧ resets e = false) :
    Attempted w (step w mon e) := by
  obtain ⟨hkept, hreset⟩ := hkept
  cases step_does w mon e with
  | idle h => exact hinv.idle h
  | tick he hready h =>
      subst he
      rw [h]
      exact hinv.tick (hkept hready)
  | check healthy c he status hchecking h =>
      subst he
      rw [h]
      cases healthy with
      | true => exact attempted_of_started_nil rfl rfl
      | false => exact hinv.unhealthy hkind hchecking hkept
  | reset aggregator he h =>
      subst he
      cases hreset

theorem Attempted.length_started (hinv : Attempted w mon) : (started mon).length ≤ 2 := by
  obtain ⟨first, hfirst⟩ := exists_actionAt w.kind Nat.two_pos
  obtain ⟨second, hsecond⟩ := exists_actionAt w.kind Nat.one_lt_two
  have hsubset : started mon ⊆ [first, second] := by
    intro action hmem
    obtain ⟨level, haction⟩ := hinv.known action hmem
    have hcases : level = 0 ∨ level = 1 := by
      have hlt := actionAt_lt haction
      omega
    rcases hcases with rfl | rfl
    · rw [hfirst] at haction
      simp [Option.some.inj haction]
    · rw [hsecond] at haction
      simp [Option.some.inj haction]
  exact (List.subperm_of_subset hinv.nodup hsubset).length_le

theorem fixActions_futile (hkind : w.kind = .Nginx ∨ w.kind = SvcKind.superXray)
    {runs : List FixRun} {m : ActionMap} (hsick : status.health = .Sick)
    (hsiblings : siblingsHealthy w.kind m = true) (hlevel : ¬ status.fixTry < 2) :
    (fixActions w runs c status m).spawned = none ∧
      (fixActions w runs c status m).extraInfo = futile := by
  have hcourse : Course w.kind runs c.lastXuiDb status m (fixActions w runs c status m) :=
    fixActions_course hkind hsick
  generalize fixActions w runs c status m = handled at hcourse ⊢
  cases hcourse with
  | closed hclosed =>
      rw [hsiblings] at hclosed
      cases hclosed
  | exhausted => exact ⟨rfl, rfl⟩
  | unregistered hbelow => exact absurd hbelow hlevel
  | free hentered => exact absurd hentered.level hlevel
  | running hentered => exact absurd hentered.level hlevel
  | lost hentered => exact absurd hentered.level hlevel
  | next _ hentered => exact absurd hentered.level hlevel
  | counted hentered => exact absurd hentered.level hlevel

theorem handleErr_futile (hkind : w.kind = .Nginx ∨ w.kind = SvcKind.superXray)
    {runs : List FixRun} {m : ActionMap} (hattends : attends w c status m = true)
    (hlevel : 2 ≤ status.fixTry) :
    (handleErr w runs c status m).spawned = none ∧
      (handleErr w runs c status m).extraInfo = futile := by
  unfold attends at hattends
  unfold handleErr
  cases hfailed : failedOnce c.now status with
  | error e =>
      rw [hfailed] at hattends
      cases hattends
  | ok failed =>
      obtain ⟨hsick, hsame⟩ := failedOnce_ok hfailed
      have hlast : ¬ failed.fixTry < 2 := by omega
      rw [hfailed] at hattends
      simp only [Bool.and_eq_true] at hattends
      obtain ⟨⟨hauto, hthreshold⟩, hsiblings⟩ := hattends
      simp only [hauto, hthreshold, Bool.and_self, if_true]
      apply fixActions_futile hkind hsick _ hlast
      rw [siblingsHealthy_setEntry hkind]
      exact hsiblings

theorem Attempted.futileReported (hinv : Attempted w mon)
    (hkind : w.kind = .Nginx ∨ w.kind = SvcKind.superXray) : FutileReported w mon e := by
  cases e with
  | check healthy c =>
      cases healthy with
      | true => trivial
      | false =>
          intro status hchecking hattends hfree hboth
          apply handleErr_futile hkind hattends
          obtain ⟨second, hsecond⟩ := exists_actionAt w.kind Nat.one_lt_two
          have hpassed := hinv.passed 1 second hsecond (hboth 1 Nat.one_lt_two second hsecond)
          have hle := hinv.checking status hchecking
          rcases hpassed with hlt | ⟨-, hstored⟩
          · omega
          · exact absurd hfree hstored
  | _ => trivial

end Invariant

section Results

variable {w : Watch} {status : SvcStatus} {m : ActionMap} {events : List Event}

theorem attempted_start : Attempted w (start w status m) :=
  attempted_of_started_nil rfl rfl

/-- While no attempt is lost, each action is started at most once in an episode, and
afterwards a manual inspection is asked for. -/
theorem run_tries_once (hkind : w.kind = .Nginx ∨ w.kind = SvcKind.superXray)
    (hreset : ∀ e ∈ events, resets e = false)
    (hkept : Along (step w) (AttemptKept w) (start w status m) events) :
    Along (step w) (TriedOnce w) (start w status m) events := by
  have hall : Along (step w) (fun mon e => AttemptKept w mon e ∧ resets e = false)
      (start w status m) events :=
    along_and hkept (along_of_forall fun e he _ => hreset e he)
  refine along_of_inv (Attempted.step hkind) ?_ attempted_start hall
  intro mon e hinv hP
  have hnext := Attempted.step hkind mon e hinv hP
  exact ⟨hnext.nodup, hnext.length_started, hinv.futileReported hkind⟩

def triedInVain : List Event :=
  interval false ++ .finish 0 (.output false) :: interval false ++
    .finish 1 (.output true) :: interval false ++ interval false

theorem run_tries_once_inVain :
    Along (step (watchOf .Nginx)) (TriedOnce (watchOf .Nginx)) (fresh .Nginx) triedInVain ∧
      started (run (step (watchOf .Nginx)) (fresh .Nginx) triedInVain) =
        [.NginxRestoreConfig, .NginxRestart] :=
  ⟨run_tries_once (Or.inl rfl) (by decide +kernel) (by decide +kernel), by decide +kernel⟩

/-- The restart of Nginx itself ends with an error. -/
def unreachableHost : List Event :=
  interval false ++ .finish 0 (.err "Ansible ping failed") :: interval false ++ interval false

theorem run_restarts_twice :
    (watchOf .Nginx).kind = .Nginx ∧ (∀ e ∈ unreachableHost, resets e = false) ∧
      ¬ Along (step (watchOf .Nginx)) (TriedOnce (watchOf .Nginx)) (fresh .Nginx)
        unreachableHost :=
  ⟨rfl, by decide +kernel, by decide +kernel⟩

end Results

end Xcplane.FixAttempts
