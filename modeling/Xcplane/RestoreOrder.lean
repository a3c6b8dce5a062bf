import Xcplane.Escalation

/-!
The order of the corrective actions of the supervisor Xray: whether the database is
only restored after a restart was tried in the same failure episode.
-/

namespace Xcplane.RestoreOrder

open Xcplane.Lib
open Xcplane.Types
open Xcplane.Deploy
open Xcplane.Service
open Xcplane.Escalation

section Property

/-- A restart was started since the last healthy check and has finished. -/
def RestartFinished (mon : Monitor) : Prop :=
  ∃ start ∈ episode mon.checks,
    start.2 = .XrayRestart ∧ (finished mon.runs start.1).isSome = true

/-- The database is not restored by this event, or a restart has finished. -/
def RestoresAfterRestart (w : Watch) (mon : Monitor) (e : Event) : Prop :=
  (∃ handled ∈ handledBy w mon e, handled.spawned = some .XrayRestoreDB) → RestartFinished mon

/-- A healthy check finds no stored handle, and its status is sent unless there is no
level to reset. A check does not start from a level that was reset since. -/
def RecoveryKept (w : Watch) (mon : Monitor) : Event → Prop
  | .check true c =>
      mon.checking.isSome = true → stored w.kind mon.actionMap = none ∧
        (c.aggregator.isOk = true ∨ (latest mon).fixTry = 0)
  | .tick =>
      (mon.running && mon.checkCompleted) = true → (latest mon).fixTry = 0 →
        mon.entry.fixTry = 0
  | _ => True

instance (mon : Monitor) : Decidable (RestartFinished mon) :=
  inferInstanceAs (Decidable (∃ start ∈ episode mon.checks, _ ∧ _))

instance (w : Watch) (mon : Monitor) (e : Event) : Decidable (RestoresAfterRestart w mon e) :=
  inferInstanceAs (Decidable ((∃ handled ∈ handledBy w mon e, _ = _) → RestartFinished mon))

instance (w : Watch) (mon : Monitor) : ∀ e, Decidable (RecoveryKept w mon e)
  | .check true c =>
      inferInstanceAs (Decidable (mon.checking.isSome = true →
        stored w.kind mon.actionMap = none ∧
          (c.aggregator.isOk = true ∨ (latest mon).fixTry = 0)))
  | .tick =>
      inferInstanceAs (Decidable ((mon.running && mon.checkCompleted) = true →
        (latest mon).fixTry = 0 → mon.entry.fixTry = 0))
  | .check false _ => isTrue trivial
  | .crash => isTrue trivial
  | .receive => isTrue trivial
  | .join => isTrue trivial
  | .resetFix _ => isTrue trivial
  | .finish _ _ => isTrue trivial
  | .sibling _ _ => isTrue trivial

end Property

section Invariant

variable {w : Watch} {mon mon' : Monitor} {e : Event} {c : Circumstances} {status : SvcStatus}

/-- A stored handle belongs to a restart of the episode, and a level above zero was
reached by one that has finished. -/
structure Escalates (w : Watch) (mon : Monitor) : Prop where
  handle : ∀ id, stored w.kind mon.actionMap = some id →
    RestartFinished mon ∨ (id, .XrayRestart) ∈ episode mon.checks
  sent : (latest mon).fixTry ≠ 0 → RestartFinished mon
  checking : ∀ status, mon.checking = some status → status.fixTry ≠ 0 → RestartFinished mon
  sick : ∀ status ∈ live mon, status.fixTry ≠ 0 → status.health = .Sick

theorem RestartFinished.mono (h : RestartFinished mon)
    (hchecks : ∀ start ∈ episode mon.checks, start ∈ episode mon'.checks)
    (hruns : ∀ i, (finished mon.runs i).isSome = true → (finished mon'.runs i).isSome = true) :
    RestartFinished mon' := by
  obtain ⟨start, hstart, haction, hfinished⟩ := h
  exact ⟨start, hchecks start hstart, haction, hruns start.1 hfinished⟩

theorem escalates_start {m : ActionMap} (hfix : status.fixTry = 0) :
    Escalates w (start w status m) where
  handle := by
    intro id hid
    have hnone : stored w.kind (start w status m).actionMap = none :=
      stored_setEntry_of_clear fun _ => rfl
    rw [hnone] at hid
    cases hid
  sent := fun hlevel => absurd hfix hlevel
  checking := by
    intro status' hchecking
    cases hchecking
  sick := by
    intro status' hstatus' hlevel
    have hsame : status' = status := by simpa [live, start] using hstatus'
    rw [hsame] at hlevel
    exact absurd hfix hlevel

theorem Escalates.idle (hinv : Escalates w mon) (h : Idle w mon mon') : Escalates w mon' := by
  have hmono : RestartFinished mon → RestartFinished mon' := fun hfinished =>
    hfinished.mono (fun _ hstart => by rw [h.checks]; exact hstart) h.runs
  constructor
  · intro id hid
    rw [h.stored] at hid
    rw [h.checks]
    exact (hinv.handle id hid).imp_left hmono
  · intro hlevel
    rw [h.latest] at hlevel
    exact hmono (hinv.sent hlevel)
  · intro status hchecking hlevel
    exact hmono (hinv.checking status (h.checking status hchecking) hlevel)
  · intro status hstatus
    exact hinv.sick status (h.live status hstatus)

theorem Escalates.tick (hinv : Escalates w mon)
    (hkept : (latest mon).fixTry = 0 → mon.entry.fixTry = 0) :
    Escalates w { mon with checkCompleted := false, checking := some mon.entry } where
  handle := hinv.handle
  sent := hinv.sent
  checking := by
    intro status hchecking hlevel
    have hentry : mon.entry = status := Option.some.inj hchecking
    rw [← hentry] at hlevel
    exact hinv.sent fun hzero => hlevel (hkept hzero)
  sick := by
    intro status hstatus
    apply hinv.sick
    simp only [live, List.mem_cons, List.mem_append, Option.toList_some, List.not_mem_nil,
      or_false] at *
    tauto

theorem latest_resetFix {aggregator : Except BoxError Unit} :
    (latest (resetFix w mon aggregator)).fixTry ≠ 0 →
      latest (resetFix w mon aggregator) = latest mon := by
  have hstatuses : (resetFix w mon aggregator).statuses = mon.statuses := by
    cases aggregator <;> rfl
  have hentry : (resetFix w mon aggregator).entry.fixTry = 0 := by
    cases aggregator <;> rfl
  intro hlevel
  unfold Escalation.latest at *
  rw [hstatuses] at *
  cases hlast : mon.statuses.getLast? with
  | none =>
      rw [hlast] at hlevel
      exact absurd hentry hlevel
  | some status => rfl

theorem Escalates.reset (hinv : Escalates w mon) (aggregator : Except BoxError Unit) :
    Escalates w (resetFix w mon aggregator) := by
  have hmono : RestartFinished mon → RestartFinished (resetFix w mon aggregator) := by
    intro hfinished
    refine hfinished.mono ?_ ?_ <;> cases aggregator <;> exact fun _ h => h
  constructor
  · intro id hid
    cases aggregator with
    | error e => exact hinv.handle id hid
    | ok u =>
        have hnone : stored w.kind (resetFix w mon (.ok u)).actionMap = none :=
          stored_setEntry_of_clear fun _ => rfl
        rw [hnone] at hid
        cases hid
  · intro hlevel
    have hsame := latest_resetFix hlevel
    rw [hsame] at hlevel
    exact hmono (hinv.sent hlevel)
  · intro status hchecking hlevel
    cases aggregator with
    | error e => cases hchecking
    | ok u => exact hmono (hinv.checking status hchecking hlevel)
  · intro status hstatus hlevel
    have hcases : status.fixTry = 0 ∨ status ∈ live mon := by
      cases aggregator <;>
        simp only [live, resetFix, List.mem_cons, List.mem_append, Option.toList_none,
          List.not_mem_nil, or_false] at * <;>
        rcases hstatus with rfl | hstatus
      · exact Or.inl rfl
      · exact Or.inr (Or.inr (Or.inl hstatus))
      · exact Or.inl rfl
      · exact Or.inr (Or.inr hstatus)
    rcases hcases with hzero | hmem
    · exact absurd hzero hlevel
    · exact hinv.sick status hmem hlevel

theorem handleOk_supervisor (hkind : w.kind = SvcKind.superXray) (runs : List FixRun)
    (m : ActionMap) :
    handleOk w runs c status m =
      { status := .ok (recovered status)
        actionMap := m
        spawned := none
        extraInfo := "" } := by
  have hhealth : (recovered status).health = .Ok := by
    unfold recovered
    split
    · rfl
    · rename_i hfine
      simpa using fun h => hfine (Or.inr h)
  simp [handleOk, hkind, superXrayActions, hhealth]

theorem recovered_fixTry (hsick : status.fixTry ≠ 0 → status.health = .Sick) :
    (recovered status).fixTry = 0 := by
  unfold recovered
  split
  · rfl
  · rename_i hfine
    by_contra hlevel
    exact hfine (Or.inr (by rw [hsick hlevel]; decide))

theorem Escalates.healthy (hinv : Escalates w mon) (hkind : w.kind = SvcKind.superXray)
    (hchecking : mon.checking = some status) (hfree : stored w.kind mon.actionMap = none)
    (hkept : c.aggregator.isOk = true ∨ (Escalation.latest mon).fixTry = 0) :
    Escalates w (applyChecker w mon true c status) := by
  have hmem : status ∈ live mon := by simp [live, hchecking]
  have hlevel := recovered_fixTry (hinv.sick status hmem)
  have hhandled : handleResponse w mon.runs c true status mon.actionMap =
      { status := .ok (recovered status)
        actionMap := mon.actionMap
        spawned := none
        extraInfo := "" } := handleOk_supervisor hkind mon.runs mon.actionMap
  have hmap : (applyChecker w mon true c status).actionMap = mon.actionMap := by
    simp only [applyChecker, hhandled]
  have hsent := applyChecker_sent hhandled
  constructor
  · intro id hid
    rw [hmap, hfree] at hid
    cases hid
  · intro hrisen
    rcases hsent with ⟨sent, hstatus, hlatest, -⟩ | ⟨hlost, hlatest, -⟩
    · have hsame : recovered status = sent := Except.ok.inj hstatus
      rw [hlatest, ← hsame] at hrisen
      exact absurd hlevel hrisen
    · rw [hlatest] at hrisen
      rcases hkept with hok | hzero
      · exact absurd ⟨rfl, hok⟩ hlost
      · exact absurd hzero hrisen
  · intro status' hchecking'
    cases hchecking'
  · intro status' hstatus' hrisen
    rcases hsent with ⟨sent, hstatus, -, hlive⟩ | ⟨-, -, hlive⟩
    · rcases hlive status' hstatus' with hsame | hold
      · have hrecovered : recovered status = sent := Except.ok.inj hstatus
        rw [hsame, ← hrecovered] at hrisen
        exact absurd hlevel hrisen
      · exact hinv.sick status' hold hrisen
    · exact hinv.sick status' (hlive status' hstatus') hrisen

theorem handleErr_supervisor (hkind : w.kind = SvcKind.superXray) (runs : List FixRun)
    (c : Circumstances) (status : SvcStatus) (m : ActionMap) :
    Treats (attends w c status m = true) SvcKind.superXray runs c.lastXuiDb status.fixTry
      (stored w.kind m) (handleErr w runs c status m) := by
  have htreats : Treats (attends w c status m = true) w.kind runs c.lastXuiDb status.fixTry
      (stored w.kind m) (handleErr w runs c status m) := handleErr_treats (Or.inr hkind)
  rw [hkind] at htreats ⊢
  exact htreats

/-- A level above zero that an unhealthy check reports was reached by a restart. -/
theorem Escalates.reports (hinv : Escalates w mon) (hkind : w.kind = SvcKind.superXray)
    (hchecking : mon.checking = some status) :
    Reports (handleErr w mon.runs c status mon.actionMap) fun level =>
      level ≠ 0 → RestartFinished mon := by
  have htreats := handleErr_supervisor hkind mon.runs c status mon.actionMap
  intro sent hsent
  cases htreats with
  | rest hspawned hstored hreports =>
      obtain ⟨hsick, hlevel⟩ := hreports sent hsent
      refine ⟨hsick, fun hrisen => hinv.checking status hchecking ?_⟩
      rw [← hlevel]
      exact hrisen
  | start action hfree haction hspawned hstored hreports hok =>
      obtain ⟨hsick, hlevel⟩ := hreports sent hsent
      refine ⟨hsick, fun hrisen => hinv.checking status hchecking ?_⟩
      rw [← hlevel]
      exact hrisen
  | harvest hreached hlt id hid outcome hfinished hspawned hstored hreports hkeeps =>
      -- The run that is taken out is the restart whose handle was stored.
      obtain ⟨hsick, -⟩ := hreports sent hsent
      refine ⟨hsick, fun _ => ?_⟩
      rcases hinv.handle id hid with hdone | hstarted
      · exact hdone
      · exact ⟨_, hstarted, rfl, by simp [hfinished]⟩
  | advance hnginx => cases hnginx

/-- The handle that is stored after an unhealthy check is that of a restart, unless one
has finished. -/
theorem Escalates.handle_unhealthy (hinv : Escalates w mon)
    (hkind : w.kind = SvcKind.superXray) (hchecking : mon.checking = some status) {id : Nat}
    (hid : stored w.kind (handleErr w mon.runs c status mon.actionMap).actionMap = some id) :
    RestartFinished mon ∨
      (id, .XrayRestart) ∈ episode (applyChecker w mon false c status).checks := by
  have htreats := handleErr_supervisor hkind mon.runs c status mon.actionMap
  rw [episode_applyChecker]
  rw [hkind] at hid
  cases htreats with
  | rest hspawned hstored hreports =>
      rw [hstored] at hid
      exact (hinv.handle id hid).imp_right fun hmem => List.mem_append_right _ hmem
  | start action hfree haction hspawned hstored hreports hok =>
      rw [hstored] at hid
      have hsame : mon.runs.length = id := Option.some.inj hid
      rcases Nat.eq_zero_or_pos status.fixTry with hzero | hrisen
      · rw [hzero] at haction
        have hrestart : AnsibleAction.XrayRestart = action := Option.some.inj haction
        refine Or.inr (List.mem_append_left _ ?_)
        simp [hspawned, hsame, hrestart]
      · exact Or.inl (hinv.checking status hchecking (Nat.ne_of_gt hrisen))
  | harvest hreached hlt id' hid' outcome hfinished hspawned hstored hreports hkeeps =>
      rw [hstored] at hid
      cases hid
  | advance hnginx => cases hnginx

theorem Escalates.unhealthy (hinv : Escalates w mon) (hkind : w.kind = SvcKind.superXray)
    (hchecking : mon.checking = some status) :
    Escalates w (applyChecker w mon false c status) := by
  have hmono : RestartFinished mon → RestartFinished (applyChecker w mon false c status) := by
    intro hdone
    refine hdone.mono (fun start hstart => ?_) fun _ => isSome_finished_append
    rw [episode_applyChecker]
    exact List.mem_append_right _ hstart
  have hreports : Reports (handleErr w mon.runs c status mon.actionMap) fun level =>
      level ≠ 0 → RestartFinished mon := hinv.reports hkind hchecking
  have hhandled : handleResponse w mon.runs c false status mon.actionMap =
      handleErr w mon.runs c status mon.actionMap := rfl
  have hsent := applyChecker_sent hhandled
  constructor
  · intro id hid
    exact (hinv.handle_unhealthy hkind hchecking hid).imp_left hmono
  · intro hrisen
    apply hmono
    rcases hsent with ⟨sent, hstatus, hlatest, -⟩ | ⟨-, hlatest, -⟩
    · rw [hlatest] at hrisen
      exact (hreports sent hstatus).2 hrisen
    · rw [hlatest] at hrisen
      exact hinv.sent hrisen
  · intro status' hchecking'
    cases hchecking'
  · intro status' hstatus' hrisen
    rcases hsent with ⟨sent, hstatus, -, hlive⟩ | ⟨-, -, hlive⟩
    · rcases hlive status' hstatus' with hsame | hold
      · rw [hsame]
        exact (hreports sent hstatus).1
      · exact hinv.sick status' hold hrisen
    · exact hinv.sick status' (hlive status' hstatus') hrisen

theorem Escalates.step (hkind : w.kind = SvcKind.superXray) (mon : Monitor) (e : Event)
    (hinv : Escalates w mon) (hkept : RecoveryKept w mon e) : Escalates w (step w mon e) := by
  cases step_does w mon e with
  | idle h => exact hinv.idle h
  | tick he hready h =>
      subst he
      rw [h]
      exact hinv.tick (hkept hready)
  | check healthy c he status hchecking h =>
      subst he
      rw [h]
      cases healthy with
      | true =>
          obtain ⟨hfree, hdelivered⟩ := hkept (by rw [hchecking]; rfl)
          exact hinv.healthy hkind hchecking hfree hdelivered
      | false => exact hinv.unhealthy hkind hchecking
  | reset aggregator he h =>
      rw [h]
      exact hinv.reset aggregator

theorem Escalates.restoresAfterRestart (hkind : w.kind = SvcKind.superXray) (mon : Monitor)
    (e : Event) (hinv : Escalates w mon) : RestoresAfterRestart w mon e := by
  rintro ⟨handled, hhandled, hspawned⟩
  cases e with
  | check healthy c =>
      obtain ⟨status, hchecking, hsame⟩ := Option.map_eq_some_iff.mp hhandled
      subst hsame
      cases healthy with
      | true =>
          have hnone : (handleResponse w mon.runs c true status mon.actionMap).spawned = none := by
            show (handleOk w mon.runs c status mon.actionMap).spawned = none
            rw [handleOk_supervisor hkind]
          rw [hnone] at hspawned
          cases hspawned
      | false =>
          have htreats := handleErr_supervisor hkind mon.runs c status mon.actionMap
          change (handleErr w mon.runs c status mon.actionMap).spawned = _ at hspawned
          apply hinv.checking status hchecking
          intro hzero
          cases htreats with
          | rest hnone =>
              rw [hnone] at hspawned
              cases hspawned
          | start action hfree haction hsome =>
              rw [hzero] at haction
              rw [hsome, ← haction] at hspawned
              cases hspawned
          | harvest _ _ _ _ _ _ hnone =>
              rw [hnone] at hspawned
              cases hspawned
          | advance hnginx => cases hnginx
  | _ => cases hhandled

end Invariant

section Results

variable {w : Watch} {status : SvcStatus} {m : ActionMap} {events : List Event}

/-- While every recovery is kept, the database of a server is only restored after a
restart that was started in the same failure episode has finished. -/
theorem run_restores_after_restart (hkind : w.kind = SvcKind.superXray)
    (hfix : status.fixTry = 0)
    (hkept : Along (step w) (RecoveryKept w) (start w status m) events) :
    Along (step w) (RestoresAfterRestart w) (start w status m) events :=
  along_of_inv (Escalates.step hkind)
    (fun mon e hinv _ => hinv.restoresAfterRestart hkind mon e) (escalates_start hfix) hkept

/-- The restart and the restore are tried, then the service recovers and fails again. -/
def twoEpisodes : List Event :=
  interval false ++ .finish 0 (.output false) :: interval false ++ interval false ++
    .finish 1 (.output true) :: interval false ++ interval true ++ interval false

theorem run_restores_after_restart_twoEpisodes :
    Along (step (watchOf SvcKind.superXray)) (RestoresAfterRestart (watchOf SvcKind.superXray))
        (fresh SvcKind.superXray) twoEpisodes ∧
      ∃ fix ∈ (run (step (watchOf SvcKind.superXray)) (fresh SvcKind.superXray)
        twoEpisodes).runs, fix.action = .XrayRestoreDB :=
  ⟨run_restores_after_restart rfl rfl (by decide +kernel), by decide +kernel⟩

/-- The service recovers while the handle of its restart is stored. -/
def recoversEarly : List Event :=
  interval false ++ interval true ++ .finish 0 (.output true) :: interval false ++ interval false

theorem run_restores_first :
    (watchOf SvcKind.superXray).kind = SvcKind.superXray ∧
      (watchOf SvcKind.superXray).autoFix = true ∧ wellStatus.fixTry = 0 ∧
      ¬ Along (step (watchOf SvcKind.superXray))
        (RestoresAfterRestart (watchOf SvcKind.superXray)) (fresh SvcKind.superXray)
        recoversEarly :=
  ⟨rfl, rfl, rfl, by decide +kernel⟩

end Results

end Xcplane.RestoreOrder
