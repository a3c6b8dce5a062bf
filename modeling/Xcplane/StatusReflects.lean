import Xcplane.FixAttempts
import Xcplane.ServerMonitors

/-!
Whether the status of a monitor tells its checks. A new status travels through the
corrective actions and the aggregator's channel before the monitor gets it, and is lost
where one of them fails.
-/

namespace Xcplane.StatusReflects

open Xcplane.Lib
open Xcplane.Types
open Xcplane.Deploy
open Xcplane.Service
open Xcplane.Escalation
open Xcplane.FixAttempts
open Xcplane.ServerMonitors

section Statement

/-- What the status says of the failures, of the health and of the current episode is
what the results tell. -/
structure Reflects (loaded : SvcStatus) (results : List Result) (status : SvcStatus) : Prop where
  failedCount : status.failedCount = failures loaded results
  health : status.health = healthAfter loaded results
  failedSince : 0 < failures loaded results → .ok status.failedSince = since loaded results

/-- The inbound that a service is, if it is one and not the supervisor of all. -/
def individual : SvcKind → Option String
  | .Xray inbound => if inbound = SvcKind.superName then none else some inbound
  | _ => none

/-- A healthy check leaves a status, and it is delivered. -/
structure SuccessKept (w : Watch) (c : Circumstances) : Prop where
  known : ∀ inbound ∈ individual w.kind, inbound ∈ w.inbounds
  delivered : c.aggregator.isOk = true

/-- An unhealthy check leaves a status, and it is delivered: the clock answers for the
first failure, a finished run that is taken out has ended with an output, an inbound that
has reached the threshold finds its supervisor. -/
structure FailureKept (w : Watch) (mon : Monitor) (c : Circumstances) (status : SvcStatus) :
    Prop where
  clock : status.failedCount = 0 → c.now.isOk = true
  taken : w.kind = .Nginx ∨ w.kind = SvcKind.superXray → ∀ outcome ∈ taken w mon c status,
    Keeps w.kind c.lastXuiDb status.fixTry outcome
  supervisor : (individual w.kind).isSome = true → w.autoFix = true →
    w.fixThreshold ≤ status.failedCount + 1 →
      (mon.actionMap SvcKind.superXray).isSome = true
  delivered : c.aggregator.isOk = true

/-- A healthy check of a service that was well has nothing to tell. -/
def CheckKept (w : Watch) (mon : Monitor) (healthy : Bool) (c : Circumstances)
    (status : SvcStatus) : Prop :=
  match healthy with
  | true => status.health = .Ok ∧ status.failedCount = 0 ∨ SuccessKept w c
  | false => FailureKept w mon c status

variable (S : Supervision) (kind : SvcKind)

/-- The result message of a check is handled before the next check starts. -/
def Received (st : Monitors) : ServerMonitors.Event → Prop
  | .service kind' .tick =>
      kind' = kind → ∀ n ∈ st.monitored kind,
        (n.monitor.running && n.monitor.checkCompleted) = true → n.monitor.statuses = []
  | _ => True

def Kept (st : Monitors) : ServerMonitors.Event → Prop
  | .service kind' (.check healthy c) =>
      kind' = kind → ∀ n ∈ st.monitored kind, ∀ status ∈ n.monitor.checking,
        CheckKept (S.watch kind) (n.seeing st.registry) healthy c status
  | _ => True

/-- With no check in flight and no result message left, the status of the monitor tells
its checks. -/
def UpToDate (st : Monitors) : Prop :=
  ∀ n ∈ st.monitored kind, n.monitor.checking = none → n.monitor.statuses = [] →
    Reflects (S.history kind) n.results n.monitor.entry

end Statement

section Fallible

variable {w : Watch} {runs : List FixRun} {c : Circumstances} {status : SvcStatus}
  {m : ActionMap} {mon : Monitor} {action : DashAction}

/-- The outcome of the stored run, if it has ended. -/
def ended (kind : SvcKind) (m : ActionMap) (runs : List FixRun) : Option FixOutcome :=
  (stored kind m).bind (finished runs)

theorem ended_of_entered {kind : SvcKind} (hentered : Entered kind status m action) :
    ended kind m runs = action.fixAction.bind (finished runs) := by
  rw [ended, stored_of_entry hentered.entry]

/-- A course ends with an error exactly where the outcome of a finished run is lost. -/
theorem isOk_of_course_iff {kind : SvcKind}
    {lastXuiDb : Except BoxError (Except BoxError Unit)} {handled : Handled}
    (haction : m kind = some action) (h : Course kind runs lastXuiDb status m handled) :
    handled.status.isOk = true ↔
      (siblingsHealthy kind m = true ∧ status.fixTry < 2 →
        ∀ outcome ∈ ended kind m runs, Keeps kind lastXuiDb status.fixTry outcome) := by
  cases h with
  | closed hclosed => simp [hclosed, isOk_ok]
  | exhausted _ hlevel => simp [hlevel, isOk_ok]
  | unregistered _ hentry =>
      rw [hentry] at haction
      cases haction
  | free hentered hfree => simp [ended_of_entered hentered, hfree, isOk_ok]
  | running hentered hid hrunning => simp [ended_of_entered hentered, hid, hrunning, isOk_ok]
  | lost hentered hid hfinished hlost =>
      refine iff_of_false (by simp [isOk_error]) ?_
      intro hkeeps
      apply hlost
      apply hkeeps ⟨hentered.siblings, hentered.level⟩
      simp [ended_of_entered hentered, hid, hfinished]
  | next hkind hentered hid hfinished hjoined =>
      subst hkind
      simp [ended_of_entered hentered, hid, hfinished, Keeps, hjoined, isOk_ok]
  | counted hentered hid hfinished hjoined hskip =>
      simp [ended_of_entered hentered, hid, hfinished, Keeps, hjoined, hskip, isOk_ok]

/-- What the corrective actions need to come to a status. -/
structure Fixable (w : Watch) (runs : List FixRun) (c : Circumstances) (status : SvcStatus)
    (m : ActionMap) : Prop where
  taken : w.kind = .Nginx ∨ w.kind = SvcKind.superXray →
    siblingsHealthy w.kind m = true ∧ status.fixTry < 2 →
      ∀ outcome ∈ ended w.kind m runs, Keeps w.kind c.lastXuiDb status.fixTry outcome
  supervisor : (individual w.kind).isSome = true → (m SvcKind.superXray).isSome = true

theorem fixActions_isOk_iff (hsick : status.health = .Sick) (haction : m w.kind = some action) :
    (fixActions w runs c status m).status.isOk = true ↔ Fixable w runs c status m := by
  unfold fixActions
  split
  · rename_i hkind
    have hother : ¬ (w.kind = .Nginx ∨ w.kind = SvcKind.superXray) := by
      rw [hkind]
      decide
    exact iff_of_true rfl ⟨fun h => absurd h hother, by simp [individual, hkind]⟩
  · rename_i hkind
    rw [hkind] at haction
    rw [isOk_of_course_iff haction (nginxActions_course c.lastXuiDb)]
    constructor
    · intro h
      exact ⟨fun _ => by rwa [hkind], by simp [individual, hkind]⟩
    · intro h
      have htaken := h.taken (.inl hkind)
      rwa [hkind] at htaken
  · rename_i inbound hkind
    split
    · rename_i hsuper
      have hkind' : w.kind = SvcKind.superXray := by rw [hkind, hsuper, SvcKind.superXray]
      rw [hkind'] at haction
      rw [superXrayActions_sick hsick, isOk_of_course_iff haction superXraySick_course]
      constructor
      · intro h
        exact ⟨fun _ => by rwa [hkind'], by simp [individual, hkind, hsuper]⟩
      · intro h
        have htaken := h.taken (.inr hkind')
        rwa [hkind'] at htaken
    · rename_i hsuper
      have hother : ¬ (w.kind = .Nginx ∨ w.kind = SvcKind.superXray) := by
        rw [hkind]
        simp [SvcKind.superXray, hsuper]
      unfold superSiblingFixtry
      cases hentry : m SvcKind.superXray with
      | none =>
          refine iff_of_false (by simp [isOk_error]) ?_
          intro h
          have hfound := h.supervisor (by simp [individual, hkind, hsuper])
          rw [hentry] at hfound
          cases hfound
      | some action' =>
          exact iff_of_true rfl ⟨fun h => absurd h hother, fun _ => by rw [hentry]; rfl⟩

theorem failedOnce_isOk_iff {now : Except BoxError Nat} :
    (failedOnce now status).isOk = true ↔ (status.failedCount = 0 → now.isOk = true) := by
  unfold failedOnce
  by_cases hfirst : status.failedCount = 0
  · cases now with
    | error e => simp [hfirst, bind, Except.bind, isOk_error]
    | ok t => simp [hfirst, bind, Except.bind, isOk_ok]
  · simp [hfirst, bind, Except.bind, isOk_ok]

/-- The corrective actions find the registry with the service marked as sick. -/
theorem fixable_sick_iff {failed : SvcStatus} (hlevel : failed.fixTry = status.fixTry) :
    Fixable w runs c failed (setEntry m w.kind fun action => { action with svcHealth := .Sick }) ↔
      Fixable w runs c status m := by
  have hended : ended w.kind (setEntry m w.kind fun action => { action with svcHealth := .Sick })
      runs = ended w.kind m runs := by
    have hstored : stored w.kind (setEntry m w.kind fun action =>
        { action with svcHealth := .Sick }) = stored w.kind m :=
      stored_setEntry_of_keep fun _ => rfl
    rw [ended, ended, hstored]
  constructor
  · intro h
    refine ⟨fun hkind => ?_, fun hindividual => ?_⟩
    · have htaken := h.taken hkind
      rwa [siblingsHealthy_setEntry hkind, hended, hlevel] at htaken
    · have hfound := h.supervisor hindividual
      rwa [isSome_setEntry] at hfound
  · intro h
    refine ⟨fun hkind => ?_, fun hindividual => ?_⟩
    · rw [siblingsHealthy_setEntry hkind, hended, hlevel]
      exact h.taken hkind
    · rw [isSome_setEntry]
      exact h.supervisor hindividual

/-- An unhealthy check comes to a status exactly when the clock answers for the first
failure, and once the threshold is reached the corrective actions do. -/
theorem handleErr_isOk_iff (haction : m w.kind = some action) :
    (handleErr w runs c status m).status.isOk = true ↔
      (status.failedCount = 0 → c.now.isOk = true) ∧
        (w.autoFix = true → w.fixThreshold ≤ status.failedCount + 1 →
          Fixable w runs c status m) := by
  rw [← failedOnce_isOk_iff]
  unfold handleErr
  split
  · rename_i e hfailed
    simp [hfailed, isOk_error]
  · rename_i failed hfailed
    obtain ⟨hsick, hcount, -⟩ := failedOnce_eq hfailed
    have hlevel : failed.fixTry = status.fixTry := (failedOnce_ok hfailed).2
    rw [hfailed, hcount]
    dsimp only
    split
    · rename_i hreached
      simp only [Bool.and_eq_true, decide_eq_true_eq] at hreached
      have hentry : setEntry m w.kind (fun action => { action with svcHealth := .Sick }) w.kind =
          some { action with svcHealth := .Sick } := by
        simp [setEntry, haction]
      rw [fixActions_isOk_iff hsick hentry, fixable_sick_iff hlevel]
      simp [hreached, isOk_ok]
    · rename_i hbelow
      simp only [Bool.and_eq_true, decide_eq_true_eq, not_and] at hbelow
      refine iff_of_true rfl ⟨rfl, ?_⟩
      intro hautoFix hreached
      exact absurd hreached (hbelow hautoFix)

/-- The finished run that a check takes out is the stored one, if the check comes to the
corrective actions. -/
theorem mem_taken_iff {outcome : FixOutcome} (hclock : status.failedCount = 0 → c.now.isOk = true) :
    outcome ∈ taken w mon c status ↔
      w.autoFix = true ∧ w.fixThreshold ≤ status.failedCount + 1 ∧
        siblingsHealthy w.kind mon.actionMap = true ∧ status.fixTry < 2 ∧
          outcome ∈ ended w.kind mon.actionMap mon.runs := by
  have hok := failedOnce_isOk_iff.mpr hclock
  cases hfailed : failedOnce c.now status with
  | error e =>
      rw [hfailed] at hok
      cases hok
  | ok failed =>
      have hcount := (failedOnce_eq hfailed).2.1
      simp [taken, attends, hfailed, hcount, ended, and_assoc]

theorem failureKept_iff (haction : mon.actionMap w.kind = some action) :
    FailureKept w mon c status ↔
      (handleErr w mon.runs c status mon.actionMap).status.isOk = true ∧
        c.aggregator.isOk = true := by
  rw [handleErr_isOk_iff haction]
  constructor
  · intro h
    refine ⟨⟨h.clock, fun hautoFix hreached => ⟨?_, ?_⟩⟩, h.delivered⟩
    · rintro hkind ⟨hsiblings, hlevel⟩ outcome houtcome
      exact h.taken hkind outcome ((mem_taken_iff h.clock).mpr
        ⟨hautoFix, hreached, hsiblings, hlevel, houtcome⟩)
    · intro hindividual
      exact h.supervisor hindividual hautoFix hreached
  · rintro ⟨⟨hclock, hfixable⟩, hdelivered⟩
    refine ⟨hclock, ?_, ?_, hdelivered⟩
    · intro hkind outcome houtcome
      obtain ⟨hautoFix, hreached, hsiblings, hlevel, houtcome⟩ := (mem_taken_iff hclock).mp houtcome
      exact (hfixable hautoFix hreached).taken hkind ⟨hsiblings, hlevel⟩ outcome houtcome
    · intro hindividual hautoFix hreached
      exact (hfixable hautoFix hreached).supervisor hindividual

theorem handleOk_isOk_iff : (handleOk w runs c status m).status.isOk = true ↔
    ∀ inbound ∈ individual w.kind, inbound ∈ w.inbounds := by
  unfold handleOk
  dsimp only
  split
  · rename_i hkind
    rw [superXrayActions, (recovered_eq status).1]
    exact iff_of_true rfl (by simp [individual, hkind, SvcKind.superXray])
  · rename_i hsuper
    split
    · rename_i inbound hkind
      have hindividual : individual w.kind = some inbound := by
        have hne : inbound ≠ SvcKind.superName := by
          rintro rfl
          exact hsuper hkind
        simp [individual, hkind, hne]
      rw [hindividual]
      split
      · rename_i hknown
        exact iff_of_true rfl (by simpa using hknown)
      · rename_i hunknown
        exact iff_of_false (by simp [isOk_error]) (by simpa using hunknown)
    · rename_i hother
      refine iff_of_true rfl ?_
      intro inbound hinbound
      unfold individual at hinbound
      split at hinbound
      · rename_i inbound' hkind
        exact absurd hkind (hother inbound')
      · cases hinbound

theorem successKept_iff : SuccessKept w c ↔
    (handleOk w runs c status m).status.isOk = true ∧ c.aggregator.isOk = true := by
  rw [handleOk_isOk_iff]
  exact ⟨fun h => ⟨h.known, h.delivered⟩, fun h => ⟨h.1, h.2⟩⟩

end Fallible

section Checks

variable {loaded status s : SvcStatus} {results : List Result} {w : Watch} {n : Monitored}
  {m : ActionMap} {c : Circumstances} {healthy : Bool} {action : DashAction}

theorem Reflects.congr (h : Reflects loaded results status)
    (hs : withoutTry s = withoutTry status) :
    Reflects loaded results s := by
  obtain ⟨hhealth, hcount, hsince⟩ := withoutTry_eq_iff.mp hs
  refine ⟨hcount.trans h.failedCount, hhealth.trans h.health, ?_⟩
  rw [hsince]
  exact h.failedSince

/-- The status that handling a response comes to tells the check. -/
theorem reflects_handled {runs : List FixRun} (h : Reflects loaded results status)
    (hs : (handleResponse w runs c healthy status m).status = .ok s) :
    Reflects loaded (resultFor healthy c :: results) s := by
  cases healthy with
  | true =>
      obtain ⟨hhealth, hcount, -⟩ := recovered_eq status
      rw [handleOk_status hs]
      exact ⟨hcount, hhealth, fun hfailing => absurd hfailing (Nat.lt_irrefl 0)⟩
  | false =>
      obtain ⟨failed, hfailed, hsame⟩ := handleErr_status hs
      obtain ⟨hhealth, hcount, hsince⟩ := failedOnce_eq hfailed
      have hfailed : Reflects loaded (.failed c.now :: results) failed := by
        refine ⟨by rw [hcount, h.failedCount]; rfl, hhealth, fun _ => ?_⟩
        rw [hsince, h.failedCount, since]
        by_cases hfirst : failures loaded results = 0
        · rw [if_pos hfirst, if_pos hfirst]
        · rw [if_neg hfirst, if_neg hfirst]
          exact h.failedSince (Nat.pos_of_ne_zero hfirst)
      exact hfailed.congr hsame

/-- The status from before a check tells it only where nothing has changed. -/
theorem reflects_lost_iff (h : Reflects loaded results status) :
    Reflects loaded (resultFor healthy c :: results) status ↔
      healthy = true ∧ status.health = .Ok ∧ status.failedCount = 0 := by
  cases healthy with
  | true =>
      constructor
      · intro hnext
        exact ⟨rfl, hnext.health, hnext.failedCount⟩
      · rintro ⟨-, hhealth, hcount⟩
        exact ⟨hcount, hhealth, fun hfailing => absurd hfailing (Nat.lt_irrefl 0)⟩
  | false =>
      refine iff_of_false ?_ (by simp)
      intro hnext
      have hcount : status.failedCount = failures loaded results + 1 := hnext.failedCount
      rw [h.failedCount] at hcount
      omega

/-- What the monitor has or is about to receive tells its checks, and a check in flight
has started from it. -/
structure Current (loaded : SvcStatus) (n : Monitored) : Prop where
  reflects : Reflects loaded n.results (latest n.monitor)
  checking : ∀ status, n.monitor.checking = some status →
    n.monitor.statuses = [] ∧ withoutTry status = withoutTry n.monitor.entry

theorem latest_of_nil {mon : Monitor} (h : mon.statuses = []) : latest mon = mon.entry := by
  rw [latest, h]
  rfl

theorem Current.started (h : Current loaded n) (hchecking : n.monitor.checking = some status) :
    Reflects loaded n.results status := by
  obtain ⟨hstatuses, hsame⟩ := h.checking status hchecking
  have hreflects := h.reflects
  rw [latest_of_nil hstatuses] at hreflects
  exact hreflects.congr hsame

/-- The check leaves a status, and it is sent back to the monitor. -/
def Delivered (w : Watch) (mon : Monitor) (healthy : Bool) (c : Circumstances)
    (status : SvcStatus) : Prop :=
  (handleResponse w mon.runs c healthy status mon.actionMap).status.isOk = true ∧
    c.aggregator.isOk = true

theorem checkKept_iff {mon : Monitor} (haction : mon.actionMap w.kind = some action) :
    CheckKept w mon healthy c status ↔
      (healthy = true ∧ status.health = .Ok ∧ status.failedCount = 0) ∨
        Delivered w mon healthy c status := by
  cases healthy with
  | true =>
      have hkept : SuccessKept w c ↔ Delivered w mon true c status := successKept_iff
      simp [CheckKept, hkept]
  | false =>
      have hkept : FailureKept w mon c status ↔ Delivered w mon false c status :=
        failureKept_iff haction
      simp [CheckKept, hkept]

theorem statuses_delivered {mon : Monitor} (hstatuses : mon.statuses = [])
    (h : Delivered w mon healthy c status) :
    ∃ s, (handleResponse w mon.runs c healthy status mon.actionMap).status = .ok s ∧
      (applyChecker w mon healthy c status).statuses = [s] := by
  obtain ⟨hok, hdelivered⟩ := h
  unfold applyChecker
  cases hs : (handleResponse w mon.runs c healthy status mon.actionMap).status with
  | error e =>
      rw [hs] at hok
      cases hok
  | ok s =>
      cases haggregator : c.aggregator with
      | error e =>
          rw [haggregator] at hdelivered
          cases hdelivered
      | ok u => exact ⟨s, rfl, by simp [hstatuses, hs]⟩

theorem statuses_lost {mon : Monitor} (hstatuses : mon.statuses = [])
    (h : ¬ Delivered w mon healthy c status) :
    (applyChecker w mon healthy c status).statuses = [] := by
  simp only [applyChecker]
  split
  · rename_i s hs hdelivered
    exact absurd ⟨by rw [hs]; rfl, by rw [hdelivered]; rfl⟩ h
  · exact hstatuses

/-- A check whose status is kept leaves the monitor current. -/
theorem current_check (h : Current loaded n) (haction : m w.kind = some action)
    (hchecking : n.monitor.checking = some status)
    (hkept : CheckKept w (n.seeing m) healthy c status) :
    Current loaded (n.step w m (.check healthy c)) := by
  obtain ⟨hstatuses, hsame⟩ := h.checking status hchecking
  have hstatuses' : (n.seeing m).statuses = [] := hstatuses
  rw [monitored_step_check hchecking]
  refine ⟨?_, by simp [applyChecker]⟩
  by_cases hdelivered : Delivered w (n.seeing m) healthy c status
  · obtain ⟨s, hs, hsent⟩ := statuses_delivered hstatuses' hdelivered
    have hlatest : latest (applyChecker w (n.seeing m) healthy c status) = s := by
      rw [latest, hsent]
      rfl
    dsimp only
    rw [hlatest]
    exact reflects_handled (h.started hchecking) hs
  · have hwell := ((checkKept_iff haction).mp hkept).resolve_right hdelivered
    dsimp only
    rw [latest_of_nil (statuses_lost hstatuses' hdelivered)]
    have hlost := (reflects_lost_iff (c := c) (h.started hchecking)).mpr hwell
    exact hlost.congr hsame.symm

/-- A check whose status is not kept leaves a monitor behind that has nothing to receive. -/
theorem checkKept_of_reflects (h : Current loaded n) (haction : m w.kind = some action)
    (hchecking : n.monitor.checking = some status)
    (hupToDate : (n.step w m (.check healthy c)).monitor.statuses = [] →
      Reflects loaded (n.step w m (.check healthy c)).results
        (n.step w m (.check healthy c)).monitor.entry) :
    CheckKept w (n.seeing m) healthy c status := by
  obtain ⟨hstatuses, hsame⟩ := h.checking status hchecking
  rw [checkKept_iff haction]
  by_cases hdelivered : Delivered w (n.seeing m) healthy c status
  · exact .inr hdelivered
  · rw [monitored_step_check hchecking] at hupToDate
    have hreflects := hupToDate (statuses_lost hstatuses hdelivered)
    exact .inl ((reflects_lost_iff (h.started hchecking)).mp (hreflects.congr hsame))

theorem current_tick (h : Current loaded n)
    (hreceived : (n.monitor.running && n.monitor.checkCompleted) = true →
      n.monitor.statuses = []) : Current loaded (n.step w m .tick) := by
  simp only [Monitored.step, Service.step]
  split
  · rename_i hready
    refine ⟨h.reflects, ?_⟩
    intro status hstatus
    obtain rfl : n.monitor.entry = status := Option.some.inj hstatus
    exact ⟨hreceived hready, rfl⟩
  · exact ⟨h.reflects, h.checking⟩

theorem current_receive (h : Current loaded n) : Current loaded (n.step w m .receive) := by
  simp only [Monitored.step, Service.step]
  split
  · rename_i status rest hrunning hstatuses
    refine ⟨?_, ?_⟩
    · have hlatest := latest_of_cons hstatuses
      simp only
      rw [hlatest]
      exact h.reflects
    · intro status' hstatus'
      have hnil := (h.checking status' hstatus').1
      rw [Monitored.seeing, hnil] at hstatuses
      cases hstatuses
  · exact ⟨h.reflects, h.checking⟩

theorem withoutTry_latest {mon mon' : Monitor} (hstatuses : mon'.statuses = mon.statuses)
    (hentry : withoutTry mon'.entry = withoutTry mon.entry) :
    withoutTry (latest mon') = withoutTry (latest mon) := by
  rw [latest, latest, hstatuses]
  cases mon.statuses.getLast? with
  | none => exact hentry
  | some status => rfl

theorem current_reset (h : Current loaded n) (aggregator : Except BoxError Unit) :
    Current loaded (n.step w m (.resetFix aggregator)) := by
  simp only [Monitored.step, Service.step]
  split
  · cases aggregator with
    | error e =>
        exact ⟨h.reflects.congr (withoutTry_latest rfl rfl), by rintro status ⟨⟩⟩
    | ok u => exact ⟨h.reflects.congr (withoutTry_latest rfl rfl), h.checking⟩
  · exact ⟨h.reflects, h.checking⟩

end Checks

section Runs

variable {S : Supervision} {st : Monitors} {kind : SvcKind} {e : ServerMonitors.Event}
  {events : List ServerMonitors.Event}

/-- The registry has the entries of the monitors, and the one of the service is current. -/
structure Sound (S : Supervision) (kind : SvcKind) (st : Monitors) : Prop where
  registered : Registered st
  current : ∀ n ∈ st.monitored kind, Current (S.history kind) n

theorem Sound.upToDate (h : Sound S kind st) : UpToDate S kind st := by
  intro n hn _ hstatuses
  have hreflects := (h.current n hn).reflects
  rwa [latest_of_nil hstatuses] at hreflects

theorem current_begin (m : ActionMap) : Current (S.history kind) (begin S kind m) where
  reflects := ⟨rfl, rfl, fun _ => rfl⟩
  checking := by rintro status ⟨⟩

theorem sound_noMonitors : Sound S kind noMonitors where
  registered := by rintro kind ⟨⟩
  current := by rintro n ⟨⟩

theorem Sound.step (h : Sound S kind st) (hreceived : Received kind st e)
    (hkept : Kept S kind st e) :
    Sound S kind (ServerMonitors.step S st e) where
  registered := registered_step h.registered e
  current := by
    apply step_monitored
      (P := fun st e => Registered st ∧ Received kind st e ∧ Kept S kind st e) current_begin _ st e
      h.current ⟨h.registered, hreceived, hkept⟩
    rintro st n e hn hcurrent ⟨hregistered, hreceived, hkept⟩
    cases e with
    | check healthy c =>
        cases hchecking : n.monitor.checking with
        | none =>
            rw [monitored_step_checkNone hchecking]
            exact ⟨hcurrent.reflects, hcurrent.checking⟩
        | some status =>
            obtain ⟨action, haction⟩ := Option.isSome_iff_exists.mp
              (hregistered kind (by rw [hn]; rfl))
            exact current_check hcurrent haction hchecking (hkept rfl n hn status hchecking)
    | tick => exact current_tick hcurrent (hreceived rfl n hn)
    | receive => exact current_receive hcurrent
    | resetFix aggregator => exact current_reset hcurrent aggregator
    | crash =>
        simp only [Monitored.step, Service.step]
        split
        · exact ⟨hcurrent.reflects, hcurrent.checking⟩
        · exact ⟨hcurrent.reflects, by rintro status ⟨⟩⟩
    | join =>
        simp only [Monitored.step, Service.step]
        split
        · exact ⟨hcurrent.reflects, hcurrent.checking⟩
        · exact ⟨hcurrent.reflects, hcurrent.checking⟩
    | finish id outcome => exact ⟨hcurrent.reflects, hcurrent.checking⟩
    | sibling k action =>
        simp only [Monitored.step, Service.step]
        split
        · exact ⟨hcurrent.reflects, hcurrent.checking⟩
        · exact ⟨hcurrent.reflects, hcurrent.checking⟩

/-- A step that leaves the status up to date has kept that of its check. -/
theorem kept_of_upToDate (h : Sound S kind st)
    (hupToDate : UpToDate S kind (ServerMonitors.step S st e)) : Kept S kind st e := by
  cases e with
  | register kind' => trivial
  | begin kind' => trivial
  | service kind' e =>
      cases e with
      | check healthy c =>
          rintro rfl n hn status hchecking
          obtain ⟨action, haction⟩ := Option.isSome_iff_exists.mp
            (h.registered kind' (by rw [hn]; rfl))
          have hnext : (ServerMonitors.step S st (.service kind' (.check healthy c))).monitored
              kind' = some (n.step (S.watch kind') st.registry (.check healthy c)) := by
            simp only [ServerMonitors.step, serviceStep_of_some hn, Function.update_self]
          apply checkKept_of_reflects (h.current n hn) haction hchecking
          apply hupToDate _ hnext
          rw [monitored_step_check hchecking]
          rfl
      | tick | crash | receive | join | resetFix | finish | sibling => trivial

/-- The status of a monitor is up to date after every step exactly when every check keeps
its status: none is lost on the way, or only one that tells nothing new. -/
theorem run_upToDate_iff
    (hreceived : Along (ServerMonitors.step S) (Received kind) noMonitors events) :
    Along (ServerMonitors.step S) (fun st e => UpToDate S kind (ServerMonitors.step S st e))
        noMonitors events ↔
      Along (ServerMonitors.step S) (Kept S kind) noMonitors events := by
  have hinv : ∀ st e, Sound S kind st → Received kind st e → Kept S kind st e →
      Sound S kind (ServerMonitors.step S st e) :=
    fun st e h => h.step
  have hstep : ∀ st e, Sound S kind st → Received kind st e →
      (UpToDate S kind (ServerMonitors.step S st e) ↔ Kept S kind st e) :=
    fun st e h hreceived => ⟨kept_of_upToDate h, fun hkept => (h.step hreceived hkept).upToDate⟩
  exact along_iff_of_inv hinv hstep sound_noMonitors hreceived

end Runs

section Instances

instance (loaded : SvcStatus) (results : List Result) (status : SvcStatus) :
    Decidable (Reflects loaded results status) :=
  decidable_of_iff (_ ∧ _ ∧ (_ → _)) ⟨fun h => ⟨h.1, h.2.1, h.2.2⟩, fun h => ⟨h.1, h.2, h.3⟩⟩

instance (w : Watch) (c : Circumstances) : Decidable (SuccessKept w c) :=
  decidable_of_iff (_ ∧ _) ⟨fun h => ⟨h.1, h.2⟩, fun h => ⟨h.1, h.2⟩⟩

instance (w : Watch) (mon : Monitor) (c : Circumstances) (status : SvcStatus) :
    Decidable (FailureKept w mon c status) :=
  decidable_of_iff ((_ → _) ∧ (_ → _) ∧ (_ → _ → _ → _) ∧ _)
    ⟨fun h => ⟨h.1, h.2.1, h.2.2.1, h.2.2.2⟩, fun h => ⟨h.1, h.2, h.3, h.4⟩⟩

instance (w : Watch) (mon : Monitor) (c : Circumstances) (status : SvcStatus) :
    (healthy : Bool) → Decidable (CheckKept w mon healthy c status)
  | true => inferInstanceAs (Decidable (_ ∧ _ ∨ SuccessKept w c))
  | false => inferInstanceAs (Decidable (FailureKept w mon c status))

variable (S : Supervision) (kind : SvcKind) (st : Monitors)

instance : Decidable (UpToDate S kind st) := by
  unfold UpToDate
  infer_instance

instance : (e : ServerMonitors.Event) → Decidable (Received kind st e)
  | .service kind' .tick =>
      inferInstanceAs (Decidable (kind' = kind → ∀ n ∈ st.monitored kind, _ = true → _ = []))
  | .service _ (.check _ _) => isTrue trivial
  | .service _ .crash => isTrue trivial
  | .service _ .receive => isTrue trivial
  | .service _ .join => isTrue trivial
  | .service _ (.resetFix _) => isTrue trivial
  | .service _ (.finish _ _) => isTrue trivial
  | .service _ (.sibling _ _) => isTrue trivial
  | .register _ => isTrue trivial
  | .begin _ => isTrue trivial

instance : (e : ServerMonitors.Event) → Decidable (Kept S kind st e)
  | .service kind' (.check healthy c) =>
      inferInstanceAs (Decidable (kind' = kind → ∀ n ∈ st.monitored kind,
        ∀ status ∈ n.monitor.checking,
          CheckKept (S.watch kind) (n.seeing st.registry) healthy c status))
  | .service _ .tick => isTrue trivial
  | .service _ .crash => isTrue trivial
  | .service _ .receive => isTrue trivial
  | .service _ .join => isTrue trivial
  | .service _ (.resetFix _) => isTrue trivial
  | .service _ (.finish _ _) => isTrue trivial
  | .service _ (.sibling _ _) => isTrue trivial
  | .register _ => isTrue trivial
  | .begin _ => isTrue trivial

end Instances

/-- Nginx fails beside a healthy SSH, its restart ends, and it still fails. -/
def restarted (outcome : FixOutcome) : List ServerMonitors.Event :=
  watched .Ssh ++ watched .Nginx ++ intervalOf .Ssh true ++ intervalOf .Nginx false ++
    [.service .Nginx (.finish 0 outcome)] ++ intervalOf .Nginx false

theorem run_upToDate_iff_output :
    Along (ServerMonitors.step (supervised 1))
      (fun st e => UpToDate (supervised 1) .Nginx (ServerMonitors.step (supervised 1) st e))
        noMonitors (restarted (.output false)) := by
  have hreceived : Along (ServerMonitors.step (supervised 1)) (Received .Nginx) noMonitors
      (restarted (.output false)) := by decide
  exact (run_upToDate_iff hreceived).mpr (by decide)

/-- A restart that could not be run at all makes the monitor miss the failure that found it
ended. -/
theorem run_errored_outdated :
    ¬ ∀ (S : Supervision) (kind : SvcKind) (events : List ServerMonitors.Event),
      Along (ServerMonitors.step S) (Received kind) noMonitors events →
        Along (ServerMonitors.step S) (fun st e => UpToDate S kind (ServerMonitors.step S st e))
          noMonitors events := by
  intro h
  have hreceived : Along (ServerMonitors.step (supervised 1)) (Received .Nginx) noMonitors
      (restarted (.err "no ansible-playbook")) := by decide
  exact absurd (h (supervised 1) .Nginx _ hreceived) (by decide)

end Xcplane.StatusReflects
