import Xcplane.FixAttempts
import Xcplane.OneFix
import Xcplane.ServerMonitors

/-!
What has to hold before a corrective run is started, told from the results of the
checks: the gates read counters that are carried from check to check.
-/

namespace Xcplane.FixGates

open Xcplane.Lib
open Xcplane.Types
open Xcplane.Deploy
open Xcplane.Service
open Xcplane.Escalation
open Xcplane.FixAttempts
open Xcplane.OneFix
open Xcplane.ServerMonitors

section Statement

variable (S : Supervision) (kind : SvcKind)

/-- The check starts from the status of the previous completed one, up to a reset of the
fix level, and what it comes to is a status. -/
def Orderly (w : Watch) (n : Monitored) (m : ActionMap) : Service.Event → Prop
  | .tick =>
      (n.monitor.running && n.monitor.checkCompleted) = true →
        withoutTry n.monitor.entry = withoutTry n.last
  | .check healthy c =>
      ∀ handled ∈ handledBy w (n.seeing m) (.check healthy c), handled.status.isOk = true
  | _ => True

def Regular (st : Monitors) : ServerMonitors.Event → Prop
  | .service kind' e =>
      kind' = kind → ∀ n ∈ st.monitored kind, Orderly (S.watch kind) n st.registry e
  | _ => True

/-- The gates that were open when a check started a corrective run. -/
structure Gates (n : Monitored) (m : ActionMap) (results : List Result) (handled : Handled) :
    Prop where
  corrective : kind = .Nginx ∨ kind = SvcKind.superXray
  autoFix : S.autoFix = true
  failures : S.fixThreshold ≤ failures (S.history kind) results
  ssh : siblingHealthCheck m .Ssh = true
  nginx : kind = SvcKind.superXray → siblingHealthCheck m .Nginx = true
  attempts : ∀ status ∈ n.monitor.checking, status.fixTry < 2
  reported : ∀ status, handled.status = .ok status → status.fixTry < 2
  handle : ∀ id ∈ stored kind m, (finished n.monitor.runs id).isSome = true

/-- A check of the service starts a corrective run only through the gates. -/
def Gated (st : Monitors) : ServerMonitors.Event → Prop
  | .service kind' e =>
      kind' = kind → ∀ n ∈ st.monitored kind,
        ∀ handled ∈ handledBy (S.watch kind) (n.seeing st.registry) e,
          handled.spawned ≠ none →
            Gates S kind n st.registry
              (n.step (S.watch kind) st.registry e).results handled
  | _ => True

def Low (m : ActionMap) : Prop :=
  ∀ kind, ∀ action ∈ m kind, action.fixTry ≤ 2

structure LowMonitored (n : Monitored) : Prop where
  last : n.last.fixTry ≤ 2
  live : ∀ status ∈ live n.monitor, status.fixTry ≤ 2

/-- No fix level is beyond the second attempt: none of the registry, and none of the last
status of a monitor and of those that are still of use to it. -/
structure TriedTwice (st : Monitors) : Prop where
  registry : Low st.registry
  monitored : ∀ kind, ∀ n ∈ st.monitored kind, LowMonitored n

end Statement

section Gates

variable {w : Watch} {runs : List FixRun} {c : Circumstances} {status : SvcStatus}
  {m : ActionMap} {kind : SvcKind} {handled : Handled}

/-- The gates of the actions themselves, for the check that has found the service
unhealthy at a fix level. -/
structure Admits (kind : SvcKind) (m : ActionMap) (runs : List FixRun) (level : Nat)
    (handled : Handled) : Prop where
  siblings : siblingsHealthy kind m = true
  attempts : level < 2
  reported : ∀ status, handled.status = .ok status → status.fixTry < 2
  handle : ∀ id ∈ stored kind m, (finished runs id).isSome = true

theorem startOf_reported (hkind : kind = .Nginx ∨ kind = SvcKind.superXray) {nextId : Nat}
    (h : (startOf kind nextId status m).spawned ≠ none) :
    ∀ s, (startOf kind nextId status m).status = .ok s → s.fixTry < 2 := by
  intro s hs
  rw [startOf_status] at hs
  obtain rfl : status = s := Except.ok.inj hs
  rw [startOf_spawned hkind] at h
  by_contra hlevel
  exact h (actionAt_eq_none kind (by omega))

theorem admits_of_course {lastXuiDb : Except BoxError (Except BoxError Unit)}
    (hkind : kind = .Nginx ∨ kind = SvcKind.superXray)
    (hcourse : Course kind runs lastXuiDb status m handled) (h : handled.spawned ≠ none) :
    Admits kind m runs status.fixTry handled := by
  cases hcourse with
  | closed => exact absurd rfl h
  | exhausted => exact absurd rfl h
  | unregistered => exact absurd rfl h
  | free hentered hfree =>
      refine ⟨hentered.siblings, hentered.level, startOf_reported hkind h, ?_⟩
      simp [stored_of_entry hentered.entry, hfree]
  | running => exact absurd rfl h
  | lost => exact absurd rfl h
  | next _ hentered hid hfinished =>
      refine ⟨hentered.siblings, hentered.level, startOf_reported hkind h, ?_⟩
      simp [stored_of_entry hentered.entry, hid, hfinished]
  | counted => exact absurd rfl h

theorem Admits.of_keep {f : DashAction → DashAction} {level : Nat}
    (h : Admits kind (setEntry m kind f) runs level handled)
    (hkind : kind = .Nginx ∨ kind = SvcKind.superXray)
    (hf : ∀ action, (f action).fixAction = action.fixAction) :
    Admits kind m runs level handled where
  siblings := by
    rw [← siblingsHealthy_setEntry hkind]
    exact h.siblings
  attempts := h.attempts
  reported := h.reported
  handle := by
    intro id hid
    apply h.handle
    rwa [stored_setEntry_of_keep hf]

/-- An unhealthy check starts a corrective run only with the actions turned on and the
threshold reached, and only for a service that has actions. -/
theorem handleErr_admits (h : (handleErr w runs c status m).spawned ≠ none) :
    (w.kind = .Nginx ∨ w.kind = SvcKind.superXray) ∧ w.autoFix = true ∧
      w.fixThreshold ≤ status.failedCount + 1 ∧
        Admits w.kind m runs status.fixTry (handleErr w runs c status m) := by
  have hkind : w.kind = .Nginx ∨ w.kind = SvcKind.superXray := by
    by_contra hkind
    exact h (handleErr_spawned hkind)
  unfold handleErr at h ⊢
  split at h
  · exact absurd rfl h
  · rename_i failed hfailed
    obtain ⟨hsick, hcount, -⟩ := failedOnce_eq hfailed
    have hlevel : failed.fixTry = status.fixTry := (failedOnce_ok hfailed).2
    dsimp only at h ⊢
    split at h
    · rename_i hreached
      have hopen := hreached
      simp only [Bool.and_eq_true, decide_eq_true_eq] at hopen
      rw [hcount] at hopen
      refine ⟨hkind, hopen.1, hopen.2, ?_⟩
      have hadmits := admits_of_course hkind (fixActions_course hkind hsick) h
      rw [hlevel] at hadmits
      rw [if_pos hreached]
      exact hadmits.of_keep hkind fun _ => rfl
    · exact absurd rfl h

end Gates

section Counting

variable {S : Supervision} {kind : SvcKind} {n : Monitored} {m : ActionMap} {e : Service.Event}
  {w : Watch} {c : Circumstances} {status s : SvcStatus} {healthy : Bool}

/-- The last status counts the failures of the results, and a check in flight started from
that count. -/
structure Counted (loaded : SvcStatus) (n : Monitored) : Prop where
  last : n.last.failedCount = failures loaded n.results
  checking : ∀ status ∈ n.monitor.checking, status.failedCount = n.last.failedCount

theorem handleResponse_failedCount {runs : List FixRun} {loaded : SvcStatus}
    {results : List Result} (hcount : status.failedCount = failures loaded results)
    (hs : (handleResponse w runs c healthy status m).status = .ok s) :
    s.failedCount = failures loaded (resultFor healthy c :: results) := by
  cases healthy with
  | true =>
      rw [handleOk_status hs]
      exact (recovered_eq status).2.1
  | false =>
      obtain ⟨failed, hfailed, hsame⟩ := handleErr_status hs
      rw [(withoutTry_eq_iff.mp hsame).2.1, (failedOnce_eq hfailed).2.1, hcount]
      rfl

theorem counted_step {loaded : SvcStatus} (h : Counted loaded n) (horderly : Orderly w n m e) :
    Counted loaded (n.step w m e) := by
  cases e with
  | check healthy c =>
      cases hchecking : n.monitor.checking with
      | none =>
          rw [monitored_step_checkNone hchecking]
          exact ⟨h.last, h.checking⟩
      | some status =>
          have hok := horderly (handleResponse w n.monitor.runs c healthy status m) (by
            simp [handledBy, Monitored.seeing, hchecking])
          rw [monitored_step_check hchecking]
          cases hs : (handleResponse w n.monitor.runs c healthy status m).status with
          | error e =>
              rw [hs] at hok
              cases hok
          | ok s =>
              have hcount := (h.checking status hchecking).trans h.last
              exact ⟨handleResponse_failedCount hcount hs, by simp [applyChecker]⟩
  | tick =>
      refine ⟨h.last, ?_⟩
      intro status hstatus
      rcases checking_step hstatus with hold | ⟨-, hready, rfl⟩
      · exact h.checking status hold
      · exact (withoutTry_eq_iff.mp (horderly hready)).2.1
  | crash | receive | join | resetFix | finish | sibling =>
      refine ⟨h.last, ?_⟩
      intro status hstatus
      rcases checking_step hstatus with hold | ⟨htick, -⟩
      · exact h.checking status hold
      · cases htick

end Counting

section Levels

variable {w : Watch} {runs : List FixRun} {c : Circumstances} {status : SvcStatus}
  {m : ActionMap} {kind : SvcKind} {f : DashAction → DashAction}

/-- What handling a response leaves has no fix level beyond the second attempt. -/
structure Lowly (handled : Handled) : Prop where
  actionMap : Low handled.actionMap
  status : ∀ s, handled.status = .ok s → s.fixTry ≤ 2

theorem Low.setEntry (hm : Low m) (hf : ∀ action, action.fixTry ≤ 2 → (f action).fixTry ≤ 2) :
    Low (setEntry m kind f) := by
  intro k action haction
  unfold Service.setEntry at haction
  split at haction
  · obtain ⟨action₀, haction₀, rfl⟩ := Option.map_eq_some_iff.mp haction
    exact hf action₀ (hm k action₀ haction₀)
  · exact hm k action haction

theorem lowly_ok {spawned : Option AnsibleAction} {extraInfo : String} (hm : Low m)
    (hs : status.fixTry ≤ 2) : Lowly ⟨.ok status, m, spawned, extraInfo⟩ where
  actionMap := hm
  status s h := by
    obtain rfl : status = s := Except.ok.inj h
    exact hs

theorem lowly_error {e : BoxError} {spawned : Option AnsibleAction} {extraInfo : String}
    (hm : Low m) : Lowly ⟨.error e, m, spawned, extraInfo⟩ where
  actionMap := hm
  status s h := by cases h

theorem skipRestore_le {lastXuiDb : Except BoxError (Except BoxError Unit)} {level level' : Nat}
    {info : String} (hlevel : level ≤ 2)
    (hskip : skipRestore lastXuiDb level = .ok (level', info)) : level' ≤ 2 := by
  unfold skipRestore at hskip
  split at hskip
  · split at hskip
    · cases hskip
    · cases hskip
      omega
    · cases hskip
      omega
  · cases hskip
    exact hlevel

theorem lowly_startOf {nextId : Nat} (hm : Low m) (hs : status.fixTry ≤ 2) :
    Lowly (startOf kind nextId status m) := by
  unfold startOf
  split
  · exact lowly_ok (hm.setEntry fun _ _ => hs) hs
  · exact lowly_ok (hm.setEntry fun _ _ => hs) hs

theorem Low.untied (hm : Low m) : Low (untied kind m) :=
  hm.setEntry fun _ h => h

theorem lowly_of_course {lastXuiDb : Except BoxError (Except BoxError Unit)} {handled : Handled}
    (h : Course kind runs lastXuiDb status m handled) (hm : Low m) (hs : status.fixTry ≤ 2) :
    Lowly handled := by
  cases h with
  | closed => exact lowly_ok hm hs
  | exhausted => exact lowly_ok hm hs
  | unregistered => exact lowly_error hm
  | free => exact lowly_startOf hm hs
  | running => exact lowly_ok hm hs
  | lost => exact lowly_error hm.untied
  | next _ hentered => exact lowly_startOf hm.untied hentered.level
  | counted hentered _ _ _ hskip =>
      exact lowly_ok hm.untied (skipRestore_le hentered.level hskip)

theorem lowly_superXrayActions (hm : Low m) (hs : status.fixTry ≤ 2) :
    Lowly (superXrayActions runs c status m) := by
  unfold superXrayActions
  split
  · exact lowly_of_course superXraySick_course hm hs
  · exact lowly_ok hm hs

theorem lowly_fixActions (hm : Low m) (hs : status.fixTry ≤ 2) :
    Lowly (fixActions w runs c status m) := by
  unfold fixActions
  split
  · exact lowly_ok (hm.setEntry fun _ _ => by simp) (by simp)
  · exact lowly_of_course (nginxActions_course c.lastXuiDb) hm hs
  · split
    · exact lowly_superXrayActions hm hs
    · split
      · exact lowly_error hm
      · rename_i level hlevel
        -- An inbound takes over the level of the supervisor.
        have hsuper : level ≤ 2 := by
          unfold superSiblingFixtry at hlevel
          split at hlevel
          · cases hlevel
          · rename_i action haction
            obtain rfl : action.fixTry = level := Except.ok.inj hlevel
            exact hm _ action haction
        exact lowly_ok (hm.setEntry fun _ _ => hsuper) hsuper

theorem recovered_le (hs : status.fixTry ≤ 2) : (recovered status).fixTry ≤ 2 := by
  unfold recovered
  split
  · exact Nat.zero_le 2
  · exact hs

theorem lowly_handleResponse {healthy : Bool} (hm : Low m) (hs : status.fixTry ≤ 2) :
    Lowly (handleResponse w runs c healthy status m) := by
  cases healthy with
  | true =>
      change Lowly (handleOk w runs c status m)
      have hwell : Low (setEntry m w.kind fun _ => ⟨.Ok, 0, none⟩) :=
        hm.setEntry fun _ _ => Nat.zero_le 2
      unfold handleOk
      dsimp only
      split
      · exact lowly_superXrayActions hm (recovered_le hs)
      · split
        · split
          · exact lowly_ok hwell (recovered_le hs)
          · exact lowly_error hm
        · exact lowly_ok hwell (recovered_le hs)
  | false =>
      change Lowly (handleErr w runs c status m)
      have hsick : Low (setEntry m w.kind fun action => { action with svcHealth := .Sick }) :=
        hm.setEntry fun _ h => h
      unfold handleErr
      split
      · exact lowly_error hm
      · rename_i failed hfailed
        have hlevel : failed.fixTry ≤ 2 := by
          rw [(failedOnce_ok hfailed).2]
          exact hs
        dsimp only
        split
        · exact lowly_fixActions hsick hlevel
        · exact lowly_ok hsick hlevel

theorem live_step {mon : Monitor} {e : Service.Event} (hcheck : ∀ healthy c, e ≠ .check healthy c)
    (hreset : ∀ aggregator, e ≠ .resetFix aggregator) (hs : status ∈ live (Service.step w mon e)) :
    status ∈ live mon := by
  cases step_does w mon e with
  | idle hidle => exact hidle.live status hs
  | tick he hready hstep =>
      rw [hstep] at hs
      simp only [live, Option.toList_some, List.mem_cons, List.mem_append] at hs ⊢
      tauto
  | check healthy c he => exact absurd he (hcheck healthy c)
  | reset aggregator he => exact absurd he (hreset aggregator)

theorem low_monitored_check {n : Monitored} {healthy : Bool} (h : LowMonitored n) (hm : Low m) :
    LowMonitored (n.step w m (.check healthy c)) ∧
      Low (n.step w m (.check healthy c)).monitor.actionMap := by
  cases hchecking : n.monitor.checking with
  | none =>
      rw [monitored_step_checkNone hchecking]
      exact ⟨⟨h.last, h.live⟩, hm⟩
  | some status =>
      have hmem : status ∈ live n.monitor := by simp [live, hchecking]
      have hlowly : Lowly (handleResponse w n.monitor.runs c healthy status m) :=
        lowly_handleResponse hm (h.live status hmem)
      rw [monitored_step_check hchecking]
      refine ⟨⟨?_, ?_⟩, hlowly.actionMap⟩
      · cases hs : (handleResponse w n.monitor.runs c healthy status m).status with
        | error e => exact h.last
        | ok s => exact hlowly.status s hs
      · intro s hs
        have hsame : handleResponse w (n.seeing m).runs c healthy status (n.seeing m).actionMap =
            handleResponse w n.monitor.runs c healthy status m := rfl
        rcases applyChecker_sent hsame with ⟨sent, hsent, -, hlive⟩ | ⟨-, -, hlive⟩
        · rcases hlive s hs with rfl | hold
          · exact hlowly.status s hsent
          · exact h.live s hold
        · exact h.live s (hlive s hs)

theorem low_monitored_reset {n : Monitored} {aggregator : Except BoxError Unit}
    (h : LowMonitored n) (hm : Low m) :
    LowMonitored (n.step w m (.resetFix aggregator)) ∧
      Low (n.step w m (.resetFix aggregator)).monitor.actionMap := by
  simp only [Monitored.step, Service.step]
  split
  · cases aggregator with
    | error e =>
        refine ⟨⟨h.last, ?_⟩, hm⟩
        intro s hs
        simp only [resetFix, Monitored.seeing, live, Option.toList_none, List.append_nil,
          List.mem_cons] at hs
        rcases hs with rfl | hs
        · exact Nat.zero_le 2
        · exact h.live s (by simp [live, hs])
    | ok u =>
        refine ⟨⟨h.last, ?_⟩, hm.setEntry fun _ _ => Nat.zero_le 2⟩
        intro s hs
        simp only [resetFix, Monitored.seeing, live, List.mem_cons] at hs
        rcases hs with rfl | hs
        · exact Nat.zero_le 2
        · exact h.live s (List.mem_cons_of_mem _ hs)
  · exact ⟨⟨h.last, h.live⟩, hm⟩

theorem low_monitored_step {n : Monitored} {e : Service.Event} (h : LowMonitored n) (hm : Low m)
    (hsibling : ∀ k action, e ≠ .sibling k action) :
    LowMonitored (n.step w m e) ∧ Low (n.step w m e).monitor.actionMap := by
  cases e with
  | check healthy c => exact low_monitored_check h hm
  | resetFix aggregator => exact low_monitored_reset h hm
  | sibling k action => exact absurd rfl (hsibling k action)
  | tick | crash | receive | join | finish =>
      refine ⟨⟨h.last, ?_⟩, ?_⟩
      · intro s hs
        have hold : s ∈ live (n.seeing m) := by
          apply live_step _ _ hs
          · rintro _ _ ⟨⟩
          · rintro _ ⟨⟩
        exact h.live s hold
      · simp only [Monitored.step, Service.step]
        first
          | exact hm
          | split <;> exact hm

end Levels

section Runs

variable {S : Supervision} {st : Monitors} {kind : SvcKind} {events : List ServerMonitors.Event}

theorem TriedTwice.update {n : Monitored} (h : TriedTwice st) (hn : LowMonitored n)
    (hm : Low n.monitor.actionMap) :
    TriedTwice
      { registry := n.monitor.actionMap
        monitored := Function.update st.monitored kind (some n) } where
  registry := hm
  monitored k n' hn' := by
    dsimp only at hn'
    by_cases hk : k = kind
    · subst hk
      rw [Function.update_self] at hn'
      cases hn'
      exact hn
    · rw [Function.update_of_ne hk] at hn'
      exact h.monitored k n' hn'

theorem triedTwice_service {e : Service.Event} (h : TriedTwice st)
    (hsibling : ∀ k action, e ≠ .sibling k action) : TriedTwice (serviceStep S st kind e) := by
  cases hn : st.monitored kind with
  | none =>
      rw [serviceStep, hn]
      exact h
  | some n =>
      obtain ⟨hlow, hregistry⟩ :=
        low_monitored_step (w := S.watch kind) (h.monitored kind n hn) h.registry hsibling
      rw [serviceStep_of_some hn]
      exact h.update hlow hregistry

theorem triedTwice_step (hhistory : ∀ kind, (S.history kind).fixTry ≤ 2) (h : TriedTwice st)
    (e : ServerMonitors.Event) : TriedTwice (step S st e) := by
  cases e with
  | register kind =>
      refine ⟨?_, h.monitored⟩
      intro k action haction
      simp only [ServerMonitors.step, register] at haction
      by_cases hk : k = kind
      · subst hk
        rw [Function.update_self] at haction
        cases hold : st.registry k with
        | none =>
            rw [hold] at haction
            cases haction
            exact Nat.zero_le 2
        | some action' =>
            rw [hold] at haction
            cases haction
            exact h.registry k _ hold
      · rw [Function.update_of_ne hk] at haction
        exact h.registry k action haction
  | begin kind =>
      simp only [ServerMonitors.step]
      split
      · apply h.update
        · refine ⟨hhistory kind, ?_⟩
          intro status hstatus
          simp only [begin, Service.start, live, Option.toList_none, List.append_nil,
            List.mem_singleton] at hstatus
          rw [hstatus]
          exact hhistory kind
        · exact h.registry.setEntry fun _ _ => hhistory kind
      · exact h
  | service kind e =>
      cases e with
      | sibling k action => exact h
      | tick | check | crash | receive | join | resetFix | finish =>
          exact triedTwice_service h (by rintro _ _ ⟨⟩)

theorem triedTwice_noMonitors : TriedTwice noMonitors where
  registry := by
    intro kind action haction
    cases haction
  monitored := by
    intro kind n hn
    cases hn

theorem counted_run (st : Monitors) (e : ServerMonitors.Event)
    (hcounted : ∀ n ∈ st.monitored kind, Counted (S.history kind) n)
    (hregular : Regular S kind st e) :
    ∀ n ∈ (step S st e).monitored kind, Counted (S.history kind) n := by
  apply step_monitored (P := Regular S kind) _ _ st e hcounted hregular
  · intro m
    exact ⟨rfl, by simp [begin, Service.start]⟩
  · intro st n e hn hcounted hregular
    exact counted_step hcounted (hregular rfl n hn)

theorem gates_of_counted {n : Monitored} {m : ActionMap} {healthy : Bool} {c : Circumstances}
    {status : SvcStatus} (hcounted : Counted (S.history kind) n)
    (hchecking : n.monitor.checking = some status)
    (hspawned : (handleResponse (S.watch kind) n.monitor.runs c healthy status m).spawned ≠ none) :
    Gates S kind n m (n.step (S.watch kind) m (.check healthy c)).results
      (handleResponse (S.watch kind) n.monitor.runs c healthy status m) := by
  cases healthy with
  | true => exact absurd handleOk_spawned hspawned
  | false =>
      obtain ⟨hkind, hautoFix, hreached, hadmits⟩ := handleErr_admits hspawned
      have hcount := (hcounted.checking status hchecking).trans hcounted.last
      have hsiblings := hadmits.siblings
      simp only [siblingsHealthy, Bool.and_eq_true, Bool.or_eq_true, decide_eq_true_eq]
        at hsiblings
      refine
        { corrective := hkind
          autoFix := hautoFix
          failures := ?_
          ssh := hsiblings.1
          nginx := ?_
          attempts := ?_
          reported := hadmits.reported
          handle := hadmits.handle }
      · rw [monitored_step_check hchecking]
        rwa [hcount] at hreached
      · rintro rfl
        have hother : ¬ SvcKind.superXray = .Nginx := by decide
        exact hsiblings.2.resolve_left hother
      · intro status' hstatus'
        obtain rfl : status = status' := Option.some.inj (hchecking.symm.trans hstatus')
        exact hadmits.attempts

theorem gated_of_counted (e : ServerMonitors.Event)
    (hcounted : ∀ n ∈ st.monitored kind, Counted (S.history kind) n) : Gated S kind st e := by
  cases e with
  | register kind' => trivial
  | begin kind' => trivial
  | service kind' e =>
      intro hkind n hn handled hhandled hspawned
      cases e with
      | check healthy c =>
          obtain ⟨status, hchecking, rfl⟩ := Option.map_eq_some_iff.mp hhandled
          exact gates_of_counted (hcounted n hn) hchecking hspawned
      | tick | crash | receive | join | resetFix | finish | sibling => cases hhandled

/-- A corrective run is only started through the gates, and no fix level gets beyond the
second attempt. -/
theorem run_gated (hregular : Along (ServerMonitors.step S) (Regular S kind) noMonitors events) :
    Along (ServerMonitors.step S) (Gated S kind) noMonitors events ∧
      ((∀ kind, (S.history kind).fixTry ≤ 2) →
        Along (ServerMonitors.step S) (fun st e => TriedTwice (ServerMonitors.step S st e))
          noMonitors events) := by
  constructor
  · apply along_of_inv counted_run _ _ hregular
    · intro st e hcounted _
      exact gated_of_counted e hcounted
    · intro n hn
      cases hn
  · intro hhistory
    apply along_of_inv _ _ triedTwice_noMonitors hregular
    · intro st e h _
      exact triedTwice_step hhistory h e
    · intro st e h _
      exact triedTwice_step hhistory h e

end Runs

section Instances

variable (S : Supervision) (kind : SvcKind) (w : Watch) (n : Monitored) (m : ActionMap)

instance : (e : Service.Event) → Decidable (Orderly w n m e)
  | .tick => inferInstanceAs (Decidable (_ = true → _ = _))
  | .check healthy c =>
      inferInstanceAs (Decidable (∀ handled ∈ handledBy w (n.seeing m) (.check healthy c),
        _ = true))
  | .crash => isTrue trivial
  | .receive => isTrue trivial
  | .join => isTrue trivial
  | .resetFix _ => isTrue trivial
  | .finish _ _ => isTrue trivial
  | .sibling _ _ => isTrue trivial

instance (st : Monitors) : (e : ServerMonitors.Event) → Decidable (Regular S kind st e)
  | .service kind' e =>
      inferInstanceAs (Decidable (kind' = kind → ∀ n ∈ st.monitored kind,
        Orderly (S.watch kind) n st.registry e))
  | .register _ => isTrue trivial
  | .begin _ => isTrue trivial

end Instances

/-- Nginx fails twice in a row beside a healthy SSH, and is restarted. -/
def nginxFails : List ServerMonitors.Event :=
  watched .Ssh ++ watched .Nginx ++ intervalOf .Ssh true ++ intervalOf .Nginx false ++
    intervalOf .Nginx false

theorem run_gated_nginx :
    Along (ServerMonitors.step (supervised 2)) (Gated (supervised 2) .Nginx) noMonitors
        nginxFails ∧
      Along (ServerMonitors.step (supervised 2))
        (fun st e => TriedTwice (ServerMonitors.step (supervised 2) st e)) noMonitors
        nginxFails := by
  have hregular : Along (ServerMonitors.step (supervised 2)) (Regular (supervised 2) .Nginx)
      noMonitors nginxFails := by decide
  have hgated := run_gated hregular
  exact ⟨hgated.1, hgated.2 fun _ => Nat.zero_le 2⟩

end Xcplane.FixGates
