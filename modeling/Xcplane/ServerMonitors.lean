import Xcplane.Escalation

/-!
The monitors of one server side by side. Each keeps a status of its own; what they see
of each other is the registry of fix actions, which every one of them writes to.
-/

namespace Xcplane.ServerMonitors

open Xcplane.Lib
open Xcplane.Types
open Xcplane.Deploy
open Xcplane.Service
open Xcplane.Escalation

/-- What the monitors of a server start with: the settings of the cloud, and the statuses
in the database. -/
structure Supervision where
  inbounds : List String
  autoFix : Bool
  fixThreshold : Nat
  history : SvcKind → SvcStatus

def Supervision.watch (S : Supervision) (kind : SvcKind) : Watch where
  kind := kind
  inbounds := S.inbounds
  autoFix := S.autoFix
  fixThreshold := S.fixThreshold

section Results

/-- How a check ended, and for a failed one what the clock said. -/
inductive Result
  | healthy
  | failed (now : Except BoxError Nat)

/-- The failures in a row up to the last result, which comes first. Those that were
loaded come before all results. -/
def failures (loaded : SvcStatus) : List Result → Nat
  | [] => loaded.failedCount
  | .healthy :: _ => 0
  | .failed _ :: rest => failures loaded rest + 1

def healthAfter (loaded : SvcStatus) : List Result → SvcHealth
  | [] => loaded.health
  | .healthy :: _ => .Ok
  | .failed _ :: _ => .Sick

/-- When the first failure of the last episode was found. -/
def since (loaded : SvcStatus) : List Result → Except BoxError Nat
  | [] => .ok loaded.failedSince
  | .healthy :: rest => since loaded rest
  | .failed now :: rest => if failures loaded rest = 0 then now else since loaded rest

end Results

structure Monitored where
  monitor : Monitor
  results : List Result
  last : SvcStatus

/-- The monitor with what the registry holds now. -/
def Monitored.seeing (n : Monitored) (m : ActionMap) : Monitor :=
  { n.monitor with actionMap := m }

def resultFor (healthy : Bool) (c : Circumstances) : Result :=
  if healthy then .healthy else .failed c.now

def resultOf (mon : Monitor) : Service.Event → Option Result
  | .check healthy c => mon.checking.map fun _ => resultFor healthy c
  | _ => none

/-- A step of the monitor, its result and the status that it comes to. -/
def Monitored.step (w : Watch) (n : Monitored) (m : ActionMap) (e : Service.Event) : Monitored where
  monitor := Service.step w (n.seeing m) e
  results := (resultOf (n.seeing m) e).toList ++ n.results
  last := ((handledBy w (n.seeing m) e).bind fun handled => handled.status.toOption).getD n.last

structure Monitors where
  registry : ActionMap
  monitored : SvcKind → Option Monitored

inductive Event
  | register (kind : SvcKind)
  | begin (kind : SvcKind)
  | service (kind : SvcKind) (e : Service.Event)

def noMonitors : Monitors where
  registry _ := none
  monitored _ := none

section Steps

variable (S : Supervision)

def register (m : ActionMap) (kind : SvcKind) : ActionMap :=
  Function.update m kind ((m kind).or (some ⟨.Unknown, 0, none⟩))

def begin (kind : SvcKind) (m : ActionMap) : Monitored where
  monitor := Service.start (S.watch kind) (S.history kind) m
  results := []
  last := S.history kind

def serviceStep (st : Monitors) (kind : SvcKind) (e : Service.Event) : Monitors :=
  match st.monitored kind with
  | none => st
  | some n =>
      { registry := (n.step (S.watch kind) st.registry e).monitor.actionMap
        monitored := Function.update st.monitored kind
          (some (n.step (S.watch kind) st.registry e)) }

/-- The daemon registers a service before it starts its monitor. What the monitors do to
each other are steps of theirs. -/
def step (st : Monitors) : Event → Monitors
  | .register kind => { st with registry := register st.registry kind }
  | .begin kind =>
      match st.registry kind, st.monitored kind with
      | some _, none =>
          { registry := (begin S kind st.registry).monitor.actionMap
            monitored := Function.update st.monitored kind (some (begin S kind st.registry)) }
      | _, _ => st
  | .service _ (.sibling _ _) => st
  | .service kind e => serviceStep S st kind e

end Steps

section Statuses

/-- What a status says of the checks, without the fix level. -/
def withoutTry (status : SvcStatus) : SvcStatus :=
  { status with fixTry := 0 }

variable {w : Watch} {runs : List FixRun} {c : Circumstances} {status s failed : SvcStatus}
  {m : ActionMap} {now : Except BoxError Nat}

theorem withoutTry_eq_iff : withoutTry s = withoutTry status ↔ s.health = status.health ∧
    s.failedCount = status.failedCount ∧ s.failedSince = status.failedSince := by
  simp [withoutTry]

theorem status_of_course {kind : SvcKind} {lastXuiDb : Except BoxError (Except BoxError Unit)}
    {handled : Handled} (h : Course kind runs lastXuiDb status m handled)
    (hs : handled.status = .ok s) : withoutTry s = withoutTry status := by
  cases h with
  | closed =>
      cases hs
      rfl
  | exhausted =>
      cases hs
      rfl
  | unregistered => cases hs
  | free =>
      rw [startOf_status] at hs
      cases hs
      rfl
  | running =>
      cases hs
      rfl
  | lost => cases hs
  | next =>
      rw [startOf_status] at hs
      cases hs
      rfl
  | counted =>
      cases hs
      rfl

theorem superXrayActions_status (h : (superXrayActions runs c status m).status = .ok s) :
    withoutTry s = withoutTry status := by
  unfold superXrayActions at h
  split at h
  · exact status_of_course superXraySick_course h
  · cases h
    rfl

/-- The corrective actions only change the fix level. -/
theorem fixActions_status (h : (fixActions w runs c status m).status = .ok s) :
    withoutTry s = withoutTry status := by
  unfold fixActions at h
  split at h
  · cases h
    rfl
  · exact status_of_course (nginxActions_course c.lastXuiDb) h
  · split at h
    · exact superXrayActions_status h
    · split at h
      · cases h
      · cases h
        rfl

theorem handleErr_status (h : (handleErr w runs c status m).status = .ok s) :
    ∃ failed, failedOnce c.now status = .ok failed ∧ withoutTry s = withoutTry failed := by
  unfold handleErr at h
  split at h
  · cases h
  · rename_i failed hfailed
    dsimp only at h
    split at h
    · exact ⟨failed, hfailed, fixActions_status h⟩
    · cases h
      exact ⟨_, hfailed, rfl⟩

theorem recovered_eq (status : SvcStatus) : (recovered status).health = .Ok ∧
    (recovered status).failedCount = 0 ∧
      (recovered status).failedSince = status.failedSince := by
  unfold recovered
  split
  · exact ⟨rfl, rfl, rfl⟩
  · rename_i hwell
    rw [not_or, not_lt, Nat.le_zero, not_not] at hwell
    exact ⟨hwell.2, hwell.1, rfl⟩

theorem handleOk_status (h : (handleOk w runs c status m).status = .ok s) :
    s = recovered status := by
  unfold handleOk at h
  dsimp only at h
  split at h
  · rw [superXrayActions, (recovered_eq status).1] at h
    exact (Except.ok.inj h).symm
  · split at h
    · split at h
      · exact (Except.ok.inj h).symm
      · cases h
    · exact (Except.ok.inj h).symm

theorem failedOnce_eq (h : failedOnce now status = .ok failed) :
    failed.health = .Sick ∧ failed.failedCount = status.failedCount + 1 ∧
      .ok failed.failedSince =
        if status.failedCount = 0 then now else .ok status.failedSince := by
  unfold failedOnce at h
  dsimp only at h
  by_cases hfirst : status.failedCount = 0
  · rw [hfirst] at h
    cases now with
    | error e => cases h
    | ok t =>
        cases h
        simp [hfirst]
  · have hnext : status.failedCount + 1 ≠ 1 := by omega
    rw [if_neg hnext] at h
    cases h
    simp [hfirst]

end Statuses

section Registered

variable {w : Watch} {runs : List FixRun} {c : Circumstances} {status : SvcStatus}
  {m : ActionMap} {mon : Monitor} {e : Service.Event} {kind k : SvcKind}
  {f : DashAction → DashAction}

@[simp] theorem isSome_setEntry : (setEntry m kind f k).isSome = (m k).isSome := by
  unfold setEntry
  split
  · exact Option.isSome_map
  · rfl

@[simp] theorem isSome_startOf {nextId : Nat} :
    ((startOf kind nextId status m).actionMap k).isSome = (m k).isSome := by
  unfold startOf
  split
  · exact isSome_setEntry
  · exact isSome_setEntry

@[simp] theorem isSome_untied : (untied kind m k).isSome = (m k).isSome :=
  isSome_setEntry

theorem registered_of_course {lastXuiDb : Except BoxError (Except BoxError Unit)}
    {handled : Handled} (h : Course kind runs lastXuiDb status m handled) :
    (handled.actionMap k).isSome = (m k).isSome := by
  cases h with
  | closed => rfl
  | exhausted => rfl
  | unregistered => rfl
  | free => exact isSome_startOf
  | running => rfl
  | lost => exact isSome_untied
  | next => rw [isSome_startOf, isSome_untied]
  | counted => exact isSome_untied

theorem superXrayActions_registered :
    ((superXrayActions runs c status m).actionMap k).isSome = (m k).isSome := by
  unfold superXrayActions
  split
  · exact registered_of_course superXraySick_course
  · rfl

theorem fixActions_registered :
    ((fixActions w runs c status m).actionMap k).isSome = (m k).isSome := by
  unfold fixActions
  split
  · exact isSome_setEntry
  · exact registered_of_course (nginxActions_course c.lastXuiDb)
  · split
    · exact superXrayActions_registered
    · split
      · rfl
      · exact isSome_setEntry

/-- Handling a response neither adds nor removes an entry. -/
theorem handleResponse_registered {healthy : Bool} :
    ((handleResponse w runs c healthy status m).actionMap k).isSome = (m k).isSome := by
  cases healthy with
  | true =>
      change ((handleOk w runs c status m).actionMap k).isSome = (m k).isSome
      unfold handleOk
      dsimp only
      split
      · exact superXrayActions_registered
      · repeat' split
        all_goals simp
  | false =>
      change ((handleErr w runs c status m).actionMap k).isSome = (m k).isSome
      unfold handleErr
      split
      · rfl
      · dsimp only
        split
        · rw [fixActions_registered, isSome_setEntry]
        · exact isSome_setEntry

theorem step_registered :
    ((Service.step w mon e).actionMap k).isSome = (mon.actionMap k).isSome := by
  cases e with
  | check healthy c =>
      simp only [Service.step]
      split
      · rfl
      · exact handleResponse_registered
  | resetFix aggregator =>
      simp only [Service.step]
      split
      · cases aggregator with
        | error e => rfl
        | ok u => exact isSome_setEntry
      · rfl
  | sibling kind action =>
      simp only [Service.step]
      split
      · rfl
      · exact isSome_setEntry
  | finish id outcome => rfl
  | tick | crash | receive | join =>
      simp only [Service.step]
      split <;> rfl

end Registered

section Monitored

variable {S : Supervision} {st : Monitors} {kind kind' : SvcKind} {e : Service.Event}
  {n : Monitored}

theorem monitored_step_check {w : Watch} {m : ActionMap} {healthy : Bool} {c : Circumstances}
    {status : SvcStatus} (hchecking : n.monitor.checking = some status) :
    n.step w m (.check healthy c) =
      { monitor := applyChecker w (n.seeing m) healthy c status
        results := resultFor healthy c :: n.results
        last := (handleResponse w n.monitor.runs c healthy status m).status.toOption.getD
          n.last } := by
  simp only [Monitored.step, Service.step, resultOf, handledBy, Monitored.seeing, hchecking,
    Option.map_some, Option.toList_some, Option.bind_some]
  rfl

theorem monitored_step_checkNone {w : Watch} {m : ActionMap} {healthy : Bool} {c : Circumstances}
    (hchecking : n.monitor.checking = none) :
    n.step w m (.check healthy c) = { n with monitor := n.seeing m } := by
  simp only [Monitored.step, Service.step, resultOf, handledBy, Monitored.seeing, hchecking,
    Option.map_none, Option.toList_none, Option.bind_none]
  rfl

/-- A check starts with a tick, from the status that the monitor has then. -/
theorem checking_step {w : Watch} {mon : Monitor} {status : SvcStatus}
    (h : (Service.step w mon e).checking = some status) :
    mon.checking = some status ∨
      e = .tick ∧ (mon.running && mon.checkCompleted) = true ∧ mon.entry = status := by
  cases step_does w mon e with
  | idle hidle => exact .inl (hidle.checking status h)
  | tick he hready hstep =>
      rw [hstep] at h
      exact .inr ⟨he, hready, Option.some.inj h⟩
  | check healthy c he status' hchecking hstep =>
      rw [hstep] at h
      cases h
  | reset aggregator he hstep =>
      rw [hstep] at h
      cases aggregator with
      | error e => cases h
      | ok u => exact .inl h

theorem serviceStep_of_some (hn : st.monitored kind = some n) :
    serviceStep S st kind e =
      { registry := (n.step (S.watch kind) st.registry e).monitor.actionMap
        monitored := Function.update st.monitored kind
          (some (n.step (S.watch kind) st.registry e)) } := by
  simp only [serviceStep, hn]

/-- What a step makes of the monitor of a service: nothing, its start, or a step of its
own. -/
inductive Turns (S : Supervision) (st : Monitors) (kind : SvcKind) (e : Event) : Prop
  | idle (h : (step S st e).monitored kind = st.monitored kind)
  | begins (hnone : st.monitored kind = none)
      (h : (step S st e).monitored kind = some (begin S kind st.registry))
  | moves (n : Monitored) (hn : st.monitored kind = some n) (se : Service.Event)
      (he : e = .service kind se) (hsibling : ∀ k action, se ≠ .sibling k action)
      (h : (step S st e).monitored kind = some (n.step (S.watch kind) st.registry se))

theorem turns_service (hsibling : ∀ k action, e ≠ .sibling k action)
    (hstep : step S st (.service kind' e) = serviceStep S st kind' e) :
    Turns S st kind (.service kind' e) := by
  cases hn : st.monitored kind' with
  | none =>
      apply Turns.idle
      rw [hstep, serviceStep, hn]
  | some n =>
      rw [serviceStep_of_some hn] at hstep
      by_cases hkind : kind' = kind
      · subst hkind
        exact .moves n hn e rfl hsibling (by rw [hstep]; exact Function.update_self _ _ _)
      · exact .idle (by rw [hstep]; exact Function.update_of_ne (Ne.symm hkind) _ _)

theorem step_turns (S : Supervision) (st : Monitors) (kind : SvcKind) (e : Event) :
    Turns S st kind e := by
  cases e with
  | register kind' => exact .idle rfl
  | begin kind' =>
      cases haction : st.registry kind' with
      | none => exact .idle (by simp only [step, haction])
      | some action =>
          cases hn : st.monitored kind' with
          | some n => exact .idle (by simp only [step, haction, hn])
          | none =>
              by_cases hkind : kind' = kind
              · subst hkind
                exact .begins hn (by simp only [step, haction, hn, Function.update_self])
              · exact .idle (by
                  simp only [step, haction, hn]
                  exact Function.update_of_ne (Ne.symm hkind) _ _)
  | service kind' e =>
      cases e with
      | sibling k action => exact .idle rfl
      | tick | check | crash | receive | join | resetFix | finish =>
          exact turns_service (by rintro _ _ ⟨⟩) rfl

/-- What holds of a monitor when it starts and is kept by its own steps holds of it in
every run. -/
theorem step_monitored {P : Monitors → Event → Prop} {inv : Monitored → Prop}
    (hbegin : ∀ m, inv (begin S kind m))
    (hstep : ∀ st n e, st.monitored kind = some n → inv n → P st (.service kind e) →
      inv (n.step (S.watch kind) st.registry e))
    (st : Monitors) (e : Event) (hinv : ∀ n ∈ st.monitored kind, inv n) (hP : P st e) :
    ∀ n ∈ (step S st e).monitored kind, inv n := by
  intro n hn
  cases step_turns S st kind e with
  | idle h =>
      rw [h] at hn
      exact hinv n hn
  | begins hnone h =>
      rw [h] at hn
      cases hn
      exact hbegin st.registry
  | moves n₀ hn₀ se he hsibling h =>
      rw [h] at hn
      cases hn
      subst he
      exact hstep st n₀ se hn₀ (hinv n₀ hn₀) hP

/-- Every monitor finds its own entry in the registry. -/
def Registered (st : Monitors) : Prop :=
  ∀ kind, (st.monitored kind).isSome = true → (st.registry kind).isSome = true

theorem registered_update {m : ActionMap} (h : Registered st)
    (hsame : ∀ k, (m k).isSome = (st.registry k).isSome)
    (hkind : (st.registry kind).isSome = true) :
    Registered { registry := m, monitored := Function.update st.monitored kind (some n) } := by
  intro k hk
  dsimp only at hk ⊢
  rw [hsame k]
  by_cases heq : k = kind
  · rwa [heq]
  · rw [Function.update_of_ne heq] at hk
    exact h k hk

theorem registered_service (h : Registered st) : Registered (serviceStep S st kind e) := by
  cases hn : st.monitored kind with
  | none =>
      rw [serviceStep, hn]
      exact h
  | some n =>
      rw [serviceStep_of_some hn]
      exact registered_update h (fun k => step_registered) (h kind (by rw [hn]; rfl))

theorem registered_step (h : Registered st) (e : Event) : Registered (step S st e) := by
  cases e with
  | register kind =>
      intro k hk
      simp only [step, register]
      by_cases heq : k = kind
      · subst heq
        rw [Function.update_self]
        cases st.registry k <;> rfl
      · rw [Function.update_of_ne heq]
        exact h k hk
  | begin kind =>
      simp only [step]
      split
      · rename_i action haction hnone
        exact registered_update h (fun k => isSome_setEntry) (by rw [haction]; rfl)
      · exact h
  | service kind e =>
      cases e with
      | sibling k action => exact h
      | tick | check | crash | receive | join | resetFix | finish => exact registered_service h

end Monitored

section Rounds

/-- A server whose services were well when the daemon was stopped. -/
def supervised (fixThreshold : Nat) : Supervision where
  inbounds := []
  autoFix := true
  fixThreshold := fixThreshold
  history _ := wellStatus

def watched (kind : SvcKind) : List Event :=
  [.register kind, .begin kind]

/-- One interval of a monitor. -/
def intervalOf (kind : SvcKind) (healthy : Bool) : List Event :=
  (interval healthy).map (.service kind)

end Rounds

end Xcplane.ServerMonitors
