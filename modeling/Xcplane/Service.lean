import Xcplane.Deploy

/-!
Monitoring a service of a server: the checks of the service one after the other,
what the result of a check makes of its status, and the corrective runs that are
started for it.
-/

namespace Xcplane.Service

open Xcplane.Types
open Xcplane.Deploy

inductive SvcHealth
  | Ok
  | Sick
  | Unknown
  deriving DecidableEq, Repr

/-- The health of a service, how often in a row and since when it has failed, and
the fix level that was tried and completed. -/
structure SvcStatus where
  health : SvcHealth
  failedCount : Nat
  failedSince : Nat
  fixTry : Nat
  deriving DecidableEq, Repr

/-- An entry of the registry of fix actions. A join handle is the number of its
run. -/
structure DashAction where
  svcHealth : SvcHealth
  fixTry : Nat
  fixAction : Option Nat
  deriving DecidableEq, Repr

/-- The entries of the monitors of one server. Those of the other servers are not
read by any of its monitors. -/
abbrev ActionMap := SvcKind → Option DashAction

/-- How the task of a corrective run ends: with an output of Ansible, whatever its
exit status, with an error, or in a panic. -/
inductive FixOutcome
  | output (success : Bool)
  | err (e : BoxError)
  | panicked (e : BoxError)
  deriving DecidableEq, Repr

structure FixRun where
  action : AnsibleAction
  outcome : Option FixOutcome
  deriving DecidableEq, Repr

/-- What does not change while a service is monitored. -/
structure Watch where
  kind : SvcKind
  inbounds : List String
  autoFix : Bool
  fixThreshold : Nat

/-- What one check meets outside the daemon: the clock, the lookup of the last
backup of the panel's database (a failure of its task, or what the lookup finds)
and the aggregator's channel. -/
structure Circumstances where
  now : Except BoxError Nat
  lastXuiDb : Except BoxError (Except BoxError Unit)
  aggregator : Except BoxError Unit

section Registry

def setEntry (m : ActionMap) (kind : SvcKind) (f : DashAction → DashAction) : ActionMap :=
  fun k => if k = kind then (m k).map f else m k

def siblingHealthCheck (m : ActionMap) (sibling : SvcKind) : Bool :=
  match m sibling with
  | none => false
  | some action => action.svcHealth = .Ok

def superSiblingFixtry (m : ActionMap) : Except BoxError Nat :=
  match m SvcKind.superXray with
  | none => .error "Couldn't extract super xray fix_try from action_map"
  | some action => .ok action.fixTry

def finished (runs : List FixRun) (id : Nat) : Option FixOutcome :=
  runs[id]?.bind FixRun.outcome

/-- Awaiting the join handle of a finished run. -/
def FixOutcome.joined : FixOutcome → Except BoxError Unit
  | .output _ => .ok ()
  | .err e => .error e
  | .panicked e => .error e

end Registry

/-- What handling the result of a check comes to. A corrective run is spawned at
most once and gets the next number. -/
structure Handled where
  status : Except BoxError SvcStatus
  actionMap : ActionMap
  spawned : Option AnsibleAction
  extraInfo : String

def futile : String :=
  "automated fix attempts have been futile--inspect the server manually"

section Nginx

/-- The action for Nginx at a fix level and what is said about it. Without a
handle (`jhNone`) the action is started, with one it is being tried. -/
def nginxFix : Bool → Nat → Option AnsibleAction × String
  | true, 0 => (some .NginxRestart, "fix action: try to restart Nginx")
  | false, 0 => (some .NginxRestart, "fix action: trying to restart Nginx")
  | true, 1 => (some .NginxRestoreConfig, "fix action: restore Nginx config")
  | false, 1 => (some .NginxRestoreConfig, "fix action: restoring Nginx config")
  | _, _ => (none, "fixing attempts failed")

/-- No handle is stored: the next action is started, if one is left. -/
def nginxStart (nextId : Nat) (status : SvcStatus) (m : ActionMap) : Handled :=
  let fix := nginxFix true status.fixTry
  { status := .ok status
    actionMap := setEntry m .Nginx fun _ =>
      { svcHealth := status.health
        fixTry := status.fixTry
        fixAction := fix.1.map fun _ => nextId }
    spawned := fix.1
    extraInfo := fix.2 }

def nginxActions (runs : List FixRun) (status : SvcStatus) (m : ActionMap) : Handled :=
  if siblingHealthCheck m .Ssh then
    if status.fixTry < 2 then
      match m .Nginx with
      | none =>
          { status := .error ("Couldn't get the Nginx 'action' from the action_map to see if " ++
              "the fix has finished.")
            actionMap := m
            spawned := none
            extraInfo := "" }
      | some action =>
          match action.fixAction with
          | none => nginxStart runs.length status m
          | some id =>
              match finished runs id with
              | none =>
                  { status := .ok status
                    actionMap := m
                    spawned := none
                    extraInfo := (nginxFix false status.fixTry).2 }
              | some outcome =>
                  -- The handle is taken out before the run's own result is known.
                  let m := setEntry m .Nginx fun action => { action with fixAction := none }
                  match outcome.joined with
                  | .error e =>
                      { status := .error e
                        actionMap := m
                        spawned := none
                        extraInfo := "" }
                  | .ok () =>
                      nginxStart runs.length { status with fixTry := status.fixTry + 1 } m
    else
      { status := .ok status
        actionMap := m
        spawned := none
        extraInfo := futile }
  else
    { status := .ok status
      actionMap := m
      spawned := none
      extraInfo := "SSH is not working--no fixing attempt could be done" }

end Nginx

section Xray

def xrayFix : Nat → Option AnsibleAction × String
  | 0 => (some .XrayRestart, "fix action: try to restart Xray")
  | 1 => (some .XrayRestoreDB, "fix action: restore the last known good DB")
  | _ => (none, "")

def xrayStart (nextId : Nat) (status : SvcStatus) (m : ActionMap) : Handled :=
  let fix := xrayFix status.fixTry
  { status := .ok status
    actionMap := setEntry m SvcKind.superXray fun action =>
      { action with
        fixTry := status.fixTry
        fixAction := fix.1.map fun _ => nextId }
    spawned := fix.1
    extraInfo := fix.2 }

/-- The level after the first action was tried: without a backup of the database
there is nothing to restore. -/
def skipRestore (lastXuiDb : Except BoxError (Except BoxError Unit)) (fixTry : Nat) :
    Except BoxError (Nat × String) :=
  if fixTry = 1 then
    match lastXuiDb with
    | .error e => .error e
    | .ok (.error _) => .ok (fixTry + 1, "no backup exits, ")
    | .ok (.ok _) => .ok (fixTry, "")
  else .ok (fixTry, "")

def superXraySick (runs : List FixRun) (c : Circumstances) (status : SvcStatus)
    (m : ActionMap) : Handled :=
  if siblingHealthCheck m .Ssh && siblingHealthCheck m .Nginx then
    if status.fixTry < 2 then
      match m SvcKind.superXray with
      | none =>
          { status := .error ("Couldn't get the super Xray 'action' from the action_map to see " ++
              "if the fix has finished.")
            actionMap := m
            spawned := none
            extraInfo := "" }
      | some action =>
          match action.fixAction with
          | none => xrayStart runs.length status m
          | some id =>
              match finished runs id with
              | none =>
                  { status := .ok status
                    actionMap := m
                    spawned := none
                    extraInfo := "" }
              | some outcome =>
                  -- The next action is only selected in the next interval.
                  let m := setEntry m SvcKind.superXray fun action =>
                    { action with fixAction := none }
                  match outcome.joined, skipRestore c.lastXuiDb (status.fixTry + 1) with
                  | .error e, _ =>
                      { status := .error e
                        actionMap := m
                        spawned := none
                        extraInfo := "" }
                  | .ok (), .error e =>
                      { status := .error e
                        actionMap := m
                        spawned := none
                        extraInfo := "" }
                  | .ok (), .ok (fixTry, extraInfo) =>
                      { status := .ok { status with fixTry }
                        actionMap := m
                        spawned := none
                        extraInfo }
    else
      { status := .ok status
        actionMap := m
        spawned := none
        extraInfo := futile }
  else
    { status := .ok status
      actionMap := m
      spawned := none
      extraInfo := "SSH and/or Nginx are not working--no fixing attempt could be done" }

/-- The actions of the supervisor. A healthy one has its database backed up, which
changes nothing here. -/
def superXrayActions (runs : List FixRun) (c : Circumstances) (status : SvcStatus)
    (m : ActionMap) : Handled :=
  match status.health with
  | .Sick => superXraySick runs c status m
  | _ =>
      { status := .ok status
        actionMap := m
        spawned := none
        extraInfo := "" }

end Xray

section Response

def recovered (status : SvcStatus) : SvcStatus :=
  if status.failedCount > 0 ∨ status.health ≠ .Ok then
    { status with
      health := .Ok
      failedCount := 0
      fixTry := 0 }
  else status

def handleOk (w : Watch) (runs : List FixRun) (c : Circumstances) (status : SvcStatus)
    (m : ActionMap) : Handled :=
  let status := recovered status
  if w.kind = SvcKind.superXray then superXrayActions runs c status m
  else
    match w.kind with
    | .Xray inbound =>
        if w.inbounds.contains inbound then
          { status := .ok status
            actionMap := setEntry m w.kind fun _ => ⟨.Ok, 0, none⟩
            spawned := none
            extraInfo := "" }
        else
          { status := .error "The inbound cannot be found in the server."
            actionMap := m
            spawned := none
            extraInfo := "" }
    | _ =>
        { status := .ok status
          actionMap := setEntry m w.kind fun _ => ⟨.Ok, 0, none⟩
          spawned := none
          extraInfo := "" }

def failedOnce (now : Except BoxError Nat) (status : SvcStatus) : Except BoxError SvcStatus := do
  let failedCount := status.failedCount + 1
  let failedSince ← if failedCount = 1 then now else .ok status.failedSince
  .ok { status with health := .Sick, failedCount, failedSince }

def fixActions (w : Watch) (runs : List FixRun) (c : Circumstances) (status : SvcStatus)
    (m : ActionMap) : Handled :=
  match w.kind with
  | .Ssh =>
      let status := { status with fixTry := 1 }
      { status := .ok status
        actionMap := setEntry m .Ssh fun _ => ⟨status.health, status.fixTry, none⟩
        spawned := none
        extraInfo := "critical connection issue; needs manual inspection" }
  | .Nginx => nginxActions runs status m
  | .Xray inbound =>
      if inbound = SvcKind.superName then superXrayActions runs c status m
      else
        match superSiblingFixtry m with
        | .error e =>
            { status := .error e
              actionMap := m
              spawned := none
              extraInfo := "" }
        | .ok fixTry =>
            { status := .ok { status with fixTry }
              actionMap := setEntry m w.kind fun _ => ⟨status.health, fixTry, none⟩
              spawned := none
              extraInfo := "" }

def handleErr (w : Watch) (runs : List FixRun) (c : Circumstances) (status : SvcStatus)
    (m : ActionMap) : Handled :=
  match failedOnce c.now status with
  | .error e =>
      { status := .error e
        actionMap := m
        spawned := none
        extraInfo := "" }
  | .ok status =>
      let m := setEntry m w.kind fun action => { action with svcHealth := .Sick }
      if w.autoFix && decide (w.fixThreshold ≤ status.failedCount) then
        fixActions w runs c status m
      else
        { status := .ok status
          actionMap := m
          spawned := none
          extraInfo := "" }

def handleResponse (w : Watch) (runs : List FixRun) (c : Circumstances) (healthy : Bool)
    (status : SvcStatus) (m : ActionMap) : Handled :=
  if healthy then handleOk w runs c status m else handleErr w runs c status m

end Response

section Loop

/-- A check as it is remembered: its result and the corrective run it started. -/
inductive Check
  | healthy
  | unhealthy (started : Option (Nat × AnsibleAction))
  deriving DecidableEq, Repr

/-- A monitor in its loop. `checking` is the status that the check in flight was
started with, `ended` says that its task has ended and was not joined yet,
`statuses` is what was sent back and not received yet. `runs` are all corrective
runs spawned so far, and `checks` is the history with the last check first. -/
structure Monitor where
  running : Bool
  entry : SvcStatus
  actionMap : ActionMap
  checkCompleted : Bool
  checking : Option SvcStatus
  ended : Bool
  statuses : List SvcStatus
  runs : List FixRun
  checks : List Check

inductive Event
  | tick
  | check (healthy : Bool) (c : Circumstances)
  | crash
  | receive
  | join
  | resetFix (aggregator : Except BoxError Unit)
  | finish (id : Nat) (outcome : FixOutcome)
  | sibling (kind : SvcKind) (action : DashAction)

def checkOf (healthy : Bool) (nextId : Nat) (spawned : Option AnsibleAction) : Check :=
  if healthy then .healthy else .unhealthy (spawned.map fun action => (nextId, action))

/-- The check in flight ends: its response is handled, and the status is sent to
the aggregator and, when this succeeds, back to the monitor. -/
def applyChecker (w : Watch) (mon : Monitor) (healthy : Bool) (c : Circumstances)
    (status : SvcStatus) : Monitor :=
  let handled := handleResponse w mon.runs c healthy status mon.actionMap
  { mon with
    actionMap := handled.actionMap
    checking := none
    ended := true
    statuses :=
      match handled.status, c.aggregator with
      | .ok status, .ok () => mon.statuses ++ [status]
      | _, _ => mon.statuses
    runs := mon.runs ++ (handled.spawned.map fun action => ⟨action, none⟩).toList
    checks := checkOf healthy mon.runs.length handled.spawned :: mon.checks }

def resetFix (w : Watch) (mon : Monitor) (aggregator : Except BoxError Unit) : Monitor :=
  let entry := { mon.entry with fixTry := 0 }
  match aggregator with
  | .error _ =>
      { mon with
        entry
        running := false
        checking := none }
  | .ok () =>
      { mon with
        entry
        actionMap := setEntry mon.actionMap w.kind fun _ => ⟨entry.health, entry.fixTry, none⟩ }

def finishRun (outcome : FixOutcome) (run : FixRun) : FixRun :=
  { run with outcome := run.outcome.or (some outcome) }

/-- The loop of the monitor, and what happens around it: corrective runs finish
and the other monitors of the server update their entries. -/
def step (w : Watch) (mon : Monitor) : Event → Monitor
  | .finish id outcome => { mon with runs := mon.runs.modify id (finishRun outcome) }
  | .sibling kind action =>
      if kind = w.kind then mon
      else { mon with actionMap := setEntry mon.actionMap kind fun _ => action }
  | .tick =>
      if mon.running && mon.checkCompleted then
        { mon with
          checkCompleted := false
          checking := some mon.entry }
      else mon
  | .check healthy c =>
      match mon.checking with
      | none => mon
      | some status => applyChecker w mon healthy c status
  | .crash =>
      match mon.checking with
      | none => mon
      | some _ => { mon with checking := none }
  | .receive =>
      match mon.running, mon.statuses with
      | true, status :: rest =>
          { mon with
            entry := status
            statuses := rest }
      | _, _ => mon
  | .join =>
      if mon.running && mon.ended then
        { mon with
          ended := false
          checkCompleted := true }
      else mon
  | .resetFix aggregator => if mon.running then resetFix w mon aggregator else mon

/-- The monitor when its loop starts, with the status read from the database. -/
def start (w : Watch) (status : SvcStatus) (m : ActionMap) : Monitor where
  running := true
  entry := status
  actionMap := setEntry m w.kind fun _ => ⟨status.health, status.fixTry, none⟩
  checkCompleted := true
  checking := none
  ended := false
  statuses := []
  runs := []
  checks := []

end Loop

end Xcplane.Service
