import Xcplane.Escalation
import Xcplane.Lib.Result
import Xcplane.Lib.Related

/-!
The commands by which the command loop talks to the monitors: the summary of the
cloud and the reset of the fix attempts, with monitors that have ended.
-/

namespace Xcplane.StatusReport

open Xcplane.Types
open Xcplane.Lib
open Xcplane.Service

section Model

/-- A monitor as `svc_chat` knows it. Its receiver is dropped when it is not running
any more. `pending` counts the resets it was sent and has not received. -/
structure Peer where
  server : String
  watch : Watch
  monitor : Monitor
  pending : Nat

structure TaskSummary where
  task : String
  running : Bool
  deriving DecidableEq, Repr

structure SvcSummary where
  service : SvcKind
  server : String
  health : SvcHealth
  deriving DecidableEq, Repr

structure SvcHealthSummary where
  service : String
  health : SvcHealth
  deriving DecidableEq, Repr

structure ServerSummary where
  server : String
  services : List SvcHealthSummary
  deriving DecidableEq, Repr

structure CloudSummary where
  tasks : List TaskSummary
  cloud : List ServerSummary
  deriving DecidableEq, Repr

structure StatusOpts where
  full : Bool
  deriving DecidableEq, Repr

inductive DaemonReply
  | Status (summary : CloudSummary)
  | Message (text : String)
  deriving DecidableEq, Repr

/-- The orders in which the map of the tasks and that of the servers are gone through. -/
structure MapOrders where
  tasks : List TaskSummary → List TaskSummary
  servers : List ServerSummary → List ServerSummary
  tasks_perm : ∀ l, (tasks l).Perm l
  servers_perm : ∀ l, (servers l).Perm l

/-- The command loop with `svc_chat` in the order in which it is gone through. `others`
are the tasks that are not monitors, and `aggregator` is what sending to it comes to. -/
structure Loop where
  svcChat : List Peer
  others : List TaskSummary
  aggregator : Except BoxError Unit
  orders : MapOrders

inductive Command
  | Status (opts : StatusOpts)
  | ResetFix

/-- The loop goes on with a reply, or `daemon_core` returns an error. -/
inductive Answer
  | goesOn (reply : DaemonReply) (loop : Loop)
  | returns (e : BoxError)

def channelClosed : BoxError := "channel closed"

def niceDisplay : SvcKind → String
  | .Ssh => "SSH"
  | .Nginx => "Nginx"
  | .Xray inbound => "Xray(" ++ inbound ++ ")"

def monitorName : SvcKind → String
  | .Ssh => "SshMonitor"
  | .Nginx => "NginxMonitor"
  | .Xray _ => "XrayMonitor"

def Peer.task (p : Peer) : String :=
  monitorName p.watch.kind ++ "(" ++ p.server ++ "(" ++ niceDisplay p.watch.kind ++ "))"

/-- The monitor receives the resets that are pending. -/
def takeResets (w : Watch) (aggregator : Except BoxError Unit) : Nat → Monitor → Monitor
  | 0, mon => mon
  | n + 1, mon => takeResets w aggregator n (step w mon (.resetFix aggregator))

def Peer.catchUp (aggregator : Except BoxError Unit) (p : Peer) : Monitor :=
  takeResets p.watch aggregator p.pending p.monitor

/-- The monitor answers after the resets before the question, unless one of them ends it. -/
def getSummaryOf (aggregator : Except BoxError Unit) (p : Peer) : Except BoxError SvcSummary := do
  ensure p.monitor.running channelClosed
  let mon := p.catchUp aggregator
  ensure mon.running channelClosed
  .ok ⟨p.watch.kind, p.server, mon.entry.health⟩

def sendReset (p : Peer) : Except BoxError Peer := do
  ensure p.monitor.running channelClosed
  .ok { p with pending := p.pending + 1 }

def taskStatus (loop : Loop) : List TaskSummary :=
  loop.orders.tasks
    (loop.others ++ loop.svcChat.map fun p => ⟨p.task, p.monitor.running⟩)

def byServer (services : List SvcSummary) : List ServerSummary :=
  (services.map SvcSummary.server).dedup.map fun server =>
    { server
      services := (services.filter fun svc => svc.server = server).map fun svc =>
        ⟨niceDisplay svc.service, svc.health⟩ }

def crashed (task : TaskSummary) : String := "Task '" ++ task.task ++ "' has crashed."

def healthText : SvcHealth → String
  | .Ok => "Ok"
  | .Sick => "Sick"
  | .Unknown => "Unknown"

def unhealthy (server : String) (svc : SvcHealthSummary) : String :=
  "Service " ++ svc.service ++ " on server '" ++ server ++ "' is " ++ healthText svc.health ++ "."

def reportLines (summary : CloudSummary) : List String :=
  (summary.tasks.filter fun task => !task.running).map crashed ++
    summary.cloud.flatMap fun server =>
      (server.services.filter fun svc => svc.health ≠ .Ok).map (unhealthy server.server)

def humanizeStatusReport (summary : CloudSummary) : String :=
  match (reportLines summary).isEmpty, summary.cloud.isEmpty with
  | false, _ => "\n".intercalate (reportLines summary)
  | true, true => "All tasks are running."
  | true, false => "All tasks are running. All services are Ok."

def replyOf (opts : StatusOpts) (summary : CloudSummary) : DaemonReply :=
  if opts.full then .Status summary else .Message (humanizeStatusReport summary)

def getSummary (orders : MapOrders) (services : List SvcSummary) (tasks : List TaskSummary)
    (opts : StatusOpts) : DaemonReply :=
  replyOf opts
    { tasks
      cloud := orders.servers (byServer services) }

def handle (loop : Loop) : Command → Answer
  | .Status opts =>
      match loop.svcChat.mapM (getSummaryOf loop.aggregator) with
      | .error e => .returns e
      | .ok services =>
          .goesOn (getSummary loop.orders services (taskStatus loop) opts)
            { loop with
              svcChat := loop.svcChat.map fun p =>
                { p with
                  monitor := p.catchUp loop.aggregator
                  pending := 0 } }
  | .ResetFix =>
      match loop.svcChat.mapM sendReset with
      | .error e => .returns e
      | .ok svcChat => .goesOn (.Message "Reset done.") { loop with svcChat }

end Model

section Property

/-- The reply shows a summary that covers the services whose monitors are alive and
reports every ended task. -/
structure Reported (loop : Loop) (opts : StatusOpts) (reply : DaemonReply)
    (summary : CloudSummary) : Prop where
  reply : reply = replyOf opts summary
  covers : ∀ p ∈ loop.svcChat, p.monitor.running = true →
    ∃ server ∈ summary.cloud, server.server = p.server ∧
      ⟨niceDisplay p.watch.kind, (p.catchUp loop.aggregator).entry.health⟩ ∈ server.services
  monitors : ∀ p ∈ loop.svcChat, p.monitor.running = false →
    ⟨p.task, false⟩ ∈ summary.tasks
  others : ∀ task ∈ loop.others, task.running = false → task ∈ summary.tasks
  lines : ∀ task ∈ summary.tasks, task.running = false → crashed task ∈ reportLines summary

/-- The monitor goes on, and its attempts start again from the first one. -/
structure Reset (w : Watch) (mon : Monitor) : Prop where
  running : mon.running = true
  entry : mon.entry.fixTry = 0
  registry : ∀ action, mon.actionMap w.kind = some action →
    action.fixTry = 0 ∧ action.fixAction = none

def Meets (loop : Loop) : Command → Prop
  | .Status opts => ∃ reply loop' summary,
      handle loop (.Status opts) = .goesOn reply loop' ∧ Reported loop opts reply summary
  | .ResetFix => ∃ loop', handle loop .ResetFix = .goesOn (.Message "Reset done.") loop' ∧
      List.Forall₂ (fun p p' => p'.server = p.server ∧ p'.watch = p.watch ∧
        Reset p'.watch (p'.catchUp loop'.aggregator)) loop.svcChat loop'.svcChat

/-- Every monitor is in its loop, and the aggregator takes what a reset sends to it. -/
def Heard (loop : Loop) : Command → Prop
  | .Status _ => ∀ p ∈ loop.svcChat, p.monitor.running = true ∧
      (p.pending = 0 ∨ loop.aggregator.isOk = true)
  | .ResetFix => ∀ p ∈ loop.svcChat, p.monitor.running = true ∧ loop.aggregator.isOk = true

end Property

section Resets

variable {w : Watch} {mon : Monitor} {aggregator : Except BoxError Unit} {n : Nat}

theorem running_resetFix : (step w mon (.resetFix aggregator)).running =
    (mon.running && aggregator.isOk) := by
  simp only [step]
  cases hrunning : mon.running with
  | false => simp [hrunning]
  | true => cases aggregator <;> simp [resetFix, Except.isOk, Except.toBool, hrunning]

theorem running_takeResets : (takeResets w aggregator n mon).running = true ↔
    mon.running = true ∧ (n = 0 ∨ aggregator.isOk = true) := by
  induction n generalizing mon with
  | zero => simp [takeResets]
  | succ n ih =>
      rw [takeResets, ih, running_resetFix, Bool.and_eq_true]
      tauto

theorem reset_resetFix (hrunning : mon.running = true) :
    Reset w (step w mon (.resetFix (.ok ()))) := by
  simp only [step, hrunning, if_true]
  refine ⟨hrunning, rfl, ?_⟩
  intro action haction
  simp only [resetFix, setEntry, if_true] at haction
  obtain ⟨action', -, rfl⟩ := Option.map_eq_some_iff.mp haction
  exact ⟨rfl, rfl⟩

theorem reset_takeResets (hreset : Reset w mon) :
    Reset w (takeResets w (.ok ()) n mon) := by
  induction n generalizing mon with
  | zero => exact hreset
  | succ n ih => exact ih (reset_resetFix hreset.running)

end Resets

section Replies

variable {loop : Loop} {opts : StatusOpts} {p : Peer} {aggregator : Except BoxError Unit}

theorem getSummaryOf_eq_ok_iff {svc : SvcSummary} : getSummaryOf aggregator p = .ok svc ↔
    (p.monitor.running = true ∧ (p.pending = 0 ∨ aggregator.isOk = true)) ∧
      svc = ⟨p.watch.kind, p.server, (p.catchUp aggregator).entry.health⟩ := by
  rw [getSummaryOf, ensure_bind_eq_ok_iff]
  have hcatchUp : (p.catchUp aggregator).running = true ↔
      p.monitor.running = true ∧ (p.pending = 0 ∨ aggregator.isOk = true) := running_takeResets
  constructor
  · rintro ⟨-, h⟩
    obtain ⟨hrunning, hsvc⟩ := ensure_bind_eq_ok_iff.mp h
    cases hsvc
    exact ⟨hcatchUp.mp hrunning, rfl⟩
  · rintro ⟨hheard, rfl⟩
    exact ⟨hheard.1, ensure_bind_eq_ok_iff.mpr ⟨hcatchUp.mpr hheard, rfl⟩⟩

theorem sendReset_eq_ok_iff {p' : Peer} : sendReset p = .ok p' ↔
    p.monitor.running = true ∧ p' = { p with pending := p.pending + 1 } := by
  rw [sendReset, ensure_bind_eq_ok_iff, Except.ok.injEq]
  exact and_congr_right fun _ => eq_comm

theorem mem_byServer {services : List SvcSummary} {svc : SvcSummary} (h : svc ∈ services) :
    ∃ server ∈ byServer services, server.server = svc.server ∧
      ⟨niceDisplay svc.service, svc.health⟩ ∈ server.services := by
  have hserver : svc.server ∈ (services.map SvcSummary.server).dedup :=
    List.mem_dedup.mpr (List.mem_map_of_mem h)
  refine ⟨_, List.mem_map_of_mem hserver, rfl, List.mem_map.mpr ⟨svc, ?_, rfl⟩⟩
  exact List.mem_filter.mpr ⟨h, decide_eq_true rfl⟩

theorem crashed_mem_reportLines {summary : CloudSummary} {task : TaskSummary}
    (htask : task ∈ summary.tasks) (hended : task.running = false) :
    crashed task ∈ reportLines summary := by
  apply List.mem_append_left
  apply List.mem_map_of_mem
  exact List.mem_filter.mpr ⟨htask, by rw [hended]; rfl⟩

theorem reported {services : List SvcSummary}
    (h : loop.svcChat.mapM (getSummaryOf loop.aggregator) = .ok services) :
    Reported loop opts (getSummary loop.orders services (taskStatus loop) opts)
      ⟨taskStatus loop, loop.orders.servers (byServer services)⟩ where
  reply := rfl
  covers p hp _ := by
    obtain ⟨svc, hsvc, hanswer⟩ := exists_right_of_mem (mapM_eq_ok_iff.mp h) hp
    obtain ⟨-, rfl⟩ := getSummaryOf_eq_ok_iff.mp hanswer
    obtain ⟨server, hserver, hname, hservice⟩ := mem_byServer hsvc
    exact ⟨server, (loop.orders.servers_perm _).mem_iff.mpr hserver, hname, hservice⟩
  monitors p hp hended := by
    apply (loop.orders.tasks_perm _).mem_iff.mpr
    apply List.mem_append_right
    exact List.mem_map.mpr ⟨p, hp, by rw [hended]⟩
  others task htask _ :=
    (loop.orders.tasks_perm _).mem_iff.mpr (List.mem_append_left _ htask)
  lines task htask hended := crashed_mem_reportLines htask hended

theorem status_meets_iff : Meets loop (.Status opts) ↔ Heard loop (.Status opts) := by
  constructor
  · rintro ⟨reply, loop', summary, hhandle, -⟩ p hp
    simp only [handle] at hhandle
    split at hhandle
    · cases hhandle
    · rename_i services hservices
      obtain ⟨svc, -, hanswer⟩ := exists_right_of_mem (mapM_eq_ok_iff.mp hservices) hp
      exact (getSummaryOf_eq_ok_iff.mp hanswer).1
  · intro hheard
    have hanswers : ∀ p ∈ loop.svcChat, ∃ svc, getSummaryOf loop.aggregator p = .ok svc :=
      fun p hp => ⟨_, getSummaryOf_eq_ok_iff.mpr ⟨hheard p hp, rfl⟩⟩
    obtain ⟨services, hservices⟩ := exists_mapM_eq_ok hanswers
    simp only [Meets, handle, hservices]
    exact ⟨_, _, _, rfl, reported hservices⟩

/-- One more reset is pending for every monitor. -/
theorem mapM_sendReset {svcChat : List Peer} (h : loop.svcChat.mapM sendReset = .ok svcChat) :
    (∀ p ∈ loop.svcChat, p.monitor.running = true) ∧
      svcChat = loop.svcChat.map fun p => { p with pending := p.pending + 1 } := by
  have hsent := mapM_eq_ok_iff.mp h
  constructor
  · intro p hp
    obtain ⟨p', -, hp'⟩ := exists_right_of_mem hsent hp
    exact (sendReset_eq_ok_iff.mp hp').1
  · have hmap := map_eq_of_forall₂ (f := fun p : Peer => { p with pending := p.pending + 1 })
      (g := id) hsent fun p p' hp' => (sendReset_eq_ok_iff.mp hp').2.symm
    rw [hmap, List.map_id]

theorem resetFix_meets_iff : Meets loop .ResetFix ↔ Heard loop .ResetFix := by
  constructor
  · rintro ⟨loop', hhandle, hreset⟩ p hp
    simp only [handle] at hhandle
    split at hhandle
    · cases hhandle
    · rename_i svcChat hsent
      cases hhandle
      obtain ⟨hrunning, rfl⟩ := mapM_sendReset hsent
      have hcatchUp := (List.forall₂_map_right_iff.mp hreset)
      have hreset := (List.forall₂_same.mp hcatchUp p hp).2.2.running
      exact ⟨hrunning p hp, (running_takeResets.mp hreset).2.resolve_left (Nat.succ_ne_zero _)⟩
  · intro hheard
    have hanswers : ∀ p ∈ loop.svcChat, ∃ p', sendReset p = .ok p' :=
      fun p hp => ⟨_, sendReset_eq_ok_iff.mpr ⟨(hheard p hp).1, rfl⟩⟩
    obtain ⟨svcChat, hsent⟩ := exists_mapM_eq_ok hanswers
    refine ⟨{ loop with svcChat }, by simp only [handle, hsent], ?_⟩
    obtain ⟨-, rfl⟩ := mapM_sendReset hsent
    apply List.forall₂_map_right_iff.mpr
    apply List.forall₂_same.mpr
    intro p hp
    obtain ⟨hrunning, hok⟩ := hheard p hp
    refine ⟨rfl, rfl, ?_⟩
    cases hagg : loop.aggregator with
    | error e =>
        rw [hagg] at hok
        cases hok
    | ok u =>
        simp only [Peer.catchUp, takeResets]
        exact reset_takeResets (reset_resetFix hrunning)

end Replies

section Results

/-- A command is handled as it should exactly when every monitor is in its loop. -/
theorem handle_meets_iff (loop : Loop) (command : Command) :
    Meets loop command ↔ Heard loop command := by
  cases command with
  | Status opts => exact status_meets_iff
  | ResetFix => exact resetFix_meets_iff

/-- The monitor of `alpha`'s Nginx could not read its history and has ended. -/
def oneEnded : Loop where
  svcChat :=
    [⟨"alpha", Escalation.watchOf .Ssh, Escalation.fresh .Ssh, 0⟩,
      ⟨"alpha", Escalation.watchOf .Nginx, { Escalation.fresh .Nginx with running := false }, 0⟩]
  others := [⟨"SignalWatcher", true⟩]
  aggregator := .ok ()
  orders :=
    { tasks := id
      servers := id
      tasks_perm := fun _ => .refl _
      servers_perm := fun _ => .refl _ }

theorem oneEnded_returns :
    ¬ Meets oneEnded (.Status ⟨false⟩) ∧ ¬ Meets oneEnded .ResetFix := by
  constructor
  · rintro ⟨_, _, _, hhandle, _⟩
    cases hhandle
  · rintro ⟨_, hhandle, _⟩
    cases hhandle

example : handle oneEnded .ResetFix = .returns "channel closed" := rfl

end Results

end Xcplane.StatusReport
