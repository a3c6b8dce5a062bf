import Xcplane.DatabaseSpec
import Xcplane.JoinedRuns
import Xcplane.Provision
import Xcplane.Lib.Trace

/-!
A Rebase of the cloud the daemon holds is planned and joined as a whole: every
server of such a cloud has a connection, and either all or none have a Cloudflare
state.
-/

namespace Xcplane.Deployable

open Xcplane.Types
open Xcplane.Lib
open Xcplane.Server
open Xcplane.CloudConfig
open Xcplane.Cloudflare
open Xcplane.Database
open Xcplane.DatabaseSpec
open Xcplane.Merge
open Xcplane.RebaseDiff
open Xcplane.Deploy
open Xcplane.Reconcile
open Xcplane.ReconcileSpec
open Xcplane.RebasePlan
open Xcplane.JoinedRuns
open Xcplane.DaemonCycle
open Xcplane.Provision

variable {δ : Type}

def HasConns (c : Cloud) : Prop :=
  ∀ s ∈ c.servers, s.ansibleConn.isSome = true

def SameStates (c : Cloud) : Prop :=
  (∀ s ∈ c.servers, s.cfstate.isSome = true) ∨ ∀ s ∈ c.servers, s.cfstate = none

structure CloudDeployable (c : Cloud) : Prop where
  conns : HasConns c
  states : SameStates c

def DaemonDeployable (d : Daemon δ) : Prop :=
  ∀ c, d.cloud = some c → CloudDeployable c

section Clouds

variable {F : Forms} {draws : Nat → SecretDraw} {t : TCloud} {c : Cloud} {db : Db}

theorem parseCloudConfig_conns (h : parseCloudConfig F draws t = .ok c) : HasConns c := by
  intro s hs
  obtain ⟨p, _, draw, rfl⟩ := mem_parseCloudConfig h hs
  show (prepareServer F t.settings draw p).ansibleConn.isSome = true
  unfold prepareServer
  simp only
  split
  · rfl
  · rfl

theorem loadCloud_deployable (h : loadCloud F db = .ok c) : CloudDeployable c := by
  constructor
  · intro s hs
    obtain ⟨r, _, hload⟩ := mem_loadCloud h hs
    rw [(loadServer_fresh hload).1]
    rfl
  · right
    intro s hs
    obtain ⟨r, _, hload⟩ := mem_loadCloud h hs
    exact (loadServer_fresh hload).2

end Clouds

section Reconciliation

variable {env : ReconEnv δ} {old new c : Cloud} {mode : ReconMode}
  {rebaseData : Option (List (String × RebaseData))} {ord : MergeOrder old new} {dirs : Dirs δ}

theorem merged_conn {o s m : KetServer} (h : Merged mode o s m)
    (ho : o.ansibleConn.isSome = true) (hs : s.ansibleConn.isSome = true) :
    m.ansibleConn.isSome = true := by
  cases h with
  | replaced => exact hs
  | kept => exact ho
  | remapped => exact hs
  | rebased => rfl

theorem reconcileCloud_deployable (hnames : new.names.Nodup) (hnew : HasConns new)
    (hold : HasConns old)
    (h : (reconcileCloud env old new mode rebaseData ord dirs).result = .ok c) :
    CloudDeployable c := by
  constructor
  · intro x hx
    obtain ⟨m, hentry, _, hconn⟩ := reconcileCloud_conn hnames h hx
    cases hconn with
    | merged _ hconn =>
        rw [hconn]
        cases hentry with
        | added _ _ hs => exact hnew m (Cloud.collected_eq_some hs).1
        | common o s _ ho hs hmerged =>
            exact merged_conn hmerged (hold o (Cloud.collected_eq_some ho).1)
              (hnew s (Cloud.collected_eq_some hs).1)
    | joined conn _ _ _ hconn =>
        rw [hconn]
        rfl
  · left
    intro x hx
    obtain ⟨m, _, hfinal⟩ := (reconcileCloud_ok hnames h).servers x hx
    obtain ⟨st, hst, _⟩ := hfinal.state
    rw [hst]
    rfl

/-- A deployment of the merged cloud is planned for all its servers or for none. -/
theorem startRuns_all_or_none {F : Forms} {data : List (String × RebaseData)} {cloud : Cloud}
    {scheduled pairs : List (KetServer × KetServer)} (hold : SameStates old)
    (hscheduled : ∀ p ∈ scheduled, p.1 ∈ old.servers)
    (hready : List.Forall₂ (PairReady cloud) scheduled pairs) :
    (startRuns F data pairs).2 = none ∨ (startRuns F data pairs).1 = [] := by
  have hnewState : ∀ q ∈ pairs, q.2.cfstate.isSome = true := by
    intro q hq
    obtain ⟨p, _, hpq⟩ := exists_left_of_mem hready hq
    obtain ⟨m, _, hm⟩ := hpq.merge
    obtain ⟨st, hst, _⟩ := hm.state
    rw [hst]
    rfl
  have holdServer : ∀ q ∈ pairs, q.1 ∈ old.servers := by
    intro q hq
    obtain ⟨p, hp, hpq⟩ := exists_left_of_mem hready hq
    rw [hpq.old]
    exact hscheduled p hp
  rcases hold with hall | hnone
  · left
    apply startRuns_all_plannable
    intro q hq
    rw [plannable, hall _ (holdServer q hq), hnewState q hq]
    rfl
  · right
    rw [List.eq_nil_iff_forall_not_mem]
    intro run hrun
    obtain ⟨q, hq, _⟩ := mem_startRuns_iff.mp hrun
    have hplannable : plannable q = true := List.mem_takeWhile_imp hq
    rw [plannable, hnone _ (holdServer q (List.takeWhile_subset _ hq))] at hplannable
    cases hplannable

theorem started_conn {F : Forms} {data : List (String × RebaseData)} {cloud : Cloud}
    {names : List String} {pairs : List (KetServer × KetServer)} (hnew : HasConns new)
    (hold : HasConns old)
    (hready : List.Forall₂ (PairReady cloud) (scheduledPairs old new names) pairs)
    {run : AnsibleRun} (hrun : run ∈ (startRuns F data pairs).1) :
    run.server.ansibleConn.isSome = true := by
  obtain ⟨q, hq, _, _, hserver, _⟩ := mem_startRuns_iff.mp hrun
  obtain ⟨p, hp, hpq⟩ := exists_left_of_mem hready (List.takeWhile_subset _ hq)
  obtain ⟨n, _, ho, hs, _⟩ := mem_scheduledPairs.mp hp
  obtain ⟨m, hm, hmq⟩ := hpq.merge
  have hmconn := merged_conn (rebaseMerge_ok hm) (hold _ (Cloud.collected_eq_some ho).1)
    (hnew _ (Cloud.collected_eq_some hs).1)
  rw [hserver, hmq.same]
  exact hmconn

theorem deployRebase_error_no_runs {data : List (String × RebaseData)} {cloud : Cloud}
    {pairs : List (KetServer × KetServer)} (hnew : HasConns new) (hold : CloudDeployable old)
    (houtcome : ∀ run, env.remote.outcome run = .success)
    (hready : List.Forall₂ (PairReady cloud) (scheduledPairs old new ord.names) pairs)
    {e : BoxError} (h : (deployRebase env.forms env.remote data pairs cloud).result = .error e) :
    (deployRebase env.forms env.remote data pairs cloud).started = [] := by
  rw [deployRebase_started]
  have hscheduled : ∀ p ∈ scheduledPairs old new ord.names, p.1 ∈ old.servers := by
    intro p hp
    obtain ⟨n, _, ho, _⟩ := mem_scheduledPairs.mp hp
    exact (Cloud.collected_eq_some ho).1
  have hall : (startRuns env.forms data pairs).2 = none ∨
      (startRuns env.forms data pairs).1 = [] :=
    startRuns_all_or_none hold.states hscheduled hready
  rcases hall with hplanned | hnone
  · simp only [deployRebase, hplanned] at h
    obtain ⟨cloud', hjoin⟩ := exists_joinLoop_ok (fun run _ => houtcome run) fun run hrun =>
      started_conn hnew hold.conns hready ((env.remote.perm _).mem_iff.mp hrun)
    rw [hjoin] at h
    cases h
  · exact hnone

/-- When every run succeeds, a reconciliation of a deployable cloud that fails has
not started any run. -/
theorem reconcileCloud_error_no_runs (hnew : HasConns new) (hold : CloudDeployable old)
    (houtcome : ∀ run, env.remote.outcome run = .success) {e : BoxError}
    (h : (reconcileCloud env old new mode rebaseData ord dirs).result = .error e) :
    (reconcileCloud env old new mode rebaseData ord dirs).started = [] := by
  unfold reconcileCloud at h ⊢
  split at h
  · rename_i hempty
    rw [if_pos hempty]
  · rename_i hempty
    rw [if_neg hempty]
    split at h
    · rfl
    · split at h
      · rfl
      · rename_i merged pairs hmerge
        simp only [finish] at h ⊢
        split at h
        · rfl
        · rename_i cloud hcloud
          split at h
          · rfl
          · rename_i data
            exact deployRebase_error_no_runs hnew hold houtcome (pairs_ready hmerge hcloud) h
          · cases h

end Reconciliation

section Daemon

variable {w : Surroundings δ} {d : Daemon δ}

theorem daemonCore_deployable {next : DaemonNext} {old : Cloud} {db : Db} {dirs : Dirs δ}
    (hnames : next.newCloud.names.Nodup) (hnew : HasConns next.newCloud)
    (hold : CloudDeployable old) : DaemonDeployable (daemonCore w next old db dirs) := by
  cases daemonCore_cycled w next old db dirs with
  | failed e _ hd =>
      rw [hd]
      rintro c ⟨⟩
      exact hold
  | stopped c db' e _ _ hd =>
      rw [hd]
      rintro c' ⟨⟩
  | applied c db' hresult _ hd =>
      rw [hd]
      rintro c' ⟨⟩
      exact reconcileCloud_deployable hnames hnew hold.conns hresult

theorem startDaemon_deployable (config : TCloud) : DaemonDeployable (startDaemon w config d) := by
  cases startDaemon_began w config d with
  | unparsed hd =>
      rw [hd]
      rintro c ⟨⟩
  | unloaded hd =>
      rw [hd]
      rintro c ⟨⟩
  | cycled new old hparse hload hd =>
      rw [hd]
      exact daemonCore_deployable (parseCloudConfig_distinct hparse).names
        (parseCloudConfig_conns hparse) (loadCloud_deployable hload)

theorem answer_deployable (config : TCloud) (command : DaemonComm) (h : DaemonDeployable d) :
    DaemonDeployable (answer w config command d) := by
  cases answer_commanded w config command d with
  | off _ hd =>
      rw [hd]
      exact h
  | refused curr e _ _ hd =>
      rw [hd]
      exact h
  | accepted curr next hcurr hcheck hd =>
      have hparse := checkAndBackup_parsed hcheck
      rw [hd]
      exact daemonCore_deployable (parseCloudConfig_distinct hparse).names
        (parseCloudConfig_conns hparse) (h curr hcurr)

theorem putServer_deployable {c : Cloud} {s s' : KetServer} (hc : CloudDeployable c)
    (hs : s ∈ c.servers) (hconn : s'.ansibleConn.isSome = true) (hstate : s'.cfstate = s.cfstate) :
    CloudDeployable (putServer c s') := by
  constructor
  · intro x hx
    rcases mem_putServer hx with rfl | ⟨hx, _⟩
    · exact hconn
    · exact hc.conns x hx
  · refine hc.states.imp ?_ ?_
    · intro hall x hx
      rcases mem_putServer hx with rfl | ⟨hx, _⟩
      · rw [hstate]
        exact hall s hs
      · exact hall x hx
    · intro hnone x hx
      rcases mem_putServer hx with rfl | ⟨hx, _⟩
      · rw [hstate]
        exact hnone s hs
      · exact hnone x hx

theorem produced_deployable (xuiToken : String) {s : KetServer}
    (hs : s.ansibleConn.isSome = true) :
    (produced xuiToken s).1.ansibleConn.isSome = true ∧
      (produced xuiToken s).1.cfstate = s.cfstate := by
  obtain ⟨conn, hconn⟩ := Option.isSome_iff_exists.mp hs
  constructor
  · cases htoken : s.secrets.xuiToken with
    | some token =>
        rw [produced_of_token htoken]
        exact hs
    | none =>
        rw [produced_of_conn htoken hconn]
        rfl
  · rw [produced_same]

theorem retired_deployable {s : KetServer} (hs : s.ansibleConn.isSome = true) :
    (retired s).1.ansibleConn.isSome = true ∧ (retired s).1.cfstate = s.cfstate := by
  obtain ⟨conn, hconn⟩ := Option.isSome_iff_exists.mp hs
  rw [retired_of_conn hconn]
  exact ⟨rfl, rfl⟩

theorem step_deployable (d : Daemon δ) (e : Provision.Event δ) (h : DaemonDeployable d) :
    DaemonDeployable (Provision.step d e) := by
  cases e with
  | cycle e =>
      cases e with
      | start w config => exact startDaemon_deployable config
      | command w config command => exact answer_deployable config command h
      | stop => rintro c ⟨⟩
  | fullSetup k name xuiToken =>
      simp only [Provision.step]
      split
      · exact h
      · rename_i c hc
        split
        · exact h
        · rename_i s hs
          have hmem := (expandTarget_ok hs).1
          obtain ⟨hconn, hstate⟩ := produced_deployable xuiToken ((h c hc).conns s hmem)
          have hput := putServer_deployable (h c hc) hmem hconn hstate
          intro c' hc'
          rw [markServerProduction_cloud, Option.some.injEq] at hc'
          exact hc' ▸ hput
  | destroyServer k name =>
      simp only [Provision.step]
      split
      · exact h
      · rename_i c hc
        split
        · exact h
        · rename_i s hs
          have hmem := (destroyTarget_ok hs).1
          obtain ⟨hconn, hstate⟩ := retired_deployable ((h c hc).conns s hmem)
          have hput := putServer_deployable (h c hc) hmem hconn hstate
          intro c' hc'
          rw [markServerOffgrid_cloud, Option.some.injEq] at hc'
          exact hc' ▸ hput

/-- A daemon after some run from an empty database. -/
def Started (d : Daemon δ) : Prop :=
  ∃ dirs events, d = run Provision.step { cloud := none, db := .empty, dirs } events

theorem started_deployable (h : Started d) : DaemonDeployable d := by
  obtain ⟨dirs, events, rfl⟩ := h
  refine run_preserves_always step_deployable ?_
  rintro c ⟨⟩

end Daemon

end Xcplane.Deployable
