import Xcplane.Acceptance
import Xcplane.Connections

/-!
Whether the servers under monitoring have the Cloudflare state that every Ansible run
on them needs. It is not kept in the database, so a start has to compute it anew.
-/

namespace Xcplane.CloudflareStates

open Xcplane.Types
open Xcplane.Lib
open Xcplane.CloudConfig
open Xcplane.Database
open Xcplane.DatabaseSpec
open Xcplane.Reconcile
open Xcplane.ReconcileSpec
open Xcplane.DaemonCycle
open Xcplane.Provision
open Xcplane.Acceptance

variable {δ : Type}

/-- The Cloudflare state that `write_ansible_vars` puts among the variables of a
run. -/
def ansibleCfState (s : KetServer) : Except BoxError CFState :=
  okOr s.cfstate "Couldn't unwrap Cloudflare state data in write_ansible_vars."

/-- The servers that a cycle collects for its monitoring tasks. -/
def prodServers (c : Cloud) : List KetServer :=
  c.servers.filter fun s => s.state = .Production && s.enabled

/-- A task whose variables cannot be written ends before it does anything. -/
def prepared (target : Except BoxError KetServer) : Bool :=
  match target with
  | .ok s => (ansibleCfState s).toOption.isSome
  | .error _ => false

def step (d : Daemon δ) (e : Provision.Event δ) : Daemon δ :=
  match e, d.cloud with
  | .fullSetup _ name _, some c => if prepared (expandTarget c name) then Provision.step d e else d
  | .destroyServer _ name, some c =>
      if prepared (destroyTarget c name) then Provision.step d e else d
  | _, _ => Provision.step d e

/-- Every server that the daemon monitors has its Cloudflare state. -/
def Covered (d : Daemon δ) : Prop :=
  ∀ c, d.cloud = some c → ∀ s ∈ prodServers c, ∃ st, ansibleCfState s = .ok st

/-- A start that loads a server to monitor can apply its config. -/
def Restorable (d : Daemon δ) : Provision.Event δ → Prop
  | .cycle (.start w config) => ∀ new old,
      parseCloudConfig w.env.forms w.draws config = .ok new →
        loadCloud w.env.forms (createDb d.db) = .ok old → prodServers old ≠ [] →
          Acceptable w.env .Reload old new (w.order old new) d.dirs
  | _ => True

section Servers

variable {c : Cloud} {s : KetServer}

theorem exists_ansibleCfState_iff :
    (∃ st, ansibleCfState s = .ok st) ↔ s.cfstate.isSome = true := by
  simp only [ansibleCfState, okOr_eq_ok_iff, Option.isSome_iff_exists]

theorem exists_ansibleCfState_of_same {s' : KetServer} (hsame : s'.cfstate = s.cfstate)
    (h : ∃ st, ansibleCfState s = .ok st) : ∃ st, ansibleCfState s' = .ok st := by
  rw [exists_ansibleCfState_iff] at h ⊢
  rwa [hsame]

theorem mem_prodServers :
    s ∈ prodServers c ↔ s ∈ c.servers ∧ s.state = .Production ∧ s.enabled = true := by
  simp [prodServers]

theorem loadCloud_cfstate {F : Forms} {db : Db} (h : loadCloud F db = .ok c)
    (hs : s ∈ c.servers) : s.cfstate = none := by
  obtain ⟨r, _, hload⟩ := mem_loadCloud h hs
  exact (loadServer_fresh hload).2

theorem prepared_ok {target : Except BoxError KetServer} (h : prepared target = true) :
    ∃ s, target = .ok s ∧ ∃ st, ansibleCfState s = .ok st := by
  cases target with
  | error e => cases h
  | ok s =>
      refine ⟨s, rfl, ?_⟩
      rw [prepared] at h
      cases hstate : ansibleCfState s with
      | error e => simp [hstate, Except.toOption] at h
      | ok st => exact ⟨st, rfl⟩

end Servers

section Steps

variable {w : Surroundings δ} {d : Daemon δ}

theorem covered_of_none (h : d.cloud = none) : Covered d := by
  intro c hc
  rw [h] at hc
  cases hc

/-- A cycle whose reconciliation ends well has the Cloudflare state of every server. -/
theorem applied_covered {next : DaemonNext} {old c : Cloud} {dirs : Dirs δ}
    (hnames : next.newCloud.names.Nodup)
    (h : (reconcileCloud w.env old next.newCloud next.mode next.rebaseData
      (w.order old next.newCloud) dirs).result = .ok c) {s : KetServer} (hs : s ∈ c.servers) :
    ∃ st, ansibleCfState s = .ok st := by
  obtain ⟨m, _, hfinal⟩ := (reconcileCloud_ok hnames h).servers s hs
  obtain ⟨st, hst, _⟩ := hfinal.state
  exact ⟨st, okOr_eq_ok_iff.mpr hst⟩

theorem daemonCore_covered {next : DaemonNext} {old : Cloud} {db : Db} {dirs : Dirs δ}
    (hnames : next.newCloud.names.Nodup)
    (hold : ∀ s ∈ prodServers old, ∃ st, ansibleCfState s = .ok st) :
    Covered (daemonCore w next old db dirs) := by
  cases daemonCore_cycled w next old db dirs with
  | failed e _ hd =>
      rw [hd]
      rintro c ⟨⟩
      exact hold
  | stopped c db' e _ _ hd =>
      rw [hd]
      exact covered_of_none rfl
  | applied c db' hresult _ hd =>
      rw [hd]
      rintro c' ⟨⟩ s hs
      exact applied_covered hnames hresult (mem_prodServers.mp hs).1

/-- The first cycle has no Cloudflare state to fall back on. -/
theorem firstCycle_covered_iff {old new : Cloud} {db : Db} {dirs : Dirs δ} (hnew : new.Distinct)
    (hold : ∀ s ∈ old.servers, s.cfstate = none) :
    Covered (daemonCore w (initState new) old db dirs) ↔
      (prodServers old ≠ [] → Acceptable w.env .Reload old new (w.order old new) dirs) := by
  have haccepts : (∃ c, (reconcileCloud w.env old new .Reload none (w.order old new) dirs).result =
      .ok c) ↔ Acceptable w.env .Reload old new (w.order old new) dirs :=
    reconcileCloud_local_ok_iff (by decide) hnew
  constructor
  · intro hcovered hmonitored
    refine haccepts.mp ?_
    by_contra hrefused
    cases daemonCore_cycled w (initState new) old db
      dirs with
    | failed e _ hd =>
        -- the old cloud is kept, and it was loaded without Cloudflare states
        obtain ⟨s, hs⟩ := List.exists_mem_of_ne_nil _ hmonitored
        rw [hd] at hcovered
        have hsome := exists_ansibleCfState_iff.mp (hcovered old rfl s hs)
        rw [hold s (mem_prodServers.mp hs).1] at hsome
        cases hsome
    | stopped c db' e hresult => exact hrefused ⟨c, hresult⟩
    | applied c db' hresult => exact hrefused ⟨c, hresult⟩
  · intro h
    by_cases hmonitored : prodServers old = []
    · refine daemonCore_covered hnew.names fun s hs => ?_
      rw [hmonitored] at hs
      cases hs
    · obtain ⟨c, hc⟩ := haccepts.mpr (h hmonitored)
      cases daemonCore_cycled w (initState new) old db dirs with
      | failed e hresult => cases hc.symm.trans hresult
      | stopped c' db' e _ _ hd =>
          rw [hd]
          exact covered_of_none rfl
      | applied c' db' hresult _ hd =>
          rw [hd]
          rintro c'' ⟨⟩ s hs
          exact applied_covered hnew.names hresult (mem_prodServers.mp hs).1

theorem startDaemon_covered_iff (config : TCloud) :
    Covered (startDaemon w config d) ↔ Restorable d (.cycle (.start w config)) := by
  cases hparse : parseCloudConfig w.env.forms w.draws config with
  | error e =>
      have hd : startDaemon w config d = { d with cloud := none } := by
        rw [startDaemon, hparse]
      rw [hd]
      refine iff_of_true (covered_of_none rfl) ?_
      intro new old hparse'
      rw [hparse] at hparse'
      cases hparse'
  | ok new =>
      cases hload : loadCloud w.env.forms (createDb d.db) with
      | error e =>
          have hd : startDaemon w config d = { d with cloud := none, db := createDb d.db } := by
            simp only [startDaemon, hparse, hload]
          rw [hd]
          refine iff_of_true (covered_of_none rfl) ?_
          intro new' old' _ hload'
          rw [hload] at hload'
          cases hload'
      | ok old =>
          have hd : startDaemon w config d =
              daemonCore w (initState new) old (createDb d.db) d.dirs := by
            simp only [startDaemon, hparse, hload]
          rw [hd, firstCycle_covered_iff (parseCloudConfig_distinct hparse)
            fun s hs => loadCloud_cfstate hload hs]
          constructor
          · intro h new' old' hparse' hload' hmonitored
            rw [hparse] at hparse'
            rw [hload] at hload'
            cases hparse'
            cases hload'
            exact h hmonitored
          · intro h
            exact h new old hparse hload

theorem answer_covered (config : TCloud) (command : DaemonComm) (h : Covered d) :
    Covered (answer w config command d) := by
  cases answer_commanded w config command d with
  | off _ hd =>
      rw [hd]
      exact h
  | refused curr e _ _ hd =>
      rw [hd]
      exact h
  | accepted curr next hcurr hcheck hd =>
      rw [hd]
      exact daemonCore_covered (parseCloudConfig_distinct (checkAndBackup_parsed hcheck)).names
        (h curr hcurr)

theorem putServer_covered {c : Cloud} {s : KetServer}
    (hc : ∀ x ∈ prodServers c, ∃ st, ansibleCfState x = .ok st)
    (hs : ∃ st, ansibleCfState s = .ok st) :
    ∀ x ∈ prodServers (putServer c s), ∃ st, ansibleCfState x = .ok st := by
  intro x hx
  obtain ⟨hmem, hmonitored⟩ := mem_prodServers.mp hx
  rcases mem_putServer hmem with rfl | ⟨hmem, _⟩
  · exact hs
  · exact hc x (mem_prodServers.mpr ⟨hmem, hmonitored⟩)

theorem produced_cfstate (xuiToken : String) (s : KetServer) :
    (produced xuiToken s).1.cfstate = s.cfstate := by
  rw [produced_same]

theorem retired_cfstate (s : KetServer) : (retired s).1.cfstate = s.cfstate := by
  rw [retired_same]

theorem fullSetup_covered (k : Marking δ) (name : Option String) (xuiToken : String)
    (h : Covered d) : Covered (step d (.fullSetup k name xuiToken)) := by
  cases hc : d.cloud with
  | none =>
      apply covered_of_none
      simp only [step, Provision.step, hc]
  | some c =>
      simp only [step, hc]
      split
      · rename_i hprepared
        obtain ⟨s, hs, hstate⟩ := prepared_ok hprepared
        simp only [Provision.step, hc, hs]
        intro c' hc'
        rw [markServerProduction_cloud, Option.some.injEq] at hc'
        subst hc'
        exact putServer_covered (h c hc)
          (exists_ansibleCfState_of_same (produced_cfstate _ s) hstate)
      · exact h

theorem destroyServer_covered (k : Marking δ) (name : String) (h : Covered d) :
    Covered (step d (.destroyServer k name)) := by
  cases hc : d.cloud with
  | none =>
      apply covered_of_none
      simp only [step, Provision.step, hc]
  | some c =>
      simp only [step, hc]
      split
      · rename_i hprepared
        obtain ⟨s, hs, hstate⟩ := prepared_ok hprepared
        simp only [Provision.step, hc, hs]
        intro c' hc'
        rw [markServerOffgrid_cloud, Option.some.injEq] at hc'
        subst hc'
        exact putServer_covered (h c hc) (exists_ansibleCfState_of_same (retired_cfstate s) hstate)
      · exact h

theorem step_covered_iff (e : Provision.Event δ) (h : Covered d) :
    Covered (step d e) ↔ Restorable d e := by
  cases e with
  | cycle e =>
      cases e with
      | start w config => exact startDaemon_covered_iff config
      | command w config command =>
          exact iff_of_true (answer_covered config command h) trivial
      | stop => exact iff_of_true (covered_of_none rfl) trivial
  | fullSetup k name xuiToken => exact iff_of_true (fullSetup_covered k name xuiToken h) trivial
  | destroyServer k name => exact iff_of_true (destroyServer_covered k name h) trivial

end Steps

/-- Whatever the database holds, every server under monitoring has its Cloudflare
state throughout exactly when every start that loads one to monitor can apply its
config. -/
theorem run_covered_iff (db : Db) (dirs : Dirs δ) (events : List (Provision.Event δ)) :
    Along step (fun d e => Covered (step d e)) { cloud := none, db, dirs } events ↔
      Along step Restorable { cloud := none, db, dirs } events :=
  along_good_iff_always (fun _ e h => step_covered_iff e h) (covered_of_none rfl)

section Instances

open Xcplane.Connections

theorem not_covered_of_any {d : Daemon δ}
    (h : d.cloud.any (fun c => (prodServers c).any fun s => s.cfstate.isNone) = true) :
    ¬ Covered d := by
  intro hcovered
  obtain ⟨c, hc, hany⟩ := (Option.any_eq_true _ _).mp h
  obtain ⟨s, hs, hnone⟩ := List.any_eq_true.mp hany
  have hsome := exists_ansibleCfState_iff.mp (hcovered c hc s hs)
  rw [Option.isNone_iff_eq_none.mp hnone] at hsome
  cases hsome

/-- A restart while the API does not answer monitors `beta` without its state. -/
theorem run_outage_uncovered :
    ¬ Along step (fun d e => Covered (step d e)) stopped
      [firstStart, setUp, .cycle .stop, startInOutage] := by
  rintro ⟨_, _, _, hcovered, _⟩
  exact not_covered_of_any (by decide +kernel) hcovered

end Instances

end Xcplane.CloudflareStates
