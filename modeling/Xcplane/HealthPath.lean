import Mathlib.Data.List.Dedup
import Mathlib.Logic.Function.Basic
import Xcplane.Deployable
import Xcplane.Specimen

/-!
The health path that a server is probed with, and the one that its Nginx serves.
A Rebase takes the path of the new declaration, and reconfigures Nginx for what
differs from the held specification.
-/

namespace Xcplane.HealthPath

open Xcplane.Types
open Xcplane.Lib
open Xcplane.Cloudflare
open Xcplane.Merge
open Xcplane.RebaseDiff
open Xcplane.Deploy
open Xcplane.Reconcile
open Xcplane.ReconcileSpec
open Xcplane.RebasePlan
open Xcplane.JoinedRuns
open Xcplane.CloudConfig
open Xcplane.DaemonCycle
open Xcplane.Provision
open Xcplane.Deployable

variable {δ : Type}

/-- The daemon, with the health path in the Nginx configuration of each server. -/
structure Served (δ : Type) where
  daemon : Daemon δ
  rendered : String → Option String

def rendersNginx (run : AnsibleRun) : Bool :=
  run.actions.any fun a => a = .Nginx || a = .FullSetup || a = .NginxRestoreConfig

def render (rendered : String → Option String) (run : AnsibleRun) : String → Option String :=
  if rendersNginx run then
    Function.update rendered run.server.name (some run.server.secrets.healthPath)
  else rendered

/-- What is done on servers in production: a full setup, a command that goes
through a check of the config file, and a corrective run of the monitor. -/
inductive Act (δ : Type)
  | fullSetup (k : Marking δ) (name : Option String) (xuiToken : String)
  | command (w : Surroundings δ) (config : TCloud) (comm : DaemonComm)
  | nginxRestoreConfig (name : String)

def Act.reconciles (w : Surroundings δ) (next : DaemonNext) (old : Cloud) (d : Daemon δ) :
    ReconOutcome δ :=
  reconcileCloud w.env old next.newCloud next.mode next.rebaseData (w.order old next.newCloud)
    d.dirs

/-- The remote runs of an act, in the order in which they end. -/
def Act.runs (d : Daemon δ) : Act δ → List AnsibleRun
  | .fullSetup _ name _ =>
      match d.cloud with
      | none => []
      | some c =>
          match expandTarget c name with
          | .error _ => []
          | .ok s => [⟨s, [.FullSetup], none⟩]
  | .command w config comm =>
      match d.cloud with
      | none => []
      | some c =>
          match checkAndBackup w c config comm with
          | .error _ => []
          | .ok next => w.env.remote.order (Act.reconciles w next c d).started
  | .nginxRestoreConfig name =>
      match d.cloud.bind fun c => c.collected name with
      | none => []
      | some s => [⟨s, [.NginxRestoreConfig], none⟩]

def Act.daemon (d : Daemon δ) : Act δ → Daemon δ
  | .fullSetup k name xuiToken => Provision.step d (.fullSetup k name xuiToken)
  | .command w config comm => Provision.step d (.cycle (.command w config comm))
  | .nginxRestoreConfig _ => d

def step (st : Served δ) (a : Act δ) : Served δ where
  daemon := a.daemon st.daemon
  rendered := (a.runs st.daemon).foldl render st.rendered

def Monitored (n : String) (d : Daemon δ) (s : KetServer) : Prop :=
  ∃ c, d.cloud = some c ∧ c.collected n = some s

/-- The path that the server is probed with is the one that its Nginx serves. -/
def Answers (n : String) (st : Served δ) : Prop :=
  ∀ s, Monitored n st.daemon s → s.state = .Production →
    st.rendered n = some s.secrets.healthPath

def InProduction (n : String) (d : Daemon δ) : Prop :=
  ∃ s, Monitored n d s ∧ s.state = .Production ∧ s.enabled = true

def SetsUp (n : String) (d : Daemon δ) : Act δ → Prop
  | .fullSetup _ name _ => ∃ c s, d.cloud = some c ∧ expandTarget c name = .ok s ∧ s.name = n
  | _ => False

/-- Every remote run of the act succeeds. -/
def Succeeds : Act δ → Prop
  | .command w _ _ => ∀ run, w.env.remote.outcome run = .success
  | _ => True

structure Stays (n : String) (st : Served δ) (a : Act δ) : Prop where
  before : InProduction n st.daemon ∨ SetsUp n st.daemon a
  after : InProduction n (step st a).daemon
  succeeds : Succeeds a

/-- What a Rebase reconfigures Nginx for: the hostnames, and how Cloudflare is used. -/
def NginxDiffers (F : Forms) (o s : KetServer) : Prop :=
  F.hostText o.domain ≠ F.hostText s.domain ∨ o.dnsSubdomain ≠ s.dnsSubdomain ∨
    o.uiSubdomain ≠ s.uiSubdomain ∨ o.subSubdomain ≠ s.subSubdomain ∨
    o.cloudflareProxied ≠ s.cloudflareProxied ∨
    ∃ st, o.cfstate = some st ∧ st.cloudflareOnly ≠ cloudflareOnly s

/-- A Rebase that ends well has a reason to reconfigure Nginx, or the server is
held with the health path of its new declaration. -/
def PathKept (n : String) (st : Served δ) : Act δ → Prop
  | .command w config comm =>
      ∀ c next o s, st.daemon.cloud = some c → checkAndBackup w c config comm = .ok next →
        next.mode = .Rebase → (∃ c', (Act.reconciles w next c st.daemon).result = .ok c') →
        c.collected n = some o → next.newCloud.collected n = some s →
        NginxDiffers w.env.forms o s ∨ o.secrets.healthPath = s.secrets.healthPath
  | _ => True

section Plan

variable {F : Forms} {o m : KetServer} {data : Option RebaseData} {actions : List AnsibleAction}

theorem nginx_mem_specActions : AnsibleAction.Nginx ∈ specActions F o m ↔
    F.hostText o.domain ≠ F.hostText m.domain ∨ o.dnsSubdomain ≠ m.dnsSubdomain ∨
      o.uiSubdomain ≠ m.uiSubdomain ∨ o.subSubdomain ≠ m.subSubdomain :=
  hostnames_mem_specActions (.inr rfl)

theorem nginx_mem_proxyActions {oldState newState : CFState} :
    AnsibleAction.Nginx ∈ proxyActions o m oldState newState ↔
      o.cloudflareProxied ≠ m.cloudflareProxied ∨
        oldState.cloudflareOnly ≠ newState.cloudflareOnly := by
  unfold proxyActions
  split
  · rename_i h
    simpa using h
  · rename_i h
    simpa using h

/-- A Rebase never sets a server up or restores a configuration. -/
theorem planActions_regular (hplan : planActions F o m data = .ok actions) :
    ∀ a ∈ actions, a ≠ .FullSetup ∧ a ≠ .NginxRestoreConfig := by
  intro a ha
  have hplanned := mem_planned hplan ha
  constructor
  · rintro rfl
    exact absurd hplanned (by decide)
  · rintro rfl
    exact absurd hplanned (by decide)

/-- Nginx is planned exactly for the differences that concern it. -/
theorem nginx_mem_planActions {s : KetServer} (hplan : planActions F o m data = .ok actions)
    (hm : ∃ conn, m = { s with
      secrets := m.secrets
      ansibleConn := conn
      cfstate := m.cfstate })
    (hstate : ∃ st, m.cfstate = some st ∧ st.cloudflareOnly = cloudflareOnly s) :
    AnsibleAction.Nginx ∈ actions ↔ NginxDiffers F o s := by
  obtain ⟨oldState, newState, hold, hnew, rfl⟩ := planActions_eq_ok_iff.mp hplan
  obtain ⟨st, hst, honly⟩ := hstate
  obtain ⟨conn, hm⟩ := hm
  rw [hst, Option.some.injEq] at hnew
  subst hnew
  have houtblock : AnsibleAction.Nginx ∉ outblockActions o m :=
    fun h => absurd (mem_outblockActions h) (by decide)
  have hinbound : AnsibleAction.Nginx ∉ inboundActions data :=
    fun h => absurd (mem_inboundActions h) (by decide)
  rw [mem_sortUnique]
  simp only [List.mem_append, nginx_mem_specActions, nginx_mem_proxyActions, houtblock,
    hinbound, or_false, NginxDiffers, hold, Option.some.injEq,
    exists_eq_left', honly]
  rw [hm]
  simp only [or_assoc]

end Plan

section Rendering

variable {n p : String} {rendered : String → Option String} {runs : List AnsibleRun}

theorem render_of_ne {run : AnsibleRun} (h : run.server.name ≠ n) :
    render rendered run n = rendered n := by
  unfold render
  split
  · exact Function.update_of_ne h.symm _ _
  · rfl

theorem render_of_not {run : AnsibleRun} (h : rendersNginx run = false) :
    render rendered run = rendered := by
  unfold render
  rw [h]
  rfl

theorem render_self {run : AnsibleRun} (h : rendersNginx run = true) :
    render rendered run run.server.name = some run.server.secrets.healthPath := by
  unfold render
  rw [if_pos h]
  exact Function.update_self _ _ _

theorem render_fullSetup (s : KetServer) :
    render rendered ⟨s, [.FullSetup], none⟩ s.name = some s.secrets.healthPath :=
  render_self rfl

theorem render_restore (s : KetServer) :
    render rendered ⟨s, [.NginxRestoreConfig], none⟩ s.name = some s.secrets.healthPath :=
  render_self rfl

theorem renderAll_of_not
    (h : ∀ run ∈ runs, run.server.name = n → rendersNginx run = false) :
    runs.foldl render rendered n = rendered n := by
  induction runs generalizing rendered with
  | nil => rfl
  | cons run rest ih =>
      rw [List.forall_mem_cons] at h
      rw [List.foldl_cons, ih h.2]
      by_cases hname : run.server.name = n
      · rw [render_of_not (h.1 hname)]
      · exact render_of_ne hname

/-- Runs that all render the same path for a server leave that path. -/
theorem renderAll_of_same
    (h : ∀ run ∈ runs, run.server.name = n → run.server.secrets.healthPath = p)
    (hp : rendered n = some p ∨ ∃ run ∈ runs, run.server.name = n ∧ rendersNginx run = true) :
    runs.foldl render rendered n = some p := by
  induction runs generalizing rendered with
  | nil => simpa using hp
  | cons run rest ih =>
      rw [List.forall_mem_cons] at h
      rw [List.foldl_cons]
      apply ih h.2
      by_cases hrun : run.server.name = n ∧ rendersNginx run = true
      · left
        rw [← hrun.1, render_self hrun.2, h.1 hrun.1]
      · have hkept : render rendered run n = rendered n := by
          by_cases hname : run.server.name = n
          · rw [render_of_not (by simpa using fun hrenders => hrun ⟨hname, hrenders⟩)]
          · exact render_of_ne hname
        rw [hkept]
        refine hp.imp_right ?_
        rintro ⟨x, hx, hxrun⟩
        rcases List.mem_cons.mp hx with rfl | hx
        · exact absurd hxrun hrun
        · exact ⟨x, hx, hxrun⟩

end Rendering

section Reconciliation

variable {env : ReconEnv δ} {old new c : Cloud} {mode : ReconMode} {n : String}
  {o s x : KetServer} {rebaseData : Option (List (String × RebaseData))} {ord : MergeOrder old new}
  {dirs : Dirs δ}

theorem reconcileCloud_local_started (hmode : mode ≠ .Rebase) :
    (reconcileCloud env old new mode rebaseData ord dirs).started = [] := by
  unfold reconcileCloud
  split
  · rfl
  · split
    · rfl
    · split
      · rfl
      · unfold finish
        split
        · rfl
        · split
          · exact absurd rfl hmode
          · exact absurd rfl hmode
          · rfl

theorem reconcileCloud_merged (hnew : new.names.Nodup)
    (h : (reconcileCloud env old new mode rebaseData ord dirs).result = .ok c)
    (ho : old.collected n = some o) (hs : new.collected n = some s)
    (hx : c.collected n = some x) : ∃ m, Merged mode o s m ∧ Final m x := by
  have hok := reconcileCloud_ok hnew h
  obtain ⟨x', hx', hname, hmerged⟩ := hok.common ho hs
  have hcollected := Cloud.collected_of_mem hok.names_nodup hx'
  rw [hname, hx, Option.some.injEq] at hcollected
  rwa [hcollected]

/-- Without a Rebase a server in production keeps its health path. -/
theorem reconcileCloud_local_path (hnew : new.names.Nodup) (hmode : mode ≠ .Rebase)
    (h : (reconcileCloud env old new mode rebaseData ord dirs).result = .ok c)
    (ho : old.collected n = some o) (hs : new.collected n = some s)
    (hx : c.collected n = some x) (hstate : o.state = .Production) :
    x.secrets.healthPath = o.secrets.healthPath := by
  obtain ⟨m, hm, hmx⟩ := reconcileCloud_merged hnew h ho hs hx
  rw [hmx.secrets]
  cases hm with
  | replaced _ hoff =>
      rw [hstate] at hoff
      cases hoff
  | kept => rfl
  | remapped => rfl
  | rebased hrebases => exact absurd (rebases_iff.mp hrebases).1 hmode

/-- A Rebase that leaves a server in production and enabled took its declaration. -/
theorem merged_of_serves {m : KetServer} (h : Merged .Rebase o s m)
    (hstate : m.state = .Production) (henabled : m.enabled = true) :
    s.state = .Production ∧ s.enabled = true ∧
      m.secrets.healthPath = s.secrets.healthPath := by
  cases h with
  | replaced hmode => cases hmode
  | kept hkept =>
      have hdisabled := (keepsOld_rebase_iff.mp hkept).1
      rw [show s.enabled = true from henabled] at hdisabled
      cases hdisabled
  | remapped hremaps =>
      rcases remaps_iff.mp hremaps with hmode | ⟨_, hoff⟩
      · cases hmode
      · rw [show s.state = .Production from hstate] at hoff
        cases hoff
  | rebased => exact ⟨hstate, henabled, rfl⟩

/-- After a Rebase it has the new one, and Nginx is reconfigured for what differs. -/
theorem reconcileCloud_rebase_path (hnew : new.names.Nodup)
    (h : (reconcileCloud env old new .Rebase rebaseData ord dirs).result = .ok c)
    (ho : old.collected n = some o) (hs : new.collected n = some s)
    (hx : c.collected n = some x) (hstate : x.state = .Production) (henabled : x.enabled = true) :
    x.secrets.healthPath = s.secrets.healthPath ∧
      (∀ run ∈ (reconcileCloud env old new .Rebase rebaseData ord dirs).started,
        run.server.name = n → run.server.secrets.healthPath = s.secrets.healthPath) ∧
      ((∃ run ∈ (reconcileCloud env old new .Rebase rebaseData ord dirs).started,
        run.server.name = n ∧ rendersNginx run = true) ↔ NginxDiffers env.forms o s) := by
  obtain ⟨m, hm, hmx⟩ := reconcileCloud_merged hnew h ho hs hx
  rw [hmx.state_eq] at hstate
  rw [hmx.enabled] at henabled
  obtain ⟨hproduction, hnewEnabled, hpath⟩ := merged_of_serves hm hstate henabled
  have hold : old.servers ≠ [] := List.ne_nil_of_mem (Cloud.collected_eq_some ho).1
  obtain ⟨data, cloud, pairs, _, hok⟩ := reconcileCloud_rebaseOk hold h
  obtain ⟨m', _, hdeployed⟩ := hok.deployed ho hs hproduction
  obtain ⟨merged, hmerge, hrefreshed⟩ := hdeployed.merge
  obtain ⟨actions, hplan, hruns⟩ := hdeployed.plan
  obtain ⟨newConn, oldConn, _, rfl⟩ := rebaseMerge_enabled hmerge hproduction hnewEnabled
  have hsame : m'.secrets = rebasedSecrets o s := by rw [hrefreshed.same]
  have hnginx : AnsibleAction.Nginx ∈ actions ↔ NginxDiffers env.forms o s := by
    refine nginx_mem_planActions hplan ⟨m'.ansibleConn, ?_⟩ hrefreshed.state
    rw [hrefreshed.same]
  refine ⟨by rw [hmx.secrets, hpath], ?_, ?_⟩
  · intro run hrun hname
    obtain ⟨_, hrun⟩ := (hruns run).mp ⟨hrun, hname⟩
    rw [hrun]
    show m'.secrets.healthPath = _
    rw [hsame]
    rfl
  · rw [← hnginx]
    constructor
    · rintro ⟨run, hrun, hname, hrenders⟩
      obtain ⟨_, hrun⟩ := (hruns run).mp ⟨hrun, hname⟩
      rw [hrun] at hrenders
      obtain ⟨a, ha, hnginx⟩ := List.any_eq_true.mp hrenders
      obtain ⟨hfull, hrestore⟩ := planActions_regular hplan a ha
      have heq : a = .Nginx := by simpa [hfull, hrestore] using hnginx
      exact heq ▸ ha
    · intro hmem
      have hne : actions ≠ [] := List.ne_nil_of_mem hmem
      obtain ⟨hrun, hname⟩ := (hruns _).mpr ⟨hne, rfl⟩
      refine ⟨_, hrun, hname, ?_⟩
      exact List.any_eq_true.mpr ⟨.Nginx, hmem, by decide⟩

theorem applied_rebase_path {w : Surroundings δ} {next : DaemonNext} {d : Daemon δ}
    (hnew : next.newCloud.names.Nodup) (hmode : next.mode = .Rebase)
    (h : (Act.reconciles w next old d).result = .ok c)
    (ho : old.collected n = some o) (hs : next.newCloud.collected n = some s)
    (hx : c.collected n = some x) (hstate : x.state = .Production) (henabled : x.enabled = true) :
    x.secrets.healthPath = s.secrets.healthPath ∧
      (∀ run ∈ (Act.reconciles w next old d).started,
        run.server.name = n → run.server.secrets.healthPath = s.secrets.healthPath) ∧
      ((∃ run ∈ (Act.reconciles w next old d).started,
        run.server.name = n ∧ rendersNginx run = true) ↔ NginxDiffers w.env.forms o s) := by
  obtain ⟨mode, new, data⟩ := next
  subst hmode
  exact reconcileCloud_rebase_path hnew h ho hs hx hstate henabled

end Reconciliation

section Steps

variable {n : String} {st : Served δ} {d : Daemon δ}

theorem collected_putServer {c : Cloud} {s : KetServer} :
    (putServer c s).collected n =
      (c.collected n).map fun y => if y.name = s.name then s else y := by
  simp only [Cloud.collected, putServer, ← List.map_reverse, List.find?_map]
  congr 2
  funext y
  show ((if y.name = s.name then s else y).name == n) = (y.name == n)
  split
  · rename_i h
    rw [h]
  · rfl

theorem monitored_unique {s s' : KetServer} (h : Monitored n d s) (h' : Monitored n d s') :
    s = s' := by
  obtain ⟨c, hc, hs⟩ := h
  obtain ⟨c', hc', hs'⟩ := h'
  rw [hc, Option.some.injEq] at hc'
  rw [hc', hs', Option.some.injEq] at hs
  exact hs.symm

/-- How the server is monitored after a command: as before, or in the cloud of a
reconciliation that ended well. -/
inductive Answered (w : Surroundings δ) (config : TCloud) (comm : DaemonComm) (n : String)
    (d : Daemon δ) (c : Cloud) (x : KetServer) : Prop
  | refused (e : BoxError) (hcheck : checkAndBackup w c config comm = .error e)
      (hx : Monitored n d x)
  | failed (next : DaemonNext) (e : BoxError) (hcheck : checkAndBackup w c config comm = .ok next)
      (hresult : (Act.reconciles w next c d).result = .error e) (hx : Monitored n d x)
  | applied (next : DaemonNext) (c' : Cloud) (hcheck : checkAndBackup w c config comm = .ok next)
      (hresult : (Act.reconciles w next c d).result = .ok c') (hx : c'.collected n = some x)

theorem answer_monitored {w : Surroundings δ} {config : TCloud} {comm : DaemonComm}
    {x : KetServer} {c : Cloud} (hc : d.cloud = some c)
    (hx : Monitored n (answer w config comm d) x) : Answered w config comm n d c x := by
  cases answer_commanded w config comm d with
  | off hnone _ =>
      rw [hc] at hnone
      cases hnone
  | refused curr e hcurr hcheck hd =>
      rw [hc, Option.some.injEq] at hcurr
      subst hcurr
      rw [hd] at hx
      exact .refused e hcheck hx
  | accepted curr next hcurr hcheck hd =>
      rw [hc, Option.some.injEq] at hcurr
      subst hcurr
      rw [hd] at hx
      cases daemonCore_cycled w next c (Database.createDb d.db) d.dirs with
      | failed e hresult hd =>
          rw [hd] at hx
          obtain ⟨_, ⟨⟩, hx⟩ := hx
          exact .failed next e hcheck hresult ⟨c, hc, hx⟩
      | stopped c' db' e _ _ hd =>
          rw [hd] at hx
          obtain ⟨_, hnone, _⟩ := hx
          cases hnone
      | applied c' db' hresult _ hd =>
          rw [hd] at hx
          obtain ⟨_, ⟨⟩, hx⟩ := hx
          exact .applied next c' hcheck hresult hx

theorem runs_of_refused {w : Surroundings δ} {config : TCloud} {comm : DaemonComm} {c : Cloud}
    {e : BoxError} (hc : d.cloud = some c) (hcheck : checkAndBackup w c config comm = .error e) :
    (Act.command w config comm).runs d = [] := by
  simp only [Act.runs, hc, hcheck]

theorem runs_of_accepted {w : Surroundings δ} {config : TCloud} {comm : DaemonComm} {c : Cloud}
    {next : DaemonNext} (hc : d.cloud = some c)
    (hcheck : checkAndBackup w c config comm = .ok next) :
    (Act.command w config comm).runs d =
      w.env.remote.order (Act.reconciles w next c d).started := by
  simp only [Act.runs, hc, hcheck]

theorem order_nil (remote : Remote) : remote.order [] = [] :=
  (remote.perm []).eq_nil

/-- Only a command whose reconciliation ends well takes another path. -/
theorem pathKept_of_not_applied {w : Surroundings δ} {config : TCloud} {comm : DaemonComm}
    {c : Cloud} (hc : st.daemon.cloud = some c)
    (h : ∀ next, checkAndBackup w c config comm = .ok next →
      ∀ c', (Act.reconciles w next c st.daemon).result ≠ .ok c') :
    PathKept n st (.command w config comm) := by
  intro c' next _ _ hc' hcheck _ hok
  rw [hc, Option.some.injEq] at hc'
  subst hc'
  obtain ⟨c', hresult⟩ := hok
  exact absurd hresult (h next hcheck c')

theorem pathKept_iff_of_applied {w : Surroundings δ} {config : TCloud} {comm : DaemonComm}
    {c c' : Cloud} {next : DaemonNext} {o s : KetServer} (hc : st.daemon.cloud = some c)
    (hcheck : checkAndBackup w c config comm = .ok next)
    (hresult : (Act.reconciles w next c st.daemon).result = .ok c')
    (ho : c.collected n = some o) (hs : next.newCloud.collected n = some s) :
    PathKept n st (.command w config comm) ↔ (next.mode = .Rebase →
      NginxDiffers w.env.forms o s ∨ o.secrets.healthPath = s.secrets.healthPath) := by
  constructor
  · intro h hmode
    exact h c next o s hc hcheck hmode ⟨c', hresult⟩ ho hs
  · rintro h c₁ next₁ o₁ s₁ hc₁ hcheck₁ hmode _ ho₁ hs₁
    rw [hc, Option.some.injEq] at hc₁
    subst hc₁
    rw [hcheck, Except.ok.injEq] at hcheck₁
    subst hcheck₁
    rw [ho, Option.some.injEq] at ho₁
    rw [hs, Option.some.injEq] at hs₁
    subst ho₁ hs₁
    exact h hmode

/-- The runs of a Rebase render the new path when they reconfigure Nginx, and leave the
old one otherwise. -/
theorem rebase_renders_iff {w : Surroundings δ} {next : DaemonNext} {c c' : Cloud}
    {o s x : KetServer} (hnames : next.newCloud.names.Nodup) (hmode : next.mode = .Rebase)
    (hresult : (Act.reconciles w next c d).result = .ok c') (ho : c.collected n = some o)
    (hs : next.newCloud.collected n = some s) (hx : c'.collected n = some x)
    (hstate : x.state = .Production) (henabled : x.enabled = true)
    {rendered : String → Option String} (hrendered : rendered n = some o.secrets.healthPath) :
    (w.env.remote.order (Act.reconciles w next c d).started).foldl render rendered n =
        some x.secrets.healthPath ↔
      NginxDiffers w.env.forms o s ∨ o.secrets.healthPath = s.secrets.healthPath := by
  have hmem : ∀ run, run ∈ w.env.remote.order (Act.reconciles w next c d).started ↔
      run ∈ (Act.reconciles w next c d).started :=
    fun run => (w.env.remote.perm _).mem_iff
  obtain ⟨hpath, hsame, hnginx⟩ := applied_rebase_path hnames hmode hresult ho hs hx hstate
    henabled
  rw [hpath]
  by_cases hdiff : NginxDiffers w.env.forms o s
  · obtain ⟨run, hrun, hrenders⟩ := hnginx.mpr hdiff
    refine iff_of_true ?_ (.inl hdiff)
    exact renderAll_of_same (fun run hrun => hsame run ((hmem run).mp hrun))
      (.inr ⟨run, (hmem run).mpr hrun, hrenders⟩)
  · rw [renderAll_of_not, hrendered, Option.some.injEq]
    · exact (or_iff_right hdiff).symm
    · intro run hrun hname
      by_contra hrenders
      exact hdiff (hnginx.mp ⟨run, (hmem run).mp hrun, hname, by simpa using hrenders⟩)

/-- What a command that keeps the server in production leaves rendered. -/
theorem command_answers_iff {w : Surroundings δ} {config : TCloud} {comm : DaemonComm}
    {c : Cloud} {o x : KetServer} (hd : DaemonDeployable st.daemon)
    (hsucceeds : ∀ run, w.env.remote.outcome run = .success) (hst : Answers n st)
    (hc : st.daemon.cloud = some c) (ho : c.collected n = some o)
    (hold : o.state = .Production) (hx : Monitored n (answer w config comm st.daemon) x)
    (hstate : x.state = .Production) (henabled : x.enabled = true) :
    (step st (.command w config comm)).rendered n = some x.secrets.healthPath ↔
      PathKept n st (.command w config comm) := by
  have hrendered : st.rendered n = some o.secrets.healthPath := hst o ⟨c, hc, ho⟩ hold
  cases answer_monitored hc hx with
  | refused e hcheck hx =>
      have hkept : PathKept n st (.command w config comm) := by
        apply pathKept_of_not_applied hc
        intro next hcheck'
        rw [hcheck] at hcheck'
        cases hcheck'
      simp only [step, runs_of_refused hc hcheck, List.foldl_nil, hkept, iff_true]
      exact hst x hx hstate
  | failed next e hcheck hresult hx =>
      have hkept : PathKept n st (.command w config comm) := by
        apply pathKept_of_not_applied hc
        intro next' hcheck' c' hok
        rw [hcheck, Except.ok.injEq] at hcheck'
        subst hcheck'
        rw [hresult] at hok
        cases hok
      have hparse := checkAndBackup_parsed hcheck
      have hnone : (Act.reconciles w next c st.daemon).started = [] :=
        reconcileCloud_error_no_runs (parseCloudConfig_conns hparse) (hd c hc) hsucceeds hresult
      simp only [step, runs_of_accepted hc hcheck, hnone, order_nil, List.foldl_nil, hkept,
        iff_true]
      exact hst x hx hstate
  | applied next c' hcheck hresult hx =>
      have hnames := (parseCloudConfig_distinct (checkAndBackup_parsed hcheck)).names
      obtain ⟨s, hs⟩ : ∃ s, next.newCloud.collected n = some s := by
        apply Cloud.exists_collected
        rw [← (reconcileCloud_ok hnames hresult).mem_names, ← Cloud.collected_isSome_iff, hx]
        rfl
      rw [pathKept_iff_of_applied hc hcheck hresult ho hs]
      simp only [step, runs_of_accepted hc hcheck]
      by_cases hmode : next.mode = .Rebase
      · rw [rebase_renders_iff hnames hmode hresult ho hs hx hstate henabled hrendered]
        exact ⟨fun h _ => h, fun h => h hmode⟩
      · have hnone : (Act.reconciles w next c st.daemon).started = [] :=
          reconcileCloud_local_started hmode
        rw [hnone, order_nil, List.foldl_nil, hrendered,
          reconcileCloud_local_path hnames hmode hresult ho hs hx hold]
        exact iff_of_true rfl fun h => absurd h hmode

/-- A full setup renders the health path that the server is held with. -/
theorem fullSetup_answers {k : Marking δ} {name : Option String} {xuiToken : String}
    {x : KetServer} (hst : Answers n st)
    (hbefore : InProduction n st.daemon ∨ SetsUp n st.daemon (.fullSetup k name xuiToken))
    (hx : Monitored n (Provision.step st.daemon (.fullSetup k name xuiToken)) x)
    (hstate : x.state = .Production) :
    (step st (.fullSetup k name xuiToken)).rendered n = some x.secrets.healthPath := by
  obtain ⟨c, hc⟩ : ∃ c, st.daemon.cloud = some c := by
    rcases hbefore with ⟨_, ⟨c, hc, _⟩, _⟩ | ⟨c, _, hc, _⟩
    · exact ⟨c, hc⟩
    · exact ⟨c, hc⟩
  simp only [Provision.step, hc] at hx
  cases htarget : expandTarget c name with
  | error e =>
      rw [htarget] at hx
      simp only [step, Act.runs, hc, htarget, List.foldl_nil]
      exact hst x hx hstate
  | ok s =>
      rw [htarget] at hx
      obtain ⟨_, hput, hx⟩ := hx
      simp only [markServerProduction_cloud, Option.some.injEq] at hput
      subst hput
      simp only [step, Act.runs, hc, htarget, List.foldl_cons, List.foldl_nil]
      rw [collected_putServer, Option.map_eq_some_iff] at hx
      obtain ⟨y, hy, hyx⟩ := hx
      rw [(Cloud.collected_eq_some hy).2, produced_name] at hyx
      by_cases hname : s.name = n
      · rw [if_pos hname.symm] at hyx
        rw [← hyx, produced_healthPath, ← hname]
        exact render_fullSetup s
      · rw [if_neg (Ne.symm hname)] at hyx
        subst hyx
        rw [render_of_ne hname]
        exact hst y ⟨c, hc, hy⟩ hstate

/-- Restoring the configuration of Nginx renders the path again. -/
theorem nginxRestoreConfig_answers {name : String} {x : KetServer} (hst : Answers n st)
    (hx : Monitored n st.daemon x) (hstate : x.state = .Production) :
    (step st (.nginxRestoreConfig name)).rendered n = some x.secrets.healthPath := by
  obtain ⟨c, hc, hcollected⟩ := hx
  have hheld : st.rendered n = some x.secrets.healthPath := hst x ⟨c, hc, hcollected⟩ hstate
  simp only [step, Act.runs, hc, Option.bind_some]
  split
  · exact hheld
  · rename_i s hs
    rw [List.foldl_cons, List.foldl_nil]
    by_cases hname : s.name = n
    · rw [← (Cloud.collected_eq_some hs).2, hname, hcollected, Option.some.injEq] at hs
      rw [hs, ← hname]
      exact render_restore s
    · rw [render_of_ne hname]
      exact hheld

/-- A step keeps the health path and the Nginx configuration of the server together
exactly when the reconciliation in it, if any, keeps the path or reconfigures Nginx. -/
theorem step_answers_iff {a : Act δ} (hd : DaemonDeployable st.daemon) (h : Stays n st a)
    (hst : Answers n st) : Answers n (step st a) ↔ PathKept n st a := by
  obtain ⟨x, hx, hstate, henabled⟩ := h.after
  have hafter : Answers n (step st a) ↔
      (step st a).rendered n = some x.secrets.healthPath := by
    constructor
    · intro h
      exact h x hx hstate
    · intro h y hy _
      rw [monitored_unique hy hx]
      exact h
  rw [hafter]
  cases a with
  | fullSetup k name xuiToken =>
      exact iff_of_true (fullSetup_answers hst h.before hx hstate) trivial
  | command w config comm =>
      obtain ⟨o, ⟨c, hc, ho⟩, hold, _⟩ : InProduction n st.daemon := by
        simpa [SetsUp] using h.before
      exact command_answers_iff hd h.succeeds hst hc ho hold hx hstate henabled
  | nginxRestoreConfig name =>
      exact iff_of_true (nginxRestoreConfig_answers hst hx hstate) trivial

theorem act_deployable {a : Act δ} (hd : DaemonDeployable d) : DaemonDeployable (a.daemon d) := by
  cases a with
  | fullSetup k name xuiToken => exact step_deployable d _ hd
  | command w config comm => exact step_deployable d _ hd
  | nginxRestoreConfig name => exact hd

/-- In a run that keeps the server in production, it is probed with the path that its
Nginx serves after every step exactly when no Rebase of the run takes another health
path for it without reconfiguring Nginx. -/
theorem run_answers_iff (st : Served δ) (acts : List (Act δ)) (hstarted : Started st.daemon)
    (hst : Answers n st) (hstays : Along step (Stays n) st acts) :
    Along step (fun st a => Answers n (step st a)) st acts ↔ Along step (PathKept n) st acts :=
  along_good_iff (fun st _ (hd : DaemonDeployable st.daemon) _ => act_deployable hd)
    (fun _ _ hd h hst => step_answers_iff hd h hst)
    (started_deployable hstarted) hst hstays

end Steps

section Instances

open Xcplane.Specimen

variable {n : String} {st : Served δ} {d : Daemon δ}

theorem inProduction_of_any (h : (d.cloud.bind fun c => c.collected n).any
    (fun s => s.state = .Production && s.enabled) = true) : InProduction n d := by
  obtain ⟨s, hs, h⟩ := (Option.any_eq_true _ _).mp h
  obtain ⟨c, hc, hs⟩ := Option.bind_eq_some_iff.mp hs
  exact ⟨s, ⟨c, hc, hs⟩, by simpa using h⟩

theorem not_answers_of_any (h : (st.daemon.cloud.bind fun c => c.collected n).any
    (fun s => s.state = .Production && st.rendered n != some s.secrets.healthPath) = true) :
    ¬ Answers n st := by
  obtain ⟨s, hs, h⟩ := (Option.any_eq_true _ _).mp h
  obtain ⟨c, hc, hs⟩ := Option.bind_eq_some_iff.mp hs
  simp only [Bool.and_eq_true, decide_eq_true_eq, bne_iff_ne, ne_eq] at h
  exact fun hst => h.2 (hst s ⟨c, hc, hs⟩ h.1)

def pathForms : Forms :=
  { forms with
    sha256Hex := fun text =>
      if text = "name=alpha|domain=a.example.org|dsub=dns|usub=ui|ssub=sub" then
        "3ff497796514e6ffc16cb5cd70f4f3f6ae8dbf4a73bfaafc0b43ed8e7fe48036"
      else "e8390792369b1492bb1f5651e3d62e25f748c66c40b266c961fc0e156a10bd47" }

def surroundings : Surroundings (List String) where
  env := { env with forms := pathForms }
  draws := draws
  order := order
  inboundOrder := inboundOrder
  iteration := iteration
  fault _ := none
  cloudConfig := .ok ""

def config (state : ServerState) (uiSubdomain : String) : TCloud :=
  declared [{ alpha with state, uiSubdomain, inbounds := [direct] }]

/-- The daemon started with `alpha`, which is not provisioned yet. -/
def served : Served (List String) where
  daemon := run Provision.step { cloud := none, db := .empty, dirs }
    [.cycle (.start surroundings (config .Offgrid "ui"))]
  rendered _ := none

theorem served_started : Started served.daemon :=
  ⟨dirs, _, rfl⟩

theorem served_answers : Answers "alpha" served := by
  have hoff : (served.daemon.cloud.bind fun c => c.collected "alpha").all
      (fun s => s.state != .Production) = true := by
    decide +kernel
  rintro s ⟨c, hc, hs⟩ hstate
  rw [hc, Option.bind_some, hs] at hoff
  simp [hstate] at hoff

def setUp : Act (List String) :=
  .fullSetup { update := none, cloudConfig := none, removeDirAll := fun _ _ => .ok () } none
    "token"

def rebase (uiSubdomain : String) : Act (List String) :=
  .command surroundings (config .Production uiSubdomain)
    (.Rebase { forced := false })

def remap (uiSubdomain : String) : Act (List String) :=
  .command surroundings (config .Production uiSubdomain) .Remap

theorem setUp_stays : Stays "alpha" served setUp where
  before := by
    right
    have htarget : served.daemon.cloud.any (fun c =>
        match expandTarget c none with
        | .ok s => s.name = "alpha"
        | .error _ => false) = true := by
      decide +kernel
    obtain ⟨c, hc, h⟩ := (Option.any_eq_true _ _).mp htarget
    split at h
    · rename_i s hs
      exact ⟨c, s, hc, hs, by simpa using h⟩
    · cases h
  after := inProduction_of_any (by decide +kernel)
  succeeds := trivial

theorem command_stays {st : Served (List String)} {config : TCloud} {comm : DaemonComm}
    (hbefore : InProduction n st.daemon)
    (hafter : InProduction n (step st (.command surroundings config comm)).daemon) :
    Stays n st (.command surroundings config comm) where
  before := .inl hbefore
  after := hafter
  succeeds _ := rfl

theorem run_answers_iff_renamed :
    Along step (fun st a => Answers "alpha" (step st a)) served [setUp, rebase "panel"] := by
  refine (run_answers_iff served _ served_started served_answers ?_).mpr ⟨trivial, ?_, trivial⟩
  · refine ⟨setUp_stays, command_stays ?_ ?_, trivial⟩
    · exact inProduction_of_any (by decide +kernel)
    · exact inProduction_of_any (by decide +kernel)
  · intro c next o s hc hcheck _ _ ho hs
    left
    have hold : ((step served setUp).daemon.cloud.bind fun c => c.collected "alpha").all
        (fun o => o.uiSubdomain = "ui") = true := by
      decide +kernel
    have hnew : (parseCloudConfig surroundings.env.forms surroundings.draws
        (config .Production "panel")).toOption.all
          (fun new => (new.collected "alpha").all fun s => s.uiSubdomain = "panel") = true := by
      decide +kernel
    have hparse : parseCloudConfig surroundings.env.forms surroundings.draws
        (config .Production "panel") = .ok next.newCloud :=
      checkAndBackup_parsed hcheck
    rw [hc, Option.bind_some, ho] at hold
    rw [hparse] at hnew
    have hnewUi : s.uiSubdomain = "panel" := by simpa [Except.toOption, hs] using hnew
    have holdUi : o.uiSubdomain = "ui" := by simpa using hold
    refine .inr (.inr (.inl ?_))
    rw [holdUi, hnewUi]
    decide

/-- A Remap changes a subdomain and keeps the health path, so the next Rebase takes
a new path and has no reason to reconfigure Nginx. -/
theorem run_remapped_unanswered :
    Along step (Stays "alpha") served [setUp, remap "panel", rebase "panel"] ∧
      ¬ Along step (fun st a => Answers "alpha" (step st a)) served
        [setUp, remap "panel", rebase "panel"] := by
  constructor
  · refine ⟨setUp_stays, command_stays ?_ ?_, command_stays ?_ ?_, trivial⟩
    · exact inProduction_of_any (by decide +kernel)
    · exact inProduction_of_any (by decide +kernel)
    · exact inProduction_of_any (by decide +kernel)
    · exact inProduction_of_any (by decide +kernel)
  · rintro ⟨_, _, hrebased, _⟩
    exact not_answers_of_any (by decide +kernel) hrebased

end Instances

end Xcplane.HealthPath
