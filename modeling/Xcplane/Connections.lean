import Xcplane.DatabaseSpec
import Xcplane.JoinedRuns
import Xcplane.Provision
import Xcplane.Specimen
import Xcplane.Lib.Trace

/-!
Which host and port the daemon connects to. A server in production listens on its
SSH port and one that is not provisioned on the default one; loading a cloud from
the database does not make the difference.
-/

namespace Xcplane.Connections

open Xcplane.Types
open Xcplane.Lib
open Xcplane.Server
open Xcplane.CloudConfig
open Xcplane.Database
open Xcplane.DatabaseSpec
open Xcplane.Merge
open Xcplane.Deploy
open Xcplane.Reconcile
open Xcplane.ReconcileSpec
open Xcplane.RebasePlan
open Xcplane.JoinedRuns
open Xcplane.DaemonCycle
open Xcplane.Provision

variable {δ : Type}

/-- The port on which the server listens for SSH. -/
def listenPort (s : KetServer) : UInt16 :=
  match s.state with
  | .Offgrid => Constants.ansiblePort
  | .Production => s.sshPort

/-- The connection leads to the address and the port of the server. -/
def Reaches (F : Forms) (s : KetServer) : Prop :=
  ∃ conn, s.ansibleConn = some conn ∧ conn.ansibleHost = some (F.ipText s.ip) ∧
    conn.ansiblePort = some (listenPort s)

def CloudReaches (F : Forms) (c : Cloud) : Prop :=
  ∀ s ∈ c.servers, Reaches F s

/-- Every cloud that the daemon holds can be reached. -/
def HeldReaches (F : Forms) (d : Daemon δ) : Prop :=
  ∀ c, d.cloud = some c → CloudReaches F c

/-- The text of the address parses back. -/
def IpParses (F : Forms) (ip : IpAddr) : Prop :=
  F.ipParse (F.ipText ip) = some ip

def IpsParse (F : Forms) (c : Cloud) : Prop :=
  ∀ s ∈ c.servers, IpParses F s.ip

/-- The addresses in the server rows are texts of addresses. -/
def CanonicalIps (F : Forms) (db : Db) : Prop :=
  ∀ n r, db.servers.find n = some r → ∃ ip, r.ip = F.ipText ip ∧ IpParses F ip

section Reaching

variable {F : Forms} {s s' : KetServer}

theorem Reaches.congr (h : Reaches F s) (hconn : s'.ansibleConn = s.ansibleConn)
    (hip : s'.ip = s.ip) (hport : listenPort s' = listenPort s) : Reaches F s' := by
  obtain ⟨conn, hs, hhost, hlisten⟩ := h
  exact ⟨conn, hconn.trans hs, by rw [hip, hhost], by rw [hport, hlisten]⟩

theorem listenPort_of_production (h : s.state = .Production) : listenPort s = s.sshPort := by
  rw [listenPort, h]

theorem listenPort_of_offgrid (h : s.state = .Offgrid) :
    listenPort s = Constants.ansiblePort := by
  rw [listenPort, h]

theorem listenPort_congr (hstate : s'.state = s.state) (hport : s'.sshPort = s.sshPort) :
    listenPort s' = listenPort s := by
  rw [listenPort, hstate, hport]
  rfl

theorem reaches_buildInventory (s : KetServer) : Reaches F (buildInventory F s) := by
  refine ⟨_, rfl, rfl, ?_⟩
  simp only [listenPort, buildInventory]
  cases s.state with
  | Offgrid => rfl
  | Production => rfl

end Reaching

section Parsing

variable {F : Forms} {draws : Nat → SecretDraw} {t : TCloud} {c : Cloud}

theorem reaches_prepareServer (settings : CloudSettings) (draw : SecretDraw) (s : KetServer) :
    Reaches F (prepareServer F settings draw s) := by
  have hbuilt := reaches_buildInventory (F := F) s
  unfold prepareServer
  simp only
  split
  · exact hbuilt.congr rfl rfl rfl
  · exact hbuilt.congr rfl rfl rfl

theorem parseCloudConfig_reaches (h : parseCloudConfig F draws t = .ok c) : CloudReaches F c := by
  intro s hs
  obtain ⟨p, _, draw, rfl⟩ := mem_parseCloudConfig h hs
  exact (reaches_prepareServer t.settings draw p).congr rfl rfl rfl

theorem prepareServer_ip (settings : CloudSettings) (draw : SecretDraw) (s : KetServer) :
    (prepareServer F settings draw s).ip = s.ip := by
  unfold prepareServer
  simp only
  split
  · rfl
  · rfl

theorem parseCloudConfig_ipsParse (h : parseCloudConfig F draws t = .ok c)
    (ht : ∀ s ∈ t.servers, IpParses F s.ip) : IpsParse F c := by
  intro s hs
  obtain ⟨p, hp, draw, rfl⟩ := mem_parseCloudConfig h hs
  show IpParses F (prepareServer F t.settings draw p).ip
  rw [prepareServer_ip]
  exact ht p hp

end Parsing

section Merge

variable {F : Forms} {mode : ReconMode} {o s m : KetServer}

/-- A merge keeps the connection right, but for the port of a server that is about
to be reconfigured. -/
theorem merged_reaches (h : Merged mode o s m)
    (ho : keepsOld mode o s = true ∨ rebases mode o s = true → Reaches F o)
    (hs : Reaches F s) (hport : rebases mode o s = true → o.sshPort = s.sshPort) :
    Reaches F m := by
  cases h with
  | replaced => exact hs
  | kept hkeeps => exact (ho (.inl hkeeps)).congr rfl rfl rfl
  | remapped => exact hs.congr rfl rfl rfl
  | rebased hrebases newConn oldConn hnewConn holdConn =>
      obtain ⟨_, _, hold, hnew⟩ := rebases_iff.mp hrebases
      obtain ⟨conn, hconn, _, hlisten⟩ := ho (.inr hrebases)
      obtain ⟨conn', hconn', hhost, _⟩ := hs
      rw [holdConn, Option.some.injEq] at hconn
      rw [hnewConn, Option.some.injEq] at hconn'
      subst hconn
      subst hconn'
      refine ⟨_, rfl, hhost, ?_⟩
      show oldConn.ansiblePort = some (listenPort _)
      rw [hlisten, listenPort_of_production hold, hport hrebases]
      exact congrArg some (listenPort_of_production hnew).symm

/-- A scheduled server is in production after its merge, with the right host. -/
theorem merged_host (h : Merged .Rebase o s m) (hstate : s.state = .Production)
    (ho : keepsOld .Rebase o s = true ∨ rebases .Rebase o s = true → Reaches F o)
    (hs : Reaches F s) :
    m.state = .Production ∧
      ∃ conn, m.ansibleConn = some conn ∧ conn.ansibleHost = some (F.ipText m.ip) := by
  cases h with
  | replaced hmode => cases hmode
  | kept hkeeps =>
      obtain ⟨conn, hconn, hhost, _⟩ := ho (.inl hkeeps)
      exact ⟨(keepsOld_rebase_iff.mp hkeeps).2.1, conn, hconn, hhost⟩
  | remapped hremaps =>
      rcases remaps_iff.mp hremaps with hmode | ⟨_, hoff⟩
      · cases hmode
      · rw [hstate] at hoff
        cases hoff
  | rebased _ newConn oldConn hnewConn _ =>
      obtain ⟨conn, hconn, hhost, _⟩ := hs
      rw [hnewConn, Option.some.injEq] at hconn
      subst hconn
      exact ⟨hstate, _, rfl, hhost⟩

end Merge

section Reconciliation

variable {env : ReconEnv δ} {old new c : Cloud} {mode : ReconMode}
  {rebaseData : Option (List (String × RebaseDiff.RebaseData))} {ord : MergeOrder old new}
  {dirs : Dirs δ}

/-- The servers whose old connection a reconciliation takes over can be reached. -/
def TakenReach (F : Forms) (mode : ReconMode) (old new : Cloud) : Prop :=
  ∀ n o s, old.collected n = some o → new.collected n = some s →
    keepsOld mode o s = true ∨ rebases mode o s = true → Reaches F o

theorem sshPort_of_plan_nil {F : Forms} {o m : KetServer} {data : Option RebaseDiff.RebaseData}
    (h : planActions F o m data = .ok []) : o.sshPort = m.sshPort := by
  obtain ⟨oldState, newState, _, _, hactions⟩ := planActions_eq_ok_iff.mp h
  have hnil := sortUnique_eq_nil_iff.mp hactions.symm
  by_contra hne
  simp [specActions, hne] at hnil

theorem reconcileCloud_reaches (hnames : new.names.Nodup) (hnew : CloudReaches env.forms new)
    (hold : TakenReach env.forms mode old new)
    (h : (reconcileCloud env old new mode rebaseData ord dirs).result = .ok c) :
    CloudReaches env.forms c := by
  intro x hx
  obtain ⟨m, hentry, hfinal, hconn⟩ := reconcileCloud_conn hnames h hx
  cases hconn with
  | merged hrun hconn =>
      have hm : Reaches env.forms m := by
        cases hentry with
        | added _ _ hs => exact hnew m (Cloud.collected_eq_some hs).1
        | common o s _ ho hs hmerged =>
            refine merged_reaches hmerged (hold _ o s ho hs)
              (hnew s (Cloud.collected_eq_some hs).1) ?_
            intro hrebases
            obtain ⟨rfl, _, _, hstate⟩ := rebases_iff.mp hrebases
            obtain ⟨data, merged, m', _, hmerge, hrefreshed, hplan⟩ :=
              reconcileCloud_plan_of_no_run h ho hs hstate (hrun rfl)
            have hport := sshPort_of_plan_nil hplan
            rw [hrefreshed.same, (rebaseMerge_ok hmerge).sshPort_of_rebases hrebases] at hport
            exact hport
      refine hm.congr hconn hfinal.ip (listenPort_congr hfinal.state_eq hfinal.sshPort)
  | joined conn hmode hrun hmconn hxconn =>
      subst hmode
      obtain ⟨run, hrun, hname⟩ := hrun
      obtain ⟨o, s, ho, hs, hstate⟩ := reconcileCloud_scheduled_of_run h hrun
      rw [hname] at ho hs
      obtain ⟨hmstate, conn', hconn', hhost⟩ := merged_host (hentry.merged ho hs) hstate
        (hold _ o s ho hs) (hnew s (Cloud.collected_eq_some hs).1)
      rw [hmconn, Option.some.injEq] at hconn'
      subst hconn'
      refine ⟨_, hxconn, ?_, ?_⟩
      · rw [hfinal.ip]
        exact hhost
      · rw [listenPort_of_production (hfinal.state_eq.trans hmstate), hfinal.sshPort]
        rfl

theorem reconcileCloud_ipsParse {F : Forms} (hnames : new.names.Nodup) (hnew : IpsParse F new)
    (hold : IpsParse F old)
    (h : (reconcileCloud env old new mode rebaseData ord dirs).result = .ok c) :
    IpsParse F c := by
  intro x hx
  obtain ⟨m, hentry, hfinal⟩ := (reconcileCloud_ok hnames h).servers x hx
  rw [hfinal.ip]
  cases hentry with
  | added _ _ hs => exact hnew m (Cloud.collected_eq_some hs).1
  | common o s _ ho hs hmerged =>
      rw [hmerged.address.2]
      split
      · exact hold o (Cloud.collected_eq_some ho).1
      · exact hnew s (Cloud.collected_eq_some hs).1

end Reconciliation

section Storage

variable {F : Forms} {cloud : Cloud} {db db' : Db}

theorem canonicalIps_empty : CanonicalIps F .empty := by
  intro n r hr
  cases hr

theorem exec_canonicalIps {stmt : Stmt} (hcloud : IpsParse F cloud)
    (hw : Writes F cloud stmt) (hdb : CanonicalIps F db) (h : exec stmt db = .ok db') :
    CanonicalIps F db' := by
  cases hw with
  | setOption =>
      cases h
      exact hdb
  | deleteServers =>
      cases h
      exact fun n r hr => hdb n r (KeyedTable.find_of_find_retain hr).1
  | server s hs =>
      rw [exec_upsertServer h]
      intro n r hr
      rw [KeyedTable.find_upsert] at hr
      split at hr
      · cases hr
        exact ⟨s.ip, rfl, hcloud s hs⟩
      · exact hdb n r hr
  | deleteInbounds =>
      cases h
      exact hdb
  | inbound s hs inb hinb subid hsubid =>
      rw [exec_upsertInbound h]
      exact hdb
  | deleteStats =>
      cases h
      exact hdb
  | stat =>
      rw [exec_insertStat h]
      exact hdb

theorem updateDb_canonicalIps (hcloud : IpsParse F cloud) (fault : Nat → Option BoxError)
    (cloudConfig : Except BoxError String) (hdb : CanonicalIps F db) :
    CanonicalIps F (updateDb F fault cloudConfig cloud db).1 :=
  updateDb_preserves (fun _ _ _ hw hdb h => exec_canonicalIps hcloud hw hdb h) fault cloudConfig
    hdb

theorem storeState_canonicalIps {n : String} {state : ServerState} {xuiToken : Option String}
    (hdb : CanonicalIps F db) : CanonicalIps F (storeState n state xuiToken db) := by
  intro n' r hr
  rw [storeState, KeyedTable.find_modify] at hr
  split at hr
  · obtain ⟨r', hr', rfl⟩ := Option.map_eq_some_iff.mp hr
    exact hdb n' r' hr'
  · exact hdb n' r hr

/-- A server loaded from a row, as far as its connection goes. -/
structure LoadedConn (F : Forms) (r : ServerRow) (s : KetServer) : Prop where
  name : s.name = r.name
  conn : s.ansibleConn = some (loadConn r)
  ip : F.ipParse r.ip = some s.ip
  sshPort : s.sshPort = UInt16.ofInt r.sshPort
  state : ServerState.ofText r.state = some s.state

theorem loadServer_conn {r : ServerRow} {s : KetServer} (h : loadServer F db r = .ok s) :
    LoadedConn F r s := by
  simp only [loadServer, bind_eq_ok_iff, okOr_eq_ok_iff] at h
  obtain ⟨ip, hip, _, _, _, _, state, hstate, _, _, inbounds, hinbounds, h⟩ := h
  cases h
  exact ⟨rfl, rfl, hip, rfl, hstate⟩

theorem loadCloud_conn {c : Cloud} (h : loadCloud F db = .ok c) {s : KetServer}
    (hs : s ∈ c.servers) : ∃ r, db.servers.find s.name = some r ∧ LoadedConn F r s := by
  obtain ⟨r, hr, hload⟩ := mem_loadCloud h hs
  have hconn := loadServer_conn hload
  refine ⟨r, ?_, hconn⟩
  rw [hconn.name]
  exact KeyedTable.mem_rows_iff.mp hr

theorem LoadedConn.ipText_eq {r : ServerRow} {s : KetServer} (h : LoadedConn F r s)
    (hip : ∃ ip, r.ip = F.ipText ip ∧ IpParses F ip) : r.ip = F.ipText s.ip ∧ IpParses F s.ip := by
  obtain ⟨ip, hip, hparses⟩ := hip
  have hparse := h.ip
  rw [hip, hparses, Option.some.injEq] at hparse
  rw [hip, hparse]
  exact ⟨rfl, hparse ▸ hparses⟩

/-- Loading always takes the SSH port, which is right for a server in production. -/
theorem LoadedConn.reaches {r : ServerRow} {s : KetServer} (h : LoadedConn F r s)
    (hip : r.ip = F.ipText s.ip)
    (hport : s.state = .Offgrid → s.sshPort = Constants.ansiblePort) : Reaches F s := by
  refine ⟨_, h.conn, ?_, ?_⟩
  · show some r.ip = _
    rw [hip]
  · show some (UInt16.ofInt r.sshPort) = _
    rw [← h.sshPort]
    cases hstate : s.state with
    | Offgrid => rw [listenPort_of_offgrid hstate, hport hstate]
    | Production => rw [listenPort_of_production hstate]

theorem loadCloud_ipsParse {c : Cloud} (h : loadCloud F db = .ok c) (hdb : CanonicalIps F db) :
    IpsParse F c := by
  intro s hs
  obtain ⟨r, hr, hconn⟩ := loadCloud_conn h hs
  exact (hconn.ipText_eq (hdb s.name r hr)).2

end Storage

section Cycles

variable {F : Forms} {w : Surroundings δ} {d : Daemon δ} {db : Db} {dirs : Dirs δ}

/-- The event has the text forms `F`, which parse the declared addresses back. -/
def HasForms (F : Forms) : Provision.Event δ → Prop
  | .cycle (.start w config) => w.env.forms = F ∧ ∀ s ∈ config.servers, IpParses F s.ip
  | .cycle (.command w config _) => w.env.forms = F ∧ ∀ s ∈ config.servers, IpParses F s.ip
  | _ => True

/-- The server of every unprovisioned row either listens where the load connects
to, or the cycle takes its new declaration. -/
def StartReplaces (w : Surroundings δ) (config : TCloud) (d : Daemon δ) : Prop :=
  ∀ n r, d.db.servers.find n = some r → r.state = ServerState.Offgrid.toText →
    UInt16.ofInt r.sshPort = Constants.ansiblePort ∨
      ∀ new old, parseCloudConfig w.env.forms w.draws config = .ok new →
        loadCloud w.env.forms (createDb d.db) = .ok old →
        (∃ c, (reconcileCloud w.env old new .Reload none (w.order old new) d.dirs).result =
          .ok c) ∧ ∀ s ∈ new.servers, s.name = n → s.state = .Offgrid

def PortsKnown (d : Daemon δ) : Provision.Event δ → Prop
  | .cycle (.start w config) => StartReplaces w config d
  | _ => True

structure Reachable (F : Forms) (d : Daemon δ) : Prop where
  held : HeldReaches F d
  heldIps : ∀ c, d.cloud = some c → IpsParse F c
  ips : CanonicalIps F d.db

theorem reachable_of_none (hdb : CanonicalIps F db) :
    Reachable F ({ cloud := none, db, dirs } : Daemon δ) where
  held := by
    rintro c ⟨⟩
  heldIps := by
    rintro c ⟨⟩
  ips := hdb

theorem reachable_of_some {c : Cloud} (hc : CloudReaches F c) (hips : IpsParse F c)
    (hdb : CanonicalIps F db) : Reachable F ({ cloud := some c, db, dirs } : Daemon δ) where
  held := by
    rintro c' ⟨⟩
    exact hc
  heldIps := by
    rintro c' ⟨⟩
    exact hips
  ips := hdb

/-- A cycle keeps the connections right when those that its merges take over are,
and those it falls back to. -/
theorem daemonCore_reachable {next : DaemonNext} {old : Cloud} (hw : w.env.forms = F)
    (hnames : next.newCloud.names.Nodup) (hnew : CloudReaches F next.newCloud)
    (hnewIps : IpsParse F next.newCloud) (hold : TakenReach F next.mode old next.newCloud)
    (holdIps : IpsParse F old)
    (hfallback : (∃ e, (reconcileCloud w.env old next.newCloud next.mode next.rebaseData
      (w.order old next.newCloud) dirs).result = .error e) → CloudReaches F old)
    (hdb : CanonicalIps F db) : Reachable F (daemonCore w next old db dirs) := by
  subst hw
  have hupdated : ∀ c, (reconcileCloud w.env old next.newCloud next.mode next.rebaseData
      (w.order old next.newCloud) dirs).result = .ok c → IpsParse w.env.forms c ∧
        CanonicalIps w.env.forms (updateDb w.env.forms w.fault w.cloudConfig c db).1 := by
    intro c hresult
    have hips := reconcileCloud_ipsParse hnames hnewIps holdIps hresult
    exact ⟨hips, updateDb_canonicalIps hips w.fault w.cloudConfig hdb⟩
  cases daemonCore_cycled w next old db dirs with
  | failed e herror hd =>
      rw [hd]
      exact reachable_of_some (hfallback ⟨e, herror⟩) holdIps hdb
  | stopped c db' e hresult hupdate hd =>
      obtain ⟨_, hdb'⟩ := hupdated c hresult
      rw [hupdate] at hdb'
      rw [hd]
      exact reachable_of_none hdb'
  | applied c db' hresult hupdate hd =>
      obtain ⟨hips, hdb'⟩ := hupdated c hresult
      rw [hupdate] at hdb'
      rw [hd]
      exact reachable_of_some (reconcileCloud_reaches hnames hnew hold hresult) hips hdb'

theorem startDaemon_reachable {config : TCloud} (hw : w.env.forms = F)
    (hconfig : ∀ s ∈ config.servers, IpParses F s.ip) (hdb : CanonicalIps F d.db)
    (hstart : StartReplaces w config d) : Reachable F (startDaemon w config d) := by
  subst hw
  cases startDaemon_began w config d with
  | unparsed hd =>
      rw [hd]
      exact reachable_of_none hdb
  | unloaded hd =>
      rw [hd]
      exact reachable_of_none hdb
  | cycled new old hparse hload hd =>
      rw [hd]
      -- what a row leaves to show about the server that is loaded from it
      have hloaded : ∀ s ∈ old.servers, (s.state = .Offgrid → s.sshPort ≠ Constants.ansiblePort →
          False) → Reaches w.env.forms s := by
        intro s hs hport
        obtain ⟨r, hr, hconn⟩ := loadCloud_conn hload hs
        refine hconn.reaches (hconn.ipText_eq (hdb s.name r hr)).1 ?_
        intro hstate
        by_contra hne
        exact hport hstate hne
      have hrow : ∀ s ∈ old.servers, s.state = .Offgrid → s.sshPort ≠ Constants.ansiblePort →
          (∃ c, (reconcileCloud w.env old new .Reload none (w.order old new) d.dirs).result =
            .ok c) ∧ ∀ s' ∈ new.servers, s'.name = s.name → s'.state = .Offgrid := by
        intro s hs hstate hne
        obtain ⟨r, hr, hconn⟩ := loadCloud_conn hload hs
        have htext : r.state = ServerState.Offgrid.toText :=
          hstate ▸ ServerState.eq_toText_of_ofText hconn.state
        rcases hstart s.name r hr htext with hport | hreplaces
        · rw [hconn.sshPort] at hne
          exact absurd hport hne
        · exact hreplaces new old hparse hload
      refine daemonCore_reachable rfl (parseCloudConfig_distinct hparse).names
        (parseCloudConfig_reaches hparse) (parseCloudConfig_ipsParse hparse hconfig) ?_
        (loadCloud_ipsParse hload hdb) ?_ hdb
      · intro n o s ho hs hkeeps
        obtain ⟨homem, honame⟩ := Cloud.collected_eq_some ho
        obtain ⟨hsmem, hsname⟩ := Cloud.collected_eq_some hs
        refine hloaded o homem ?_
        intro hstate hne
        have hoff := (hrow o homem hstate hne).2 s hsmem (hsname.trans honame.symm)
        rcases hkeeps with hkeeps | hrebases
        · simp [initState, keepsOld, hstate, hoff] at hkeeps
        · simp [initState, rebases] at hrebases
      · rintro ⟨e, herror⟩ s hs
        refine hloaded s hs ?_
        intro hstate hne
        obtain ⟨⟨c, hc⟩, _⟩ := hrow s hs hstate hne
        cases hc.symm.trans herror

theorem answer_reachable {config : TCloud} {command : DaemonComm} (hw : w.env.forms = F)
    (hconfig : ∀ s ∈ config.servers, IpParses F s.ip) (h : Reachable F d) :
    Reachable F (answer w config command d) := by
  subst hw
  cases answer_commanded w config command d with
  | off _ hd =>
      rw [hd]
      exact h
  | refused curr e _ _ hd =>
      rw [hd]
      exact h
  | accepted curr next hcurr hcheck hd =>
      have hparse := checkAndBackup_parsed hcheck
      rw [hd]
      exact daemonCore_reachable rfl (parseCloudConfig_distinct hparse).names
        (parseCloudConfig_reaches hparse) (parseCloudConfig_ipsParse hparse hconfig)
        (fun n o s ho _ _ => h.held curr hcurr o (Cloud.collected_eq_some ho).1)
        (h.heldIps curr hcurr) (fun _ => h.held curr hcurr) h.ips

end Cycles

section Marking

variable {F : Forms} {d : Daemon δ} {c : Cloud} {s : KetServer}

theorem putServer_reaches (hc : CloudReaches F c) (hs : Reaches F s) :
    CloudReaches F (putServer c s) := by
  intro x hx
  rcases mem_putServer hx with rfl | ⟨hx, _⟩
  · exact hs
  · exact hc x hx

theorem putServer_ipsParse (hc : IpsParse F c) (hs : IpParses F s.ip) :
    IpsParse F (putServer c s) := by
  intro x hx
  rcases mem_putServer hx with rfl | ⟨hx, _⟩
  · exact hs
  · exact hc x hx

/-- A provisioned server is connected to by its own port. -/
theorem produced_reaches {xuiToken : String} (hs : Reaches F s)
    (htoken : s.secrets.xuiToken = none) :
    Reaches F (produced xuiToken s).1 ∧ (produced xuiToken s).1.ip = s.ip := by
  obtain ⟨conn, hconn, hhost, _⟩ := hs
  rw [produced_of_conn htoken hconn]
  exact ⟨⟨_, rfl, hhost, rfl⟩, rfl⟩

theorem retired_reaches (hs : Reaches F s) :
    Reaches F (retired s).1 ∧ (retired s).1.ip = s.ip := by
  obtain ⟨conn, hconn, hhost, _⟩ := hs
  rw [retired_of_conn hconn]
  exact ⟨⟨_, rfl, hhost, rfl⟩, rfl⟩

theorem markServerProduction_reachable {k : Marking δ} {xuiToken : String}
    (h : Reachable F d) (hc : d.cloud = some c) (hs : s ∈ c.servers)
    (htoken : s.secrets.xuiToken = none) :
    Reachable F (markServerProduction k xuiToken c s d) := by
  obtain ⟨hproduced, hip⟩ :
      Reaches F (produced xuiToken s).1 ∧ (produced xuiToken s).1.ip = s.ip :=
    produced_reaches (h.held c hc s hs) htoken
  have hput : CloudReaches F (putServer c (produced xuiToken s).1) :=
    putServer_reaches (h.held c hc) hproduced
  have hips : IpsParse F (putServer c (produced xuiToken s).1) :=
    putServer_ipsParse (h.heldIps c hc) (hip ▸ h.heldIps c hc s hs)
  unfold markServerProduction
  simp only
  split
  · exact reachable_of_some hput hips (storeState_canonicalIps h.ips)
  · exact reachable_of_some hput hips h.ips

theorem markServerOffgrid_reachable {k : Marking δ} (h : Reachable F d) (hc : d.cloud = some c)
    (hs : s ∈ c.servers) : Reachable F (markServerOffgrid k c s d) := by
  obtain ⟨hretired, hip⟩ := retired_reaches (h.held c hc s hs)
  have hput : CloudReaches F (putServer c (retired s).1) :=
    putServer_reaches (h.held c hc) hretired
  have hips : IpsParse F (putServer c (retired s).1) :=
    putServer_ipsParse (h.heldIps c hc) (hip ▸ h.heldIps c hc s hs)
  unfold markServerOffgrid
  simp only
  split
  · split
    · exact reachable_of_some hput hips (storeState_canonicalIps h.ips)
    · exact reachable_of_some hput hips (storeState_canonicalIps h.ips)
  · exact reachable_of_some hput hips h.ips

end Marking

section Runs

variable {F : Forms} {d : Daemon δ}

theorem step_reachable (e : Provision.Event δ) (h : Reachable F d) (hforms : HasForms F e)
    (hports : PortsKnown d e) : Reachable F (Provision.step d e) := by
  cases e with
  | cycle e =>
      cases e with
      | start w config => exact startDaemon_reachable hforms.1 hforms.2 h.ips hports
      | command w config command => exact answer_reachable hforms.1 hforms.2 h
      | stop => exact reachable_of_none h.ips
  | fullSetup k name xuiToken =>
      simp only [Provision.step]
      split
      · exact h
      · rename_i c hc
        split
        · exact h
        · rename_i s hs
          obtain ⟨hmem, _, _, htoken⟩ := expandTarget_ok hs
          exact markServerProduction_reachable h hc hmem htoken
  | destroyServer k name =>
      simp only [Provision.step]
      split
      · exact h
      · rename_i c hc
        split
        · exact h
        · rename_i s hs
          exact markServerOffgrid_reachable h hc (destroyTarget_ok hs).1

/-- From an empty database on, in every cloud that the daemon holds each server is
connected to where it listens, as long as no start loads an unprovisioned server
with another SSH port than the default one and keeps it. -/
theorem run_reaches (dirs : Dirs δ) (events : List (Provision.Event δ))
    (hforms : ∀ e ∈ events, HasForms F e)
    (hports : Along Provision.step PortsKnown { cloud := none, db := .empty, dirs } events) :
    Along Provision.step (fun d e => HeldReaches F (Provision.step d e))
      { cloud := none, db := .empty, dirs } events := by
  have hP : Along Provision.step (fun d e => HasForms F e ∧ PortsKnown d e)
      { cloud := none, db := .empty, dirs } events :=
    along_and (along_of_forall fun e he _ => hforms e he) hports
  have hstep : ∀ (d : Daemon δ) (e : Provision.Event δ), Reachable F d →
      HasForms F e ∧ PortsKnown d e → Reachable F (Provision.step d e) :=
    fun d e h hP => step_reachable e h hP.1 hP.2
  exact along_of_inv hstep (fun d e h hP => (hstep d e h hP).held)
    (reachable_of_none canonicalIps_empty) hP

end Runs

section Instances

open Xcplane.Specimen

def config : TCloud :=
  declared [{ beta with inbounds := [direct] }]

def surroundings (answers : Cloudflare.CfAnswers) : Surroundings (List String) where
  env := { env with cf := answers }
  draws := draws
  order := order
  inboundOrder := inboundOrder
  iteration := iteration
  fault _ := none
  cloudConfig := .ok ""

/-- The API does not answer. -/
def outage : Cloudflare.CfAnswers :=
  { cf with zone := fun _ => .error "error sending request" }

def stopped : Daemon (List String) where
  cloud := none
  db := .empty
  dirs := dirs

def firstStart : Provision.Event (List String) := .cycle (.start (surroundings cf) config)
def startInOutage : Provision.Event (List String) :=
  .cycle (.start (surroundings outage) config)

def provisioned : TCloud :=
  declared [{ beta with state := .Production, inbounds := [direct] }]

theorem config_ipsParse : ∀ s ∈ config.servers, IpParses forms s.ip := by
  unfold IpParses
  decide

theorem provisioned_ipsParse : ∀ s ∈ provisioned.servers, IpParses forms s.ip := by
  unfold IpParses
  decide

def setUp : Provision.Event (List String) :=
  .fullSetup { update := none, cloudConfig := none, removeDirAll := fun _ _ => .ok () } none
    "token"

def startAgain : Provision.Event (List String) :=
  .cycle (.start (surroundings cf) provisioned)

theorem run_reaches_provisioned : Along Provision.step
    (fun d e => HeldReaches forms (Provision.step d e)) stopped
      [firstStart, setUp, .cycle .stop, startAgain] := by
  refine run_reaches dirs _ ?_ ⟨?_, trivial, trivial, ?_, trivial⟩
  · intro e he
    simp only [List.mem_cons, List.not_mem_nil, or_false] at he
    rcases he with rfl | rfl | rfl | rfl
    · exact ⟨rfl, config_ipsParse⟩
    · trivial
    · trivial
    · exact ⟨rfl, provisioned_ipsParse⟩
  · intro n r hr
    cases hr
  · intro n r hr hstate
    have hall : (run Provision.step stopped [firstStart, setUp, .cycle .stop]).db.servers.rows.all
        (fun r => r.state != ServerState.Offgrid.toText) = true := by
      decide +kernel
    have hne := List.all_eq_true.mp hall r (KeyedTable.mem_of_find hr)
    rw [hstate] at hne
    cases hne

/-- A restart that cannot reach the Cloudflare API falls back to what it loaded,
with `beta` not provisioned and connected to by its SSH port. -/
theorem run_outage_misses :
    ∃ c, (run Provision.step stopped [firstStart, .cycle .stop, startInOutage]).cloud = some c ∧
      ¬ CloudReaches forms c := by
  have hsome : (run Provision.step stopped
      [firstStart, .cycle .stop, startInOutage]).cloud.any (fun c =>
        c.servers.any fun s => s.state = .Offgrid &&
          s.ansibleConn.any fun conn => conn.ansiblePort = some 79) = true := by
    decide +kernel
  obtain ⟨c, hc, hany⟩ := (Option.any_eq_true _ _).mp hsome
  refine ⟨c, hc, ?_⟩
  intro hreaches
  obtain ⟨s, hs, hport⟩ := List.any_eq_true.mp hany
  obtain ⟨conn, hconn, _, hlisten⟩ := hreaches s hs
  simp only [Bool.and_eq_true, decide_eq_true_eq, hconn, Option.any_some] at hport
  rw [listenPort_of_offgrid hport.1, hport.2] at hlisten
  cases hlisten

end Instances

end Xcplane.Connections
