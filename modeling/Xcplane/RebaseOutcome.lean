import Mathlib.Data.List.TakeWhile
import Xcplane.JoinedRuns
import Xcplane.RemoteSide
import Xcplane.Specimen

/-!
Where a Rebase leaves the servers it scheduled: the specification that the last
successful run put on each of them, and the one recorded in the cloud the daemon
goes on with.
-/

namespace Xcplane.RebaseOutcome

open Xcplane.Types
open Xcplane.Lib
open Xcplane.Cloudflare
open Xcplane.Merge
open Xcplane.RebaseDiff
open Xcplane.RebaseOrder
open Xcplane.Deploy
open Xcplane.Reconcile
open Xcplane.ReconcileSpec
open Xcplane.RebasePlan
open Xcplane.RebaseTriggers
open Xcplane.JoinedRuns
open Xcplane.RemoteSide

variable {δ : Type}

/-- The cloud the daemon goes on with. -/
def continued (old : Cloud) : Except BoxError Cloud → Cloud
  | .ok reconCloud => reconCloud
  | .error _ => old

/-- The run ended well: it was joined, or it was over when the set of runs was
dropped. -/
def succeeded (remote : Remote) (overAtDrop : AnsibleRun → Bool) (joined : List AnsibleRun)
    (run : AnsibleRun) : Bool :=
  remote.outcome run = .success && (joined.contains run || overAtDrop run)

/-- What the last successful run put on a server. Without one in this cycle, it is
what the cloud before the cycle records. -/
def lastPut (F : Forms) (started : List AnsibleRun) (succeeded : AnsibleRun → Bool)
    (old : KetServer) : RemoteSpec :=
  match started.find? fun run => run.server.name == old.name && succeeded run with
  | some run => putSpec F (specOf F old) run
  | none => specOf F old

def connPort (s : KetServer) : Option UInt16 :=
  s.ansibleConn.bind AnsibleConn.ansiblePort

def Records (F : Forms) (s : KetServer) (spec : RemoteSpec) : Prop :=
  specOf F s = spec ∧ connPort s = some spec.sshPort

/-- No run is killed because another one failed. -/
def KillFree (remote : Remote) (overAtDrop : AnsibleRun → Bool)
    (started joined : List AnsibleRun) : Prop :=
  ∀ failed ∈ joined, remote.outcome failed ≠ .success →
    ∀ run ∈ started, run ∈ joined ∨ overAtDrop run = true

/-- The outcome of a Rebase as the daemon and the servers see it. -/
@[mk_iff]
structure Recorded (F : Forms) (remote : Remote) (overAtDrop : AnsibleRun → Bool)
    (scheduled : List (KetServer × KetServer)) (old : Cloud) (out : ReconOutcome δ) : Prop where
  spec : ∀ p ∈ scheduled, ∃ s ∈ (continued old out.result).servers, s.name = p.1.name ∧
    Records F s (lastPut F out.started (succeeded remote overAtDrop out.joined) p.1)
  killFree : KillFree remote overAtDrop out.started out.joined

/-- The reconciliation gets as far as its deployment. -/
structure Deploys (env : ReconEnv δ) (old new : Cloud) (ord : MergeOrder old new)
    (dirs dirs' : Dirs δ) (cloud : Cloud) (pairs : List (KetServer × KetServer)) : Prop where
  nonempty : old.servers.isEmpty = false
  deletion : deletionRound env.removeDirAll old new ord.names dirs = (dirs', none)
  merge : ∃ merged,
    mergeRound .Rebase old new ord.names (takenAfterDeletion old new ord.names (takenBy old)) =
        .ok (merged, pairs) ∧
      prepareCloudflareState env.forms env.cf env.cfList
        { servers := merged, settings := new.settings } = .ok cloud

/-- What a Rebase finds when its turn comes: the rebase data made from its two
clouds, and provisioned servers that listen on their recorded port. -/
structure Prepared (env : ReconEnv δ) (opts : RebaseOpts) (inbOrd : InboundOrder)
    (old new : Cloud) (iter : Iteration new) (rebaseData : List (String × RebaseData)) : Prop where
  oldNames : old.names.Nodup
  newNames : new.names.Nodup
  oldForms : ∀ s ∈ old.servers, env.forms.RoundTripsOn s
  newForms : ∀ s ∈ new.servers, env.forms.RoundTripsOn s
  ports : ∀ s ∈ old.servers, s.state = .Production → connPort s = some s.sshPort
  data : createRebaseData env.forms opts inbOrd old new iter = .ok rebaseData

/-- No recorded change of the inbounds concerns a disabled server. -/
def DisabledUnchanged (scheduled : List (KetServer × KetServer))
    (rebaseData : List (String × RebaseData)) : Prop :=
  ∀ p ∈ scheduled, p.2.enabled = false → ∀ d, rebaseData.lookup p.1.name = some d →
    d.addedInbounds = [] ∧ d.removedInbounds = []

/-- Neither the depth alone changes the Cloudflare mode of a server, nor the domain alone the
host of its subscriptions. -/
def Renewed (F : Forms) (pairs : List (KetServer × KetServer)) : Prop :=
  ∀ q ∈ pairs, ¬ DepthFlips q.1 q.2 ∧ ¬ Relocated F q.1 q.2

/-- All runs end well, or none does and all of them are over. A Rebase that stops
before it joins a run needs none of them to have ended well. -/
def AllOrNone (F : Forms) (remote : Remote) (overAtDrop : AnsibleRun → Bool)
    (scheduled pairs : List (KetServer × KetServer)) (rebaseData : List (String × RebaseData)) :
    Prop :=
  let spawned := startRuns F rebaseData pairs
  match spawned.2 with
  | some _ => ∀ run ∈ spawned.1, overAtDrop run = true → remote.outcome run ≠ .success
  | none =>
      ((∀ run ∈ spawned.1, remote.outcome run = .success) ∧
        DisabledUnchanged scheduled rebaseData ∧ Renewed F pairs) ∨
      (spawned.1 ≠ [] ∧ ∀ run ∈ spawned.1, remote.outcome run ≠ .success ∧
        ((remote.order spawned.1).head? = some run ∨ overAtDrop run = true))

section Joining

variable {remote : Remote} {runs : List AnsibleRun} {cloud cloud' : Cloud}

structure Connected (runs : List AnsibleRun) (s s' : KetServer) : Prop where
  same : SameButConn s s'
  port : ∀ port, connPort s = some port ∨ (∃ run ∈ runs, run.server.name = s.name) →
    (∀ run ∈ runs, run.server.name = s.name → run.server.sshPort = port) →
    connPort s' = some port

theorem joinLoop_connected (h : (joinLoop remote runs cloud).2 = .ok cloud') :
    List.Forall₂ (Connected runs) cloud.servers cloud'.servers := by
  refine (joinLoop_joined h).imp ?_
  intro s s' hs
  refine ⟨hs.same, ?_⟩
  intro port hexists hall
  rcases hs.conn with ⟨hnone, hconn⟩ | ⟨run, hrun, hname, conn, hjoin, hconn⟩
  · rcases hexists with hport | ⟨run, hrun, hname⟩
    · rw [connPort, hconn]
      exact hport
    · exact absurd hname (hnone run hrun)
  · rw [connPort, hconn]
    show conn.ansiblePort = some port
    rw [(joinRun_ok hjoin).2, hall run hrun hname]

end Joining

section Targets

/-- What is known about a scheduled pair `p`, the pair `q` that is deployed for it
and the data recorded for it. -/
structure Target (F : Forms) (old cloud : Cloud) (rebaseData : List (String × RebaseData))
    (p q : KetServer × KetServer) (d : RebaseData) : Prop where
  oldSide : q.1 = p.1
  mem_old : p.1 ∈ old.servers
  mem_cloud : q.2 ∈ cloud.servers
  name : q.2.name = p.1.name
  lookup : rebaseData.lookup p.1.name = some d
  compared : Compared p.1 p.2 d
  oldForms : F.RoundTripsOn p.1
  newForms : F.RoundTripsOn q.2
  state : ∃ st, q.2.cfstate = some st
  oldPort : connPort p.1 = some p.1.sshPort
  port : connPort q.2 = some p.1.sshPort
  inbounds : q.2.inbounds = if p.2.enabled then p.2.inbounds else p.1.inbounds

variable {env : ReconEnv δ} {opts : RebaseOpts} {inbOrd : InboundOrder} {old new cloud : Cloud}
  {iter : Iteration new} {rebaseData : List (String × RebaseData)} {ord : MergeOrder old new}
  {dirs dirs' : Dirs δ} {pairs : List (KetServer × KetServer)}

theorem firstOf_of_collected {c : Cloud} (h : c.names.Nodup) {n : String} {s : KetServer}
    (hs : c.collected n = some s) : c.firstOf n = some s := by
  obtain ⟨hmem, hname⟩ := Cloud.collected_eq_some hs
  obtain ⟨t, ht⟩ := Cloud.exists_firstOf (Cloud.mem_names hmem)
  obtain ⟨htmem, htname⟩ := Cloud.firstOf_eq_some ht
  rw [← hname, ht, List.inj_on_of_nodup_map h htmem hmem htname]

theorem exists_compared (h : Prepared env opts inbOrd old new iter rebaseData) {n : String}
    {o s : KetServer} (ho : old.collected n = some o) (hs : new.collected n = some s) :
    ∃ d, rebaseData.lookup n = some d ∧ Compared o s d := by
  have hname := (Cloud.collected_eq_some hs).2
  subst hname
  obtain ⟨d, hd, hlookup⟩ := createLoop_lookup_common h.data (servers_nodup iter)
    (mem_servers_of_firstOf (firstOf_of_collected h.newNames hs))
    (firstOf_of_collected h.oldNames ho) rfl
  exact ⟨d, hlookup, compareServer_compared hd⟩

def takenSide (p : KetServer × KetServer) : KetServer :=
  if p.2.enabled then p.2 else { p.1 with enabled := false }

theorem rebaseMerge_takenSide {p : KetServer × KetServer} {m : KetServer}
    (h : rebaseMerge p.1 p.2 = .ok m) (hstate : p.2.state = .Production) :
    m = { takenSide p with secrets := m.secrets, ansibleConn := m.ansibleConn } ∧
      connPort m = connPort p.1 := by
  unfold takenSide
  cases henabled : p.2.enabled with
  | true =>
      obtain ⟨newConn, oldConn, hconn, rfl⟩ := rebaseMerge_enabled h hstate henabled
      exact ⟨rfl, by simp [connPort, hconn]⟩
  | false =>
      obtain rfl := rebaseMerge_disabled h hstate henabled
      exact ⟨rfl, rfl⟩

theorem exists_target (h : Prepared env opts inbOrd old new iter rebaseData)
    {p q : KetServer × KetServer} (hp : p ∈ scheduledPairs old new ord.names)
    (hpq : PairReady cloud p q) :
    ∃ d, Target env.forms old cloud rebaseData p q d := by
  obtain ⟨n, _, ho, hs, hstate⟩ := mem_scheduledPairs.mp hp
  obtain ⟨homem, honame⟩ := Cloud.collected_eq_some ho
  obtain ⟨hsmem, _⟩ := Cloud.collected_eq_some hs
  obtain ⟨d, hlookup, hcompared⟩ := exists_compared h ho hs
  obtain ⟨m, hm, hmq⟩ := hpq.merge
  obtain ⟨hside, hport⟩ := rebaseMerge_takenSide hm hstate
  have hold : connPort p.1 = some p.1.sshPort :=
    h.ports _ homem (rebaseMerge_old_production hm hstate)
  have hsame := hmq.same
  rw [hside] at hsame
  obtain ⟨st, hst, _⟩ := hmq.state
  have hforms : env.forms.RoundTripsOn (takenSide p) := by
    unfold takenSide
    split
    · exact h.newForms _ hsmem
    · exact (h.oldForms _ homem).congr rfl rfl rfl rfl
  refine ⟨d, ?_⟩
  exact
    { oldSide := hpq.old
      mem_old := homem
      mem_cloud := hpq.mem
      name := (ready_name hpq ho hs).trans honame.symm
      lookup := honame.symm ▸ hlookup
      compared := hcompared
      oldForms := h.oldForms _ homem
      newForms := by rw [hsame]; exact hforms.congr rfl rfl rfl rfl
      state := ⟨st, hst⟩
      oldPort := hold
      port := by rw [hsame]; exact hport.trans hold
      inbounds := by rw [hsame]; unfold takenSide; split <;> rfl }

variable {F : Forms} {p q : KetServer × KetServer} {d : RebaseData}
  {actions : List AnsibleAction}

/-- The merged record is what a planned run puts on the server, unless the server is
disabled and its inbounds change, or the plan misses a part. -/
theorem Target.specOf_eq_put_iff (h : Target F old cloud rebaseData p q d)
    (hplan : planActions F q.1 q.2 (rebaseData.lookup q.1.name) = .ok actions) :
    specOf F q.2 = putSpec F (specOf F p.1) ⟨q.2, actions, some d⟩ ↔
      (p.2.enabled = false → d.addedInbounds = [] ∧ d.removedInbounds = []) ∧
        ¬ DepthFlips q.1 q.2 ∧ ¬ Relocated F q.1 q.2 := by
  have hfirst : firstInbound q.2 =
      if p.2.enabled then firstInbound p.2 else firstInbound p.1 := by
    funext n
    unfold firstInbound
    rw [h.inbounds]
    split
    · rfl
    · rfl
  rw [h.oldSide, h.lookup] at hplan
  rw [specOf_eq_putSpec_iff h.oldForms h.newForms hplan, hfirst, h.oldSide]
  refine and_congr_left' ?_
  cases p.2.enabled with
  | true => simp [applyData_compared h.compared]
  | false => simpa [eq_comm] using applyData_eq_self_iff h.compared

theorem Target.put_ne (h : Target F old cloud rebaseData p q d)
    (hplan : planActions F q.1 q.2 (rebaseData.lookup q.1.name) = .ok actions)
    (hne : actions ≠ []) :
    putSpec F (specOf F p.1) ⟨q.2, actions, some d⟩ ≠ specOf F p.1 := by
  rw [h.oldSide, h.lookup] at hplan
  exact fun hput => hne (eq_nil_of_putSpec h.oldForms h.newForms h.compared hplan hput)

theorem Target.sshPort_of_nil (h : Target F old cloud rebaseData p q d)
    (hplan : planActions F q.1 q.2 (rebaseData.lookup q.1.name) = .ok []) :
    p.1.sshPort = q.2.sshPort := by
  rw [h.oldSide, h.lookup] at hplan
  by_contra hne
  exact absurd ((covered_of_plan h.oldForms h.newForms hplan).sshPort hne) (by decide)

end Targets

section Puts

variable {env : ReconEnv δ} {opts : RebaseOpts} {inbOrd : InboundOrder} {old new cloud : Cloud}
  {iter : Iteration new} {rebaseData : List (String × RebaseData)} {ord : MergeOrder old new}
  {pairs : List (KetServer × KetServer)} {p q : KetServer × KetServer} {d : RebaseData}
  {run : AnsibleRun}

theorem scheduled_inj {names : List String} {p' : KetServer × KetServer}
    (hp : p ∈ scheduledPairs old new names) (hp' : p' ∈ scheduledPairs old new names)
    (hname : p'.1.name = p.1.name) : p' = p := by
  obtain ⟨n, _, ho, hs, _⟩ := mem_scheduledPairs.mp hp
  obtain ⟨n', _, ho', hs', _⟩ := mem_scheduledPairs.mp hp'
  have hn : n' = n := by
    rw [← (Cloud.collected_eq_some ho).2, ← (Cloud.collected_eq_some ho').2, hname]
  subst hn
  rw [ho, Option.some.injEq] at ho'
  rw [hs, Option.some.injEq] at hs'
  exact Prod.ext ho'.symm hs'.symm

/-- A run is the one that is planned for a scheduled pair. -/
structure RunFor (F : Forms) (rebaseData : List (String × RebaseData)) (q : KetServer × KetServer)
    (d : RebaseData) (run : AnsibleRun) : Prop where
  plan : planActions F q.1 q.2 (rebaseData.lookup q.1.name) = .ok run.actions
  ne : run.actions ≠ []
  run : run = ⟨q.2, run.actions, some d⟩

theorem exists_target_of_run (h : Prepared env opts inbOrd old new iter rebaseData)
    (hready : List.Forall₂ (PairReady cloud) (scheduledPairs old new ord.names) pairs)
    (hrun : run ∈ (startRuns env.forms rebaseData pairs).1) :
    ∃ p ∈ scheduledPairs old new ord.names, ∃ q d,
      Target env.forms old cloud rebaseData p q d ∧ RunFor env.forms rebaseData q d run := by
  obtain ⟨q, hq, hactions, hne, hserver, hdata⟩ := mem_startRuns_iff.mp hrun
  obtain ⟨p, hp, hpq⟩ := exists_left_of_mem hready (List.takeWhile_subset _ hq)
  obtain ⟨d, htarget⟩ := exists_target h hp hpq
  refine ⟨p, hp, q, d, htarget, hactions, hne, ?_⟩
  rw [htarget.oldSide, htarget.lookup] at hdata
  rw [← hserver, ← hdata]

theorem run_of_target (h : Prepared env opts inbOrd old new iter rebaseData)
    (hnames : cloud.names.Nodup)
    (hready : List.Forall₂ (PairReady cloud) (scheduledPairs old new ord.names) pairs)
    (hp : p ∈ scheduledPairs old new ord.names)
    (htarget : Target env.forms old cloud rebaseData p q d)
    (hrun : run ∈ (startRuns env.forms rebaseData pairs).1)
    (hname : run.server.name = p.1.name) : RunFor env.forms rebaseData q d run := by
  obtain ⟨p', hp', q', d', htarget', hfor⟩ := exists_target_of_run h hready hrun
  have hserver : run.server = q'.2 := congrArg AnsibleRun.server hfor.run
  have hpp : p' = p := by
    refine scheduled_inj hp hp' ?_
    rw [← htarget'.name, ← hserver, hname]
  subst hpp
  have hqq : q' = q :=
    Prod.ext (htarget'.oldSide.trans htarget.oldSide.symm)
      (List.inj_on_of_nodup_map hnames htarget'.mem_cloud htarget.mem_cloud
        (htarget'.name.trans htarget.name.symm))
  have hdd : d' = d := by
    have hlookup := htarget'.lookup
    rw [htarget.lookup, Option.some.injEq] at hlookup
    exact hlookup.symm
  rwa [hqq, hdd] at hfor

theorem run_conn_isSome (h : Prepared env opts inbOrd old new iter rebaseData)
    (hready : List.Forall₂ (PairReady cloud) (scheduledPairs old new ord.names) pairs)
    (hrun : run ∈ (startRuns env.forms rebaseData pairs).1) :
    run.server.ansibleConn.isSome = true := by
  obtain ⟨p, _, q, d, htarget, hfor⟩ := exists_target_of_run h hready hrun
  have hport := htarget.port
  rw [hfor.run]
  unfold connPort at hport
  cases hconn : q.2.ansibleConn with
  | none => simp [hconn] at hport
  | some conn => rfl

variable {F : Forms} {ended : AnsibleRun → Bool}

theorem lastPut_of_run (h : Prepared env opts inbOrd old new iter rebaseData)
    (hnames : cloud.names.Nodup)
    (hready : List.Forall₂ (PairReady cloud) (scheduledPairs old new ord.names) pairs)
    (hp : p ∈ scheduledPairs old new ord.names)
    (htarget : Target env.forms old cloud rebaseData p q d)
    (hrun : run ∈ (startRuns env.forms rebaseData pairs).1)
    (hname : run.server.name = p.1.name) (hended : ended run = true) :
    lastPut env.forms (startRuns env.forms rebaseData pairs).1 ended p.1 =
      putSpec env.forms (specOf env.forms p.1) run := by
  have hfor := run_of_target h hnames hready hp htarget hrun hname
  unfold lastPut
  split
  · rename_i run' hfind
    have hname' := List.find?_some hfind
    rw [Bool.and_eq_true, beq_iff_eq] at hname'
    have hfor' := run_of_target h hnames hready hp htarget (List.mem_of_find?_eq_some hfind)
      hname'.1
    have hactions : run'.actions = run.actions := Except.ok.inj (hfor'.plan.symm.trans hfor.plan)
    rw [hfor'.run, hfor.run, hactions]
  · rename_i hfind
    rw [List.find?_eq_none] at hfind
    exact absurd (by simp [hname, hended]) (hfind run hrun)

theorem lastPut_of_no_run {started : List AnsibleRun} {o : KetServer}
    (hnone : ∀ run ∈ started, run.server.name = o.name → ended run = false) :
    lastPut F started ended o = specOf F o := by
  unfold lastPut
  split
  · rename_i run' hfind
    have hended := List.find?_some hfind
    rw [Bool.and_eq_true, beq_iff_eq] at hended
    rw [hnone run' (List.mem_of_find?_eq_some hfind) hended.1] at hended
    cases hended.2
  · rfl

theorem recorded_old_iff (ended : AnsibleRun → Bool)
    (h : Prepared env opts inbOrd old new iter rebaseData)
    (hnames : cloud.names.Nodup)
    (hready : List.Forall₂ (PairReady cloud) (scheduledPairs old new ord.names) pairs) :
    (∀ p ∈ scheduledPairs old new ord.names, ∃ s ∈ old.servers, s.name = p.1.name ∧
        Records env.forms s
          (lastPut env.forms (startRuns env.forms rebaseData pairs).1 ended p.1)) ↔
      ∀ run ∈ (startRuns env.forms rebaseData pairs).1, ended run = false := by
  constructor
  · intro hrecorded run hrun
    rw [← Bool.not_eq_true]
    intro hended
    obtain ⟨p, hp, q, d, htarget, hfor⟩ := exists_target_of_run h hready hrun
    have hname : run.server.name = p.1.name := by rw [hfor.run, htarget.name]
    obtain ⟨s, hs, hsname, hspec, _⟩ := hrecorded p hp
    obtain rfl : s = p.1 := List.inj_on_of_nodup_map h.oldNames hs htarget.mem_old hsname
    rw [lastPut_of_run h hnames hready hp htarget hrun hname hended, hfor.run] at hspec
    exact htarget.put_ne hfor.plan hfor.ne hspec.symm
  · intro hended p hp
    obtain ⟨q, _, hpq⟩ := exists_right_of_mem hready hp
    obtain ⟨d, htarget⟩ := exists_target h hp hpq
    refine ⟨p.1, htarget.mem_old, rfl, ?_⟩
    rw [lastPut_of_no_run fun run hrun _ => hended run hrun]
    exact ⟨rfl, htarget.oldPort⟩

/-- Where all runs ended well, what is put is what is planned, also where that is nothing. -/
theorem lastPut_of_joined {runs : List AnsibleRun}
    (h : Prepared env opts inbOrd old new iter rebaseData) (hnames : cloud.names.Nodup)
    (hready : List.Forall₂ (PairReady cloud) (scheduledPairs old new ord.names) pairs)
    (hplanned : pairs.takeWhile plannable = pairs)
    (hruns : runs.Perm (startRuns env.forms rebaseData pairs).1)
    (hended : ∀ run ∈ (startRuns env.forms rebaseData pairs).1, ended run = true)
    (hp : p ∈ scheduledPairs old new ord.names) (hq : q ∈ pairs)
    (htarget : Target env.forms old cloud rebaseData p q d) :
    ∃ actions, planActions env.forms q.1 q.2 (rebaseData.lookup q.1.name) = .ok actions ∧
      lastPut env.forms (startRuns env.forms rebaseData pairs).1 ended p.1 =
        putSpec env.forms (specOf env.forms p.1) ⟨q.2, actions, some d⟩ ∧
      ∀ s', Connected runs q.2 s' → connPort s' = some q.2.sshPort := by
  have hplannable : plannable q = true := by
    rw [← hplanned] at hq
    exact List.mem_takeWhile_imp hq
  obtain ⟨actions, hactions⟩ := exists_planActions_ok_iff.mpr hplannable
  have hport : ∀ run ∈ runs, run.server.name = q.2.name →
      run.server.sshPort = q.2.sshPort := by
    intro run hrun hname
    have hfor := run_of_target h hnames hready hp htarget (hruns.mem_iff.mp hrun)
      (hname.trans htarget.name)
    rw [hfor.run]
  refine ⟨actions, hactions, ?_⟩
  rcases eq_or_ne actions [] with rfl | hne
  · refine ⟨?_, ?_⟩
    · rw [putSpec_of_nil, lastPut_of_no_run]
      intro run hrun hname
      have hfor := run_of_target h hnames hready hp htarget hrun hname
      exact absurd (Except.ok.inj (hfor.plan.symm.trans hactions)) hfor.ne
    · intro s' hs'
      refine hs'.port _ (.inl ?_) hport
      rw [htarget.port, htarget.sshPort_of_nil hactions]
  · have hrun : (⟨q.2, actions, some d⟩ : AnsibleRun) ∈
        (startRuns env.forms rebaseData pairs).1 := by
      rw [mem_startRuns_iff, hplanned]
      refine ⟨q, hq, hactions, hne, rfl, ?_⟩
      rw [htarget.oldSide, htarget.lookup]
    refine ⟨lastPut_of_run h hnames hready hp htarget hrun htarget.name (hended _ hrun), ?_⟩
    intro s' hs'
    exact hs'.port _ (.inr ⟨_, hruns.mem_iff.mpr hrun, rfl⟩) hport

/-- When every run was joined, the merged records are right exactly when no
change of the inbounds was recorded for a disabled server and the plans miss nothing. -/
theorem recorded_merged_iff {cloud' : Cloud} {runs : List AnsibleRun}
    (h : Prepared env opts inbOrd old new iter rebaseData) (hnames : cloud.names.Nodup)
    (hready : List.Forall₂ (PairReady cloud) (scheduledPairs old new ord.names) pairs)
    (hplanned : pairs.takeWhile plannable = pairs)
    (hruns : runs.Perm (startRuns env.forms rebaseData pairs).1)
    (hconnected : List.Forall₂ (Connected runs) cloud.servers cloud'.servers)
    (hended : ∀ run ∈ (startRuns env.forms rebaseData pairs).1, ended run = true) :
    (∀ p ∈ scheduledPairs old new ord.names, ∃ s ∈ cloud'.servers, s.name = p.1.name ∧
        Records env.forms s
          (lastPut env.forms (startRuns env.forms rebaseData pairs).1 ended p.1)) ↔
      DisabledUnchanged (scheduledPairs old new ord.names) rebaseData ∧
        Renewed env.forms pairs := by
  have hnames' : cloud'.names.Nodup := by
    have heq : cloud.names = cloud'.names :=
      map_eq_of_forall₂ hconnected fun s s' hs => by rw [hs.same]
    rwa [← heq]
  have hrecords : ∀ p ∈ scheduledPairs old new ord.names, ∀ q ∈ pairs, PairReady cloud p q →
      ((∃ s ∈ cloud'.servers, s.name = p.1.name ∧ Records env.forms s
          (lastPut env.forms (startRuns env.forms rebaseData pairs).1 ended p.1)) ↔
        (p.2.enabled = false → ∀ d, rebaseData.lookup p.1.name = some d →
          d.addedInbounds = [] ∧ d.removedInbounds = []) ∧
        ¬ DepthFlips q.1 q.2 ∧ ¬ Relocated env.forms q.1 q.2) := by
    intro p hp q hq hpq
    obtain ⟨d, htarget⟩ := exists_target h hp hpq
    obtain ⟨actions, hplan, hlast, hport⟩ :=
      lastPut_of_joined h hnames hready hplanned hruns hended hp hq htarget
    obtain ⟨s', hs', hconn⟩ := exists_right_of_mem hconnected htarget.mem_cloud
    have hname' : s'.name = p.1.name := by
      rw [hconn.same]
      exact htarget.name
    have hspec : specOf env.forms s' = specOf env.forms q.2 := by
      rw [hconn.same]
      rfl
    rw [htarget.lookup]
    simp only [Option.some.injEq, forall_eq']
    rw [← htarget.specOf_eq_put_iff hplan, hlast]
    constructor
    · rintro ⟨s, hs, hsname, hrecords⟩
      obtain rfl : s = s' := List.inj_on_of_nodup_map hnames' hs hs' (hsname.trans hname'.symm)
      rw [← hspec]
      exact hrecords.1
    · intro heq
      exact ⟨s', hs', hname', hspec.trans heq, heq ▸ hport s' hconn⟩
  constructor
  · intro hall
    constructor
    · intro p hp
      obtain ⟨q, hq, hpq⟩ := exists_right_of_mem hready hp
      exact ((hrecords p hp q hq hpq).mp (hall p hp)).1
    · intro q hq
      obtain ⟨p, hp, hpq⟩ := exists_left_of_mem hready hq
      exact ((hrecords p hp q hq hpq).mp (hall p hp)).2
  · rintro ⟨hunchanged, hrenewed⟩ p hp
    obtain ⟨q, hq, hpq⟩ := exists_right_of_mem hready hp
    exact (hrecords p hp q hq hpq).mpr ⟨hunchanged p hp, hrenewed q hq⟩

end Puts

section Outcome

variable {env : ReconEnv δ} {opts : RebaseOpts} {inbOrd : InboundOrder} {old new cloud : Cloud}
  {iter : Iteration new} {rebaseData : List (String × RebaseData)} {ord : MergeOrder old new}
  {dirs dirs' : Dirs δ} {pairs : List (KetServer × KetServer)}

theorem reconcileCloud_deploys (h : Deploys env old new ord dirs dirs' cloud pairs) :
    reconcileCloud env old new .Rebase (some rebaseData) ord dirs =
      let d := deployRebase env.forms env.remote rebaseData (refreshPairs cloud pairs) cloud
      { result := d.result
        dirs := dirs'
        started := d.started
        joined := d.joined } := by
  obtain ⟨merged, hmerge, hcloud⟩ := h.merge
  have hempty : ¬ old.servers.isEmpty = true := by simp [h.nonempty]
  rw [reconcileCloud, if_neg hempty, h.deletion]
  simp only [hmerge, finish, hcloud]

/-- Once the first run to end has failed, or else is missing from the records, only
the failure of all of them is harmless. -/
theorem noneSucceeded_iff {remote : Remote} {overAtDrop : AnsibleRun → Bool}
    {run : AnsibleRun} {rest started : List AnsibleRun}
    (hruns : remote.order started = run :: rest) :
    ((∀ run' ∈ started, succeeded remote overAtDrop
          (joinLoop remote (remote.order started) cloud).1 run' = false) ∧
        KillFree remote overAtDrop started (joinLoop remote (remote.order started) cloud).1) ↔
      started ≠ [] ∧ ∀ run' ∈ started, remote.outcome run' ≠ .success ∧
        ((remote.order started).head? = some run' ∨ overAtDrop run' = true) := by
  have hperm := remote.perm started
  have hmem : run ∈ started := by
    rw [← hperm.mem_iff, hruns]
    exact List.mem_cons_self
  rw [hruns, List.head?_cons]
  constructor
  · rintro ⟨hnone, hkill⟩
    have hrun : remote.outcome run ≠ .success := by
      intro hsuccess
      have hsucceeded := hnone run hmem
      simp [succeeded, hsuccess, mem_joinLoop_head] at hsucceeded
    have hjoined : (joinLoop remote (run :: rest) cloud).1 = [run] := joinLoop_head_failed hrun
    rw [hjoined] at hnone hkill
    refine ⟨List.ne_nil_of_mem hmem, ?_⟩
    intro run' hrun'
    rcases hkill run List.mem_cons_self hrun run' hrun' with hhead | hover
    · obtain rfl := List.mem_singleton.mp hhead
      exact ⟨hrun, .inl rfl⟩
    · refine ⟨?_, .inr hover⟩
      intro hsuccess
      have hsucceeded := hnone run' hrun'
      simp [succeeded, hsuccess, hover] at hsucceeded
  · rintro ⟨_, hall⟩
    have hjoined : (joinLoop remote (run :: rest) cloud).1 = [run] :=
      joinLoop_head_failed (hall run hmem).1
    rw [hjoined]
    refine ⟨?_, ?_⟩
    · intro run' hrun'
      simp [succeeded, (hall run' hrun').1]
    · intro _ _ _ run' hrun'
      refine (hall run' hrun').2.imp ?_ id
      intro hhead
      exact List.mem_singleton.mpr (Option.some.inj hhead).symm

/-- A Rebase that stops before it joins a run kills none. -/
theorem noneSucceeded_nil_iff {remote : Remote} {overAtDrop : AnsibleRun → Bool}
    {started : List AnsibleRun} :
    ((∀ run ∈ started, succeeded remote overAtDrop [] run = false) ∧
        KillFree remote overAtDrop started []) ↔
      ∀ run ∈ started, overAtDrop run = true → remote.outcome run ≠ .success := by
  constructor
  · rintro ⟨hnone, _⟩ run hrun hover hsuccess
    have hsucceeded := hnone run hrun
    simp [succeeded, hsuccess, hover] at hsucceeded
  · intro hnone
    refine ⟨?_, by simp [KillFree]⟩
    intro run hrun
    rw [← Bool.not_eq_true]
    intro hsucceeded
    obtain ⟨hsuccess, hover⟩ : remote.outcome run = .success ∧ overAtDrop run = true := by
      simpa [succeeded] using hsucceeded
    exact hnone run hrun hover hsuccess

theorem recorded_joined_iff {cloud' : Cloud} (overAtDrop : AnsibleRun → Bool)
    (h : Prepared env opts inbOrd old new iter rebaseData) (hnames : cloud.names.Nodup)
    (hready : List.Forall₂ (PairReady cloud) (scheduledPairs old new ord.names) pairs)
    (hplanned : pairs.takeWhile plannable = pairs) {started : List AnsibleRun}
    (hstarted : started = (startRuns env.forms rebaseData pairs).1)
    (hjoin : (joinLoop env.remote (env.remote.order started) cloud).2 = .ok cloud') :
    ((∀ p ∈ scheduledPairs old new ord.names, ∃ s ∈ cloud'.servers, s.name = p.1.name ∧
        Records env.forms s (lastPut env.forms started
          (succeeded env.remote overAtDrop (env.remote.order started)) p.1)) ∧
        KillFree env.remote overAtDrop started (env.remote.order started)) ↔
      DisabledUnchanged (scheduledPairs old new ord.names) rebaseData ∧
        Renewed env.forms pairs := by
  subst hstarted
  have hperm := env.remote.perm (startRuns env.forms rebaseData pairs).1
  obtain ⟨_, hsuccess⟩ := joinLoop_ok_joined hjoin
  have hended : ∀ run ∈ (startRuns env.forms rebaseData pairs).1,
      succeeded env.remote overAtDrop
        (env.remote.order (startRuns env.forms rebaseData pairs).1) run = true := by
    intro run hrun
    have hjoined := hperm.mem_iff.mpr hrun
    simp [succeeded, hsuccess run hjoined, hjoined]
  rw [recorded_merged_iff h hnames hready hplanned hperm (joinLoop_connected hjoin) hended]
  exact and_iff_left fun failed hfailed hne => absurd (hsuccess failed hfailed) hne

theorem not_all_success_of_join_error {e : BoxError}
    (h : Prepared env opts inbOrd old new iter rebaseData)
    (hready : List.Forall₂ (PairReady cloud) (scheduledPairs old new ord.names) pairs)
    (hjoin : (joinLoop env.remote
      (env.remote.order (startRuns env.forms rebaseData pairs).1) cloud).2 = .error e) :
    ¬ ∀ run ∈ (startRuns env.forms rebaseData pairs).1, env.remote.outcome run = .success := by
  intro hall
  have hperm := env.remote.perm (startRuns env.forms rebaseData pairs).1
  obtain ⟨cloud', hok⟩ : ∃ cloud', (joinLoop env.remote
      (env.remote.order (startRuns env.forms rebaseData pairs).1) cloud).2 = .ok cloud' := by
    apply exists_joinLoop_ok
    · exact fun run hrun => hall run (hperm.mem_iff.mp hrun)
    · exact fun run hrun => run_conn_isSome h hready (hperm.mem_iff.mp hrun)
  rw [hjoin] at hok
  cases hok

/-- A Rebase ends with every scheduled server recorded as its last successful run
left it, and kills no run, exactly when all runs end well and miss nothing, or none does. -/
theorem reconcileCloud_recorded_iff (overAtDrop : AnsibleRun → Bool)
    (h : Prepared env opts inbOrd old new iter rebaseData)
    (hdeploys : Deploys env old new ord dirs dirs' cloud pairs) :
    Recorded env.forms env.remote overAtDrop (scheduledPairs old new ord.names) old
        (reconcileCloud env old new .Rebase (some rebaseData) ord dirs) ↔
      AllOrNone env.forms env.remote overAtDrop (scheduledPairs old new ord.names)
        (refreshPairs cloud pairs) rebaseData := by
  obtain ⟨merged, hmerge, hcloud⟩ := hdeploys.merge
  have hready := pairs_ready hmerge hcloud
  have hnames := merged_names_nodup hmerge hcloud
  rw [reconcileCloud_deploys hdeploys]
  unfold AllOrNone
  simp only [deployRebase]
  cases hstop : (startRuns env.forms rebaseData (refreshPairs cloud pairs)).2 with
  | some e =>
      simp only [recorded_iff, continued, recorded_old_iff _ h hnames hready]
      exact noneSucceeded_nil_iff
  | none =>
      have hplanned := startRuns_all hstop
      set started := (startRuns env.forms rebaseData (refreshPairs cloud pairs)).1 with hstarted
      have hperm := env.remote.perm started
      cases hjoin : (joinLoop env.remote (env.remote.order started) cloud).2 with
      | ok cloud' =>
          obtain ⟨hjoined, hsuccess⟩ := joinLoop_ok_joined hjoin
          have hall : ∀ run ∈ started, env.remote.outcome run = .success :=
            fun run hrun => hsuccess run (hperm.mem_iff.mpr hrun)
          simp only [recorded_iff, continued, hjoined]
          rw [recorded_joined_iff overAtDrop h hnames hready hplanned hstarted hjoin]
          constructor
          · intro hunchanged
            exact .inl ⟨hall, hunchanged⟩
          · rintro (⟨_, hunchanged⟩ | ⟨hne, hfail⟩)
            · exact hunchanged
            · obtain ⟨run, hrun⟩ := List.exists_mem_of_ne_nil _ hne
              exact absurd (hall run hrun) (hfail run hrun).1
      | error e =>
          have hnotAll : ¬ ∀ run ∈ started, env.remote.outcome run = .success :=
            not_all_success_of_join_error h hready hjoin
          have hold := recorded_old_iff
            (succeeded env.remote overAtDrop
              (joinLoop env.remote (env.remote.order started) cloud).1) h hnames hready
          rw [← hstarted] at hold
          obtain ⟨run, rest, hruns⟩ : ∃ run rest, env.remote.order started = run :: rest := by
            refine List.exists_cons_of_ne_nil ?_
            intro hnil
            rw [hnil] at hjoin
            cases hjoin
          simp only [recorded_iff, continued]
          rw [hold, noneSucceeded_iff hruns]
          exact (or_iff_right fun ⟨hall, _⟩ => hnotAll hall).symm

end Outcome

section Instances

open Xcplane.Specimen

def gamma : KetServer :=
  { beta with
    name := "gamma"
    state := .Production
    ansibleConn := some (conn "8.8.8.8" 79) }

def twoServers : Cloud :=
  cloud [alpha, gamma]

def movedPorts : Cloud :=
  cloud
    [{ alpha with sshPort := 2222, ansibleConn := some (conn "1.1.1.1" 2222) },
      { gamma with sshPort := 2222, ansibleConn := some (conn "8.8.8.8" 2222) }]

def noChange : RebaseData :=
  ⟨[], [], ⟨none, none, none, none⟩⟩

def movedData : List (String × RebaseData) :=
  [("alpha", noChange), ("gamma", noChange)]

theorem prepared_movedPorts (env' : ReconEnv (List String)) (hforms : env'.forms = forms) :
    Prepared env' ⟨false⟩ inboundOrder twoServers movedPorts (iteration _) movedData where
  oldNames := by decide
  newNames := by decide
  oldForms := by
    rw [hforms]
    simp only [twoServers, cloud, List.forall_mem_cons, List.not_mem_nil, false_implies,
      implies_true, and_true]
    exact ⟨forms_roundTripsOn_alpha, forms_roundTripsOn_beta.congr rfl rfl rfl rfl⟩
  newForms := by
    rw [hforms]
    simp only [movedPorts, cloud, List.forall_mem_cons, List.not_mem_nil, false_implies,
      implies_true, and_true]
    exact ⟨forms_roundTripsOn_alpha.congr rfl rfl rfl rfl,
      forms_roundTripsOn_beta.congr rfl rfl rfl rfl⟩
  ports := by decide
  data := by
    rw [hforms]
    rfl

def movedPairs : List (KetServer × KetServer) :=
  scheduledPairs twoServers movedPorts (order twoServers movedPorts).names

/-- When both runs end well, both servers are recorded with their new port. -/
theorem reconcileCloud_recorded_iff_movedPorts :
    Recorded forms remote (fun _ => false) movedPairs twoServers
      (reconcileCloud env twoServers movedPorts .Rebase (some movedData) (order _ _) dirs) := by
  refine (reconcileCloud_recorded_iff (fun _ => false) (prepared_movedPorts env rfl)
    ⟨rfl, rfl, _, rfl, rfl⟩).mpr ?_
  refine .inl ⟨fun _ _ => rfl, ?_, ?_⟩
  · intro p hp hdisabled
    have henabled : ∀ p ∈ movedPairs, p.2.enabled = true := by decide
    rw [henabled p hp] at hdisabled
    cases hdisabled
  · unfold Renewed
    decide +kernel

def gammaFails : Remote where
  outcome run := if run.server.name = "gamma" then .failure else .success
  order runs := runs
  perm _ := .refl _

def halfMoved : ReconOutcome (List String) :=
  reconcileCloud { env with remote := gammaFails } twoServers movedPorts .Rebase
    (some movedData) (order _ _) dirs

/-- `alpha` listens on its new port and is recorded with the old one. -/
theorem reconcileCloud_half_recorded :
    ¬ Recorded forms gammaFails (fun _ => false) movedPairs twoServers halfMoved := by
  intro h
  have hput : (lastPut forms halfMoved.started
      (succeeded gammaFails (fun _ => false) halfMoved.joined) alpha).sshPort = 2222 := by
    decide +kernel
  obtain ⟨s, hs, _, hspec, _⟩ := h.spec (alpha, _) List.mem_cons_self
  have hold : ∀ s ∈ twoServers.servers, s.sshPort = 79 := by decide
  rw [← hspec] at hput
  exact absurd ((hold s hs).symm.trans hput) (by decide)

end Instances

end Xcplane.RebaseOutcome
