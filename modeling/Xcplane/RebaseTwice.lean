import Xcplane.Deployable
import Xcplane.Reapplied
import Xcplane.RebaseOrder
import Xcplane.RebaseOutcome
import Xcplane.Reparse

/-!
Repeating a Rebase: its result is compared and reconciled with a fresh reading of the
same config file. Nothing is left to do for the servers that a Rebase reconfigures.
-/

namespace Xcplane.RebaseTwice

open Xcplane.Types
open Xcplane.Lib
open Xcplane.Server
open Xcplane.CloudConfig
open Xcplane.Cloudflare
open Xcplane.Merge
open Xcplane.RebaseDiff
open Xcplane.RebaseOrder
open Xcplane.RebaseOutcome
open Xcplane.RebasePlan
open Xcplane.RemoteSide
open Xcplane.Deploy
open Xcplane.Reconcile
open Xcplane.ReconcileSpec
open Xcplane.JoinedRuns
open Xcplane.Deployable
open Xcplane.Acceptance
open Xcplane.CloudflareAnswers
open Xcplane.Reparse
open Xcplane.Reapplied

variable {δ : Type}

/-- Nothing to add, to remove or to delete. -/
def unchanged : RebaseData where
  addedInbounds := []
  removedInbounds := []
  rebaseDomain := { zone := none, dns := none, ui := none, sub := none }

/-- What a Rebase leaves of the declaration `s` of a server that it reconfigures. -/
structure Reconfigured (s x : KetServer) : Prop where
  conn : ∃ conn sconn, x.ansibleConn = some conn ∧ s.ansibleConn = some sconn ∧
    conn.ansibleHost = sconn.ansibleHost
  healthPath : x.secrets.healthPath = s.secrets.healthPath
  subids : ∀ n, (s.secrets.motherSubid n).isSome = true → (x.secrets.motherSubid n).isSome = true

/-- What a Rebase makes of a declaration: it takes it, up to what is set in the
server's lifetime, or keeps the server `o` that was there and is disabled now. -/
inductive Adopted (F : Forms) (opts : RebaseOpts) (s x : KetServer) : Prop
  | declared
      (same : x = { s with
        secrets := x.secrets, ansibleConn := x.ansibleConn, cfstate := x.cfstate })
      (offgrid : s.state = .Offgrid → x.ansibleConn = s.ansibleConn)
      (production : s.state = .Production → s.enabled = true → Reconfigured s x)
  | kept (o : KetServer)
      (same : x = { o with
        enabled := false, ansibleConn := x.ansibleConn, cfstate := x.cfstate })
      (enabled : s.enabled = false) (oldState : o.state = .Production)
      (newState : s.state = .Production) (accepted : ∀ n, ¬ RefusesInbound F opts o s n)
      (conn : firstInbound o ≠ firstInbound s →
        ∃ conn, x.ansibleConn = some (updatedConn x conn))

section Adopted

variable {F : Forms} {opts : RebaseOpts} {s s' x : KetServer}

theorem orInsertAll_of_present {m l : List (String × String)}
    (h : ∀ n, (l.lookup n).isSome = true → (m.lookup n).isSome = true) : orInsertAll m l = m := by
  induction l with
  | nil => rfl
  | cons kv l ih =>
      have hkv : (m.lookup kv.1).isSome = true := h kv.1 (by simp [lookup_cons_ite])
      have hrest : ∀ n, (l.lookup n).isSome = true → (m.lookup n).isSome = true := by
        intro n hn
        apply h
        rw [lookup_cons_ite]
        split
        · rfl
        · exact hn
      rw [orInsertAll, List.foldl_cons, orInsert, if_pos hkv]
      exact ih hrest

theorem rebasedSecrets_again (hx : Reconfigured s x) (hs' : Redrawn s s') :
    rebasedSecrets x s' = x.secrets := by
  have hsubids : orInsertAll x.secrets.motherSubids s'.secrets.motherSubids =
      x.secrets.motherSubids :=
    orInsertAll_of_present fun n hn => hx.subids n ((hs'.subids n).mp hn)
  rw [rebasedSecrets, hsubids, hs'.healthPath, ← hx.healthPath]

/-- The merge with another reading of the declaration keeps what a Rebase made. -/
theorem Adopted.again (h : Adopted F opts s x) (hs' : Redrawn s s') :
    ∃ m, rebaseMerge x s' = .ok m ∧ SameButState x m := by
  cases h with
  | kept o same enabled oldState newState _ _ =>
      have hmerge : rebaseMerge x s' = .ok { x with enabled := false } := by
        rw [rebaseMerge, hs'.same, same]
        simp only [enabled, oldState, newState]
      refine ⟨_, hmerge, ?_⟩
      rw [SameButState, same]
  | declared same offgrid production =>
      have hxstate : x.state = s.state := by rw [same]
      have hstate : s'.state = s.state := by rw [hs'.same]
      have henabled : s'.enabled = s.enabled := by rw [hs'.same]
      cases hs : s.state with
      | Offgrid =>
          refine ⟨remapMerge x s', ?_, ?_⟩
          · rw [rebaseMerge, hxstate, hstate, hs]
            cases s'.enabled with
            | false => rfl
            | true => rfl
          · rw [SameButState, remapMerge, hs'.same, same, offgrid hs]
      | Production =>
          cases hen : s.enabled with
          | false =>
              have hmerge : rebaseMerge x s' = .ok { x with enabled := false } := by
                rw [rebaseMerge, hxstate, hstate, henabled, hs, hen]
              refine ⟨_, hmerge, ?_⟩
              rw [SameButState, same, hen]
          | true =>
              have hx := production hs hen
              obtain ⟨conn, sconn, hconn, hsconn, hhost⟩ := hx.conn
              have hsconn' : s'.ansibleConn = some sconn := by
                rw [hs'.same]
                exact hsconn
              have hmerge : rebaseMerge x s' = .ok
                  { s' with
                    secrets := rebasedSecrets x s'
                    ansibleConn := some { conn with ansibleHost := sconn.ansibleHost } } := by
                rw [rebaseMerge, hxstate, hstate, henabled, hs, hen, hsconn', hconn]
              refine ⟨_, hmerge, ?_⟩
              rw [SameButState, rebasedSecrets_again hx hs', ← hhost, ← hconn, hs'.same, same]

/-- A server whose record has the inbounds and the hostnames of its declaration. -/
structure AsDeclared (s x : KetServer) : Prop where
  inbounds : x.inbounds = s.inbounds
  domain : x.domain = s.domain
  dnsSubdomain : x.dnsSubdomain = s.dnsSubdomain
  uiSubdomain : x.uiSubdomain = s.uiSubdomain
  subSubdomain : x.subSubdomain = s.subSubdomain

/-- A disabled server with the inbounds it had. Where they are not those of its
declaration, a run went over it and stored its connection. -/
structure LeftBehind (F : Forms) (opts : RebaseOpts) (s x : KetServer) : Prop where
  enabled : x.enabled = false
  accepted : ∀ n, ¬ RefusesInbound F opts x s n
  conn : firstInbound x ≠ firstInbound s → ∃ conn, x.ansibleConn = some (updatedConn x conn)

theorem Adopted.compares (h : Adopted F opts s x) (hs' : Redrawn s s') :
    AsDeclared s' x ∨ LeftBehind F opts s' x := by
  cases h with
  | declared same _ _ =>
      left
      rw [same, hs'.same]
      exact ⟨rfl, rfl, rfl, rfl, rfl⟩
  | kept o same _ _ _ accepted conn =>
      right
      have hfirst : firstInbound x = firstInbound o := by
        rw [same]
        rfl
      have hfirst' : firstInbound s' = firstInbound s := by
        rw [hs'.same]
        rfl
      have hsub : subhostname F x = subhostname F o := by
        rw [same]
        rfl
      have hsub' : subhostname F s' = subhostname F s := by
        rw [hs'.same]
        rfl
      refine ⟨by rw [same], fun n => ?_, by rwa [hfirst, hfirst']⟩
      rw [RefusesInbound, hfirst, hfirst', hsub, hsub']
      exact accepted n

theorem AsDeclared.subhostname_eq (h : AsDeclared s x) : subhostname F x = subhostname F s := by
  rw [subhostname, subhostname, h.subSubdomain, h.domain]

theorem AsDeclared.firstInbound_eq (h : AsDeclared s x) : firstInbound x = firstInbound s := by
  funext n
  rw [firstInbound, firstInbound, h.inbounds]

theorem AsDeclared.accepted (h : AsDeclared s x) (n : String) : ¬ RefusesInbound F opts x s n := by
  rw [RefusesInbound, h.firstInbound_eq, h.subhostname_eq]
  cases firstInbound s n with
  | none => exact id
  | some inb => simp

theorem not_refuses (h : AsDeclared s x ∨ LeftBehind F opts s x) (hx : x.cfstate.isSome = true) :
    ¬ Refuses F opts x s := by
  rintro (⟨n, hn⟩ | ⟨_, hnone⟩)
  · rcases h with hdeclared | hleft
    · exact hdeclared.accepted n hn
    · exact hleft.accepted n hn
  · rw [hnone] at hx
    cases hx

theorem compareServer_asDeclared {ord : InboundOrder} (h : AsDeclared s x) {d : RebaseData}
    (hd : compareServer F opts ord x s = .ok d) : d = unchanged := by
  have hsame : applyData d (firstInbound x) = firstInbound x := by
    rw [applyData_compared (compareServer_compared hd), h.firstInbound_eq]
  obtain ⟨hadded, hremoved⟩ := (applyData_eq_self_iff (compareServer_compared hd)).mp hsame
  obtain ⟨⟨added, removed⟩, _, hd⟩ := bind_eq_ok_iff.mp hd
  obtain ⟨domain, hdomain, hd⟩ := bind_eq_ok_iff.mp hd
  cases hd
  have hnone : domain = unchanged.rebaseDomain := by
    simp [rebaseDomain, rebaseZone, h.domain, h.dnsSubdomain, h.uiSubdomain, h.subSubdomain,
      bind_eq_ok_iff] at hdomain
    exact hdomain.symm
  have hadded : added = [] := hadded
  have hremoved : removed = [] := hremoved
  rw [hadded, hremoved, hnone]
  rfl

/-- Only inbounds of a disabled server can still differ. -/
theorem leftBehind_of_inboundActions {ord : InboundOrder} {d : RebaseData}
    (h : AsDeclared s x ∨ LeftBehind F opts s x)
    (hd : compareServer F opts ord x s = .ok d) (hne : inboundActions (some d) ≠ []) :
    x.enabled = false ∧ ∃ conn, x.ansibleConn = some (updatedConn x conn) := by
  rcases h with hdeclared | hleft
  · rw [compareServer_asDeclared hdeclared hd] at hne
    exact absurd rfl hne
  · refine ⟨hleft.enabled, hleft.conn fun hfirst => hne ?_⟩
    rw [inboundActions_eq_nil_iff]
    rintro d' ⟨⟩
    rw [← applyData_eq_self_iff (compareServer_compared hd),
      applyData_compared (compareServer_compared hd), hfirst]

end Adopted

section First

variable {F : Forms} {draws draws' : Nat → SecretDraw} {t : TCloud} {env : ReconEnv δ}
  {opts : RebaseOpts} {inbOrd : InboundOrder} {old new c : Cloud} {iter : Iteration new}
  {data : List (String × RebaseData)} {ord : MergeOrder old new} {dirs : Dirs δ}
  {s x : KetServer}

theorem lookup_compared (hold : old.names.Nodup) (hnew : new.names.Nodup)
    (hdata : createRebaseData env.forms opts inbOrd old new iter = .ok data) {n : String}
    {o : KetServer} (ho : old.collected n = some o) (hs : new.collected n = some s) :
    ∃ d, compareServer env.forms opts inbOrd o s = .ok d ∧ data.lookup n = some d := by
  have hname := (Cloud.collected_eq_some hs).2
  subst hname
  exact createLoop_lookup_common hdata (servers_nodup iter)
    (mem_servers_of_firstOf (firstOf_of_collected hnew hs)) (firstOf_of_collected hold ho) rfl

/-- A server that was added has no run. -/
theorem adopted_of_added (hnew : HasConns new)
    (h : (reconcileCloud env old new .Rebase (some data) ord dirs).result = .ok c)
    (ho : old.collected x.name = none) (hs : new.collected x.name = some s)
    (hfinal : Final s x)
    (hconn : ConnOf .Rebase (reconcileCloud env old new .Rebase (some data) ord dirs).started s x) :
    Adopted env.forms opts s x := by
  have hkept : x.ansibleConn = s.ansibleConn := by
    cases hconn with
    | merged _ hconn => exact hconn
    | joined _ _ hrun =>
        obtain ⟨run, hrun, hname⟩ := hrun
        obtain ⟨o, _, ho', _⟩ := reconcileCloud_scheduled_of_run h hrun
        rw [hname, ho] at ho'
        cases ho'
  refine .declared ?_ (fun _ => hkept) fun _ _ => ?_
  · rw [hfinal.same]
  · obtain ⟨conn, hconn⟩ :=
      Option.isSome_iff_exists.mp (hnew s (Cloud.collected_eq_some hs).1)
    exact ⟨⟨conn, conn, hkept.trans hconn, hconn, rfl⟩, by rw [hfinal.secrets],
      fun n hn => by rwa [hfinal.secrets]⟩

/-- A disabled server keeps what it has, and a run over it stored its connection. -/
theorem adopted_of_kept (hold : old.names.Nodup) (hnew : new.names.Nodup)
    (hdata : createRebaseData env.forms opts inbOrd old new iter = .ok data)
    (h : (reconcileCloud env old new .Rebase (some data) ord dirs).result = .ok c)
    {o : KetServer} (ho : old.collected x.name = some o) (hs : new.collected x.name = some s)
    (hkeeps : keepsOld .Rebase o s = true)
    (hfinal : Final { o with enabled := s.enabled } x)
    (hconn : ConnOf .Rebase (reconcileCloud env old new .Rebase (some data) ord dirs).started
      { o with enabled := s.enabled } x) : Adopted env.forms opts s x := by
  obtain ⟨henabled, holdState, hnewState⟩ := keepsOld_rebase_iff.mp hkeeps
  obtain ⟨d, hd, hlookup⟩ := lookup_compared hold hnew hdata ho hs
  have hrefuses := exists_compareServer_ok_iff.mp ⟨d, hd⟩
  refine .kept o ?_ henabled holdState hnewState (fun n hn => hrefuses (.inl ⟨n, hn⟩)) ?_
  · rw [hfinal.same, henabled]
  · intro hne
    cases hconn with
    | merged hnone _ =>
        -- without a run nothing was planned, so the inbounds are the declared ones
        obtain ⟨data', _, m, hdata', _, _, hplan⟩ :=
          reconcileCloud_plan_of_no_run h ho hs hnewState (hnone rfl)
        cases hdata'
        rw [(Cloud.collected_eq_some ho).2, hlookup] at hplan
        obtain ⟨st, st', hst, hst', _⟩ := planActions_eq_ok_iff.mp hplan
        have hnil := ((planActions_eq_nil_iff hst hst').mp hplan).2.2.2
        have hempty := inboundActions_eq_nil_iff.mp hnil d rfl
        rw [← applyData_eq_self_iff (compareServer_compared hd),
          applyData_compared (compareServer_compared hd)] at hempty
        exact absurd hempty.symm hne
    | joined conn _ _ _ hx =>
        refine ⟨conn, ?_⟩
        rw [hx, updatedConn, updatedConn, hfinal.sshPort]

/-- Every server of a Rebase that ended well adopts its declaration. -/
theorem adopted_of_rebase (hold : old.names.Nodup)
    (hparse : parseCloudConfig F draws t = .ok new)
    (hdata : createRebaseData env.forms opts inbOrd old new iter = .ok data)
    (h : (reconcileCloud env old new .Rebase (some data) ord dirs).result = .ok c)
    (hx : x ∈ c.servers) (hs : new.collected x.name = some s) : Adopted env.forms opts s x := by
  have hnew := (parseCloudConfig_distinct hparse).names
  have hconns := parseCloudConfig_conns hparse
  obtain ⟨m, hentry, hfinal, hconn⟩ := reconcileCloud_conn hnew h hx
  cases hentry with
  | added _ ho hs' =>
      rw [hs, Option.some.injEq] at hs'
      subst hs'
      exact adopted_of_added hconns h ho hs hfinal hconn
  | common o s' _ ho hs' hmerged =>
      rw [hs, Option.some.injEq] at hs'
      subst hs'
      cases hmerged with
      | replaced hmode => cases hmode
      | kept hkeeps => exact adopted_of_kept hold hnew hdata h ho hs hkeeps hfinal hconn
      | remapped hremaps =>
          have hoff : s.state = .Offgrid := by
            rcases remaps_iff.mp hremaps with hmode | ⟨_, hoff⟩
            · cases hmode
            · exact hoff
          refine .declared (by rw [hfinal.same]; rfl) (fun _ => ?_) fun hproduction => ?_
          · cases hconn with
            | merged _ hconn => exact hconn
            | joined _ _ hrun =>
                obtain ⟨run, hrun, hname⟩ := hrun
                obtain ⟨_, s', _, hs', hstate⟩ := reconcileCloud_scheduled_of_run h hrun
                rw [hname, hs, Option.some.injEq] at hs'
                rw [← hs', hoff] at hstate
                cases hstate
          · rw [hoff] at hproduction
            cases hproduction
      | rebased hrebases newConn oldConn hnewConn holdConn =>
          obtain ⟨_, henabled, _, hstate⟩ := rebases_iff.mp hrebases
          refine .declared (by rw [hfinal.same]) (fun hoff => ?_) fun _ _ => ?_
          · rw [hstate] at hoff
            cases hoff
          · refine ⟨?_, by rw [hfinal.secrets]; rfl, fun n hn => ?_⟩
            · cases hconn with
              | merged _ hconn => exact ⟨_, newConn, hconn, hnewConn, rfl⟩
              | joined conn _ _ hm hx =>
                  cases hm
                  exact ⟨_, newConn, hx, hnewConn, rfl⟩
            · rw [hfinal.secrets, rebasedSecrets_motherSubid, Option.isSome_or, hn, Bool.or_true]

/-- What a Rebase returns is settled under another reading of the config file. -/
theorem settled_of_rebase {new' : Cloud} (hold : old.names.Nodup) (hcf : Regular env.cf)
    (hparse : parseCloudConfig F draws t = .ok new)
    (hagain : parseCloudConfig F draws' t = .ok new')
    (hdata : createRebaseData env.forms opts inbOrd old new iter = .ok data)
    (h : (reconcileCloud env old new .Rebase (some data) ord dirs).result = .ok c) :
    Settled .Rebase env new' c := by
  have hrec := reconcileCloud_ok (parseCloudConfig_distinct hparse).names h
  have hnames := parseCloudConfig_redrawn_names hparse hagain
  refine ⟨?_, hrec.names_nodup, fun n => by rw [hnames, hrec.mem_names], ?_,
    fun x hx => reconcileCloud_stated hcf h hx⟩
  · rw [hrec.settings, (parseCloudConfig_redrawn hparse hagain).1]
  · intro x hx s' hs'
    obtain ⟨s, hs, hredrawn⟩ := exists_redrawn hparse hagain hs'
    exact (adopted_of_rebase hold hparse hdata h hx hs).again hredrawn

end First

section Second

variable {F : Forms} {opts : RebaseOpts} {inbOrd : InboundOrder} {new c : Cloud}
  {iter : Iteration new} {data : List (String × RebaseData)} {x : KetServer}

/-- Every server of the cloud has been adopted from what is declared again. -/
structure Ready (F : Forms) (opts : RebaseOpts) (new c : Cloud) : Prop where
  names_nodup : c.names.Nodup
  new_names_nodup : new.names.Nodup
  mem_names : ∀ n, n ∈ c.names ↔ n ∈ new.names
  states : ∀ x ∈ c.servers, x.cfstate.isSome = true
  compares : ∀ x ∈ c.servers, ∀ s, new.collected x.name = some s →
    AsDeclared s x ∨ LeftBehind F opts s x

theorem Ready.declared (h : Ready F opts new c) (hx : x ∈ c.servers) :
    ∃ s, new.collected x.name = some s :=
  Cloud.exists_collected ((h.mem_names x.name).mp (Cloud.mem_names hx))

theorem Ready.accepted (h : Ready F opts new c) :
    ∃ data, createRebaseData F opts inbOrd c new iter = .ok data := by
  refine accepted_of_common (fun n hn => (h.mem_names n).mpr hn) ?_ iter
  rintro ⟨x, s, hx, hs, hrefuses⟩
  obtain ⟨hxmem, hxname⟩ := Cloud.firstOf_eq_some hx
  have hsmem := (Cloud.firstOf_eq_some hs).1
  have hcollected : new.collected x.name = some s := by
    rw [hxname]
    exact Cloud.collected_of_mem h.new_names_nodup hsmem
  exact not_refuses (h.compares x hxmem s hcollected) (h.states x hxmem) hrefuses

theorem Ready.lookup (h : Ready F opts new c)
    (hdata : createRebaseData F opts inbOrd c new iter = .ok data) (hx : x ∈ c.servers) :
    ∃ s d, new.collected x.name = some s ∧ compareServer F opts inbOrd x s = .ok d ∧
      data.lookup x.name = some d := by
  obtain ⟨s, hs⟩ := h.declared hx
  have hname := (Cloud.collected_eq_some hs).2
  have hfirst := firstOf_of_collected h.names_nodup (Cloud.collected_of_mem h.names_nodup hx)
  rw [← hname] at hfirst
  obtain ⟨d, hd, hlookup⟩ := createLoop_lookup_common hdata (servers_nodup iter)
    (mem_servers_of_firstOf (firstOf_of_collected h.new_names_nodup hs)) hfirst rfl
  exact ⟨s, d, hs, hd, hname ▸ hlookup⟩

/-- Nothing is recorded for an enabled server. -/
theorem Ready.noChange (h : Ready F opts new c)
    (hdata : createRebaseData F opts inbOrd c new iter = .ok data) (hx : x ∈ c.servers)
    (henabled : x.enabled = true) : data.lookup x.name = some unchanged := by
  obtain ⟨s, d, hs, hd, hlookup⟩ := h.lookup hdata hx
  rcases h.compares x hx s hs with hdeclared | hleft
  · rw [hlookup, compareServer_asDeclared hdeclared hd]
  · rw [hleft.enabled] at henabled
    cases henabled

theorem planActions_self {st : CFState} (hst : x.cfstate = some st) (d : Option RebaseData) :
    planActions F x x d = .ok (sortUnique (inboundActions d)) := by
  have hspec : specActions F x x = [] := by simp [specActions]
  have hproxy : proxyActions x x st st = [] := by simp [proxyActions]
  have hblock : outblockActions x x = [] := by simp [outblockActions, sameCountries]
  rw [planActions_eq_ok_iff]
  refine ⟨st, st, hst, hst, ?_⟩
  rw [hspec, hproxy, hblock]
  rfl

/-- Only a disabled server has a run, and its connection is already the one that the
run stores. -/
theorem Ready.run (h : Ready F opts new c)
    (hdata : createRebaseData F opts inbOrd c new iter = .ok data) (hx : x ∈ c.servers)
    {run : AnsibleRun} (hrun : RunOf F data (x, x) run) :
    run.server = x ∧ x.enabled = false ∧
      ∃ conn, x.ansibleConn = some (updatedConn x conn) := by
  obtain ⟨hplan, hne, hserver, _⟩ := hrun
  obtain ⟨s, d, hs, hd, hlookup⟩ := h.lookup hdata hx
  obtain ⟨st, hst⟩ := Option.isSome_iff_exists.mp (h.states x hx)
  refine ⟨hserver, leftBehind_of_inboundActions (h.compares x hx s hs) hd fun hnil => hne ?_⟩
  simp only [planActions_self hst, hlookup, hnil, Except.ok.injEq] at hplan
  rw [← hplan]
  rfl

variable {ord : MergeOrder c new} {taken : Taken} {servers : List KetServer}
  {pairs : List (KetServer × KetServer)} {cloud : Cloud}

/-- What is deployed again is each server over itself. -/
theorem Ready.pair (h : Ready F opts new c) {cf : CfAnswers} {cfList : Option String}
    (hmerge : mergeRound .Rebase c new ord.names taken = .ok (servers, pairs))
    (hcloud : prepareCloudflareState F cf cfList { servers, settings := new.settings } = .ok cloud)
    (hperm : cloud.servers.Perm c.servers) {q : KetServer × KetServer}
    (hq : q ∈ refreshPairs cloud pairs) : ∃ x ∈ c.servers, q = (x, x) := by
  obtain ⟨p, hp, hpq⟩ := exists_left_of_mem (pairs_ready hmerge hcloud) hq
  obtain ⟨n, _, ho, hs, _⟩ := mem_scheduledPairs.mp hp
  obtain ⟨hmem, hname⟩ := Cloud.collected_eq_some ho
  have hmem' := hperm.mem_iff.mp hpq.mem
  have hself : q.2 = p.1 :=
    List.inj_on_of_nodup_map h.names_nodup hmem' hmem ((ready_name hpq ho hs).trans hname.symm)
  exact ⟨p.1, hmem, Prod.ext hpq.old hself⟩

theorem joinRun_ok_conn {remote : Remote} {run : AnsibleRun} {conn : AnsibleConn}
    (h : joinRun remote run = .ok conn) :
    ∃ conn', run.server.ansibleConn = some conn' ∧ conn = updatedConn run.server conn' := by
  unfold joinRun at h
  split at h
  · cases h
  · cases h
  · cases h
  · split at h
    · cases h
    · rename_i conn' hconn'
      cases h
      exact ⟨conn', hconn', rfl⟩

/-- The deployment over the same servers ends well and leaves them as they are. -/
theorem Ready.deployed (h : Ready F opts new c)
    (hdata : createRebaseData F opts inbOrd c new iter = .ok data) {remote : Remote}
    (hruns : ∀ run, remote.outcome run = .success) (hperm : cloud.servers.Perm c.servers)
    {qs : List (KetServer × KetServer)} (hqs : ∀ q ∈ qs, ∃ x ∈ c.servers, q = (x, x)) :
    (∀ run ∈ (deployRebase F remote data qs cloud).started, run.server.enabled = false) ∧
      ∃ c', (deployRebase F remote data qs cloud).result = .ok c' ∧
        c'.settings = cloud.settings ∧ c'.servers = cloud.servers := by
  have hplanned : (startRuns F data qs).2 = none := by
    apply startRuns_all_plannable
    intro q hq
    obtain ⟨x, hx, rfl⟩ := hqs q hq
    simp [plannable, h.states x hx]
  have hstarted : ∀ run ∈ (startRuns F data qs).1, run.server ∈ c.servers ∧
      run.server.enabled = false ∧
        ∃ conn, run.server.ansibleConn = some (updatedConn run.server conn) := by
    intro run hrun
    obtain ⟨q, hq, hrunOf⟩ := mem_startRuns_iff.mp hrun
    obtain ⟨x, hx, rfl⟩ := hqs q (List.takeWhile_subset _ hq)
    obtain ⟨hserver, henabled, hconn⟩ := h.run hdata hx hrunOf
    rw [hserver]
    exact ⟨hx, henabled, hconn⟩
  constructor
  · intro run hrun
    rw [deployRebase_started] at hrun
    exact (hstarted run hrun).2.1
  · obtain ⟨c', hc'⟩ : ∃ c', (joinLoop remote (remote.order (startRuns F data qs).1) cloud).2 =
        .ok c' := by
      refine exists_joinLoop_ok (fun run _ => hruns run) fun run hrun => ?_
      obtain ⟨_, _, conn, hconn⟩ := hstarted run ((remote.perm _).mem_iff.mp hrun)
      rw [hconn]
      rfl
    refine ⟨c', ?_, (joinLoop_ok hc').1, ?_⟩
    · simp only [deployRebase, hplanned]
      exact hc'
    · have hjoined := (List.forall₂_and_left cloud.servers c'.servers).mpr
        ⟨fun s (hs : s ∈ cloud.servers) => hs, joinLoop_joined hc'⟩
      have hsame : List.Forall₂ (fun s s' => s = s') cloud.servers c'.servers := by
        refine hjoined.imp ?_
        rintro s s' ⟨hs, hss'⟩
        have hconn : s'.ansibleConn = s.ansibleConn := by
          rcases hss'.conn with ⟨_, hconn⟩ | ⟨run, hrun, hname, conn, hjoin, hconn⟩
          · exact hconn
          · obtain ⟨hx, _, conn₀, hconn₀⟩ := hstarted run ((remote.perm _).mem_iff.mp hrun)
            have hserver : run.server = s :=
              List.inj_on_of_nodup_map h.names_nodup hx (hperm.mem_iff.mp hs) hname
            obtain ⟨conn', hconn', hstored⟩ := joinRun_ok_conn hjoin
            rw [hconn₀, Option.some.injEq] at hconn'
            rw [hconn, hstored, ← hconn', ← hserver, hconn₀]
            rfl
        have hs' : s' = { s with ansibleConn := s'.ansibleConn } := hss'.same
        rw [hs', hconn]
      exact (List.forall₂_eq_eq_eq (α := KetServer) ▸ hsame).symm

end Second

section Twice

/-- A Rebase that is accepted, has nothing to do on the servers that it would
reconfigure, and returns the cloud it was given, in some order of the servers. -/
structure Converged (env : ReconEnv δ) (opts : RebaseOpts) (inbOrd : InboundOrder)
    (c new : Cloud) (iter : Iteration new) (ord : MergeOrder c new) (dirs : Dirs δ)
    (data : List (String × RebaseData)) (c' : Cloud) : Prop where
  accepted : createRebaseData env.forms opts inbOrd c new iter = .ok data
  noChange : ∀ x ∈ c.servers, x.enabled = true → x.state = .Production →
    data.lookup x.name = some unchanged
  noRun : ∀ run ∈ (reconcileCloud env c new .Rebase (some data) ord dirs).started,
    ¬ (run.server.enabled = true ∧ run.server.state = .Production)
  result : (reconcileCloud env c new .Rebase (some data) ord dirs).result = .ok c'
  settings : c'.settings = c.settings
  servers : c'.servers.Perm c.servers

variable {F : Forms} {draws draws' : Nat → SecretDraw} {t : TCloud} {env env' : ReconEnv δ}
  {opts : RebaseOpts} {inbOrd inbOrd' : InboundOrder} {old new new' c c' : Cloud}
  {iter : Iteration new} {iter' : Iteration new'} {data data' : List (String × RebaseData)}
  {ord : MergeOrder old new} {ord' : MergeOrder c new'} {dirs dirs' : Dirs δ}

theorem ready_of_rebase (hold : old.names.Nodup)
    (hparse : parseCloudConfig F draws t = .ok new)
    (hagain : parseCloudConfig F draws' t = .ok new')
    (hdata : createRebaseData env.forms opts inbOrd old new iter = .ok data)
    (h : (reconcileCloud env old new .Rebase (some data) ord dirs).result = .ok c) :
    Ready env.forms opts new' c := by
  have hrec := reconcileCloud_ok (parseCloudConfig_distinct hparse).names h
  have hnames := parseCloudConfig_redrawn_names hparse hagain
  refine ⟨hrec.names_nodup, (parseCloudConfig_distinct hagain).names,
    fun n => by rw [hnames, hrec.mem_names], ?_, ?_⟩
  · intro x hx
    obtain ⟨m, _, hfinal⟩ := hrec.servers x hx
    obtain ⟨st, hst, _⟩ := hfinal.state
    rw [hst]
    rfl
  · intro x hx s' hs'
    obtain ⟨s, hs, hredrawn⟩ := exists_redrawn hparse hagain hs'
    exact (adopted_of_rebase hold hparse hdata h hx hs).compares hredrawn

/-- The same Rebase over no server at all. -/
theorem converged_of_empty (h : Settled .Rebase env new' c) (hempty : c.servers = [])
    (hdata : createRebaseData env'.forms opts inbOrd' c new' iter' = .ok data') :
    Converged env' opts inbOrd' c new' iter' ord' dirs' data' new' := by
  have hnil := h.new_empty hempty
  refine ⟨hdata, ?_, ?_, ?_, h.settings.symm, by rw [hnil, hempty]⟩
  · intro x hx
    rw [hempty] at hx
    cases hx
  · intro run hrun
    rw [reconcileCloud_started_of_isEmpty hempty] at hrun
    cases hrun
  · rw [reconcileCloud, if_pos (List.isEmpty_iff.mpr hempty), prepareCloudflareState, hnil]
    obtain ⟨servers, settings⟩ := new'
    cases hnil
    rfl

theorem converged_of_agrees (hsettled : Settled .Rebase env new' c)
    (hready : Ready env.forms opts new' c) (hnew' : new'.Distinct) (hcf : Regular env.cf)
    (hsame : env'.cf = env.cf) (hforms : env'.forms = env.forms)
    (hruns : ∀ run, env'.remote.outcome run = .success)
    (hlist : ListAgrees env env' c ord'.names) :
    ∃ data' c', Converged env' opts inbOrd' c new' iter' ord' dirs' data' c' := by
  rw [← hforms] at hready
  obtain ⟨data', hdata'⟩ : ∃ data', createRebaseData env'.forms opts inbOrd' c new' iter' =
      .ok data' := hready.accepted
  by_cases hempty : c.servers = []
  · exact ⟨data', new', converged_of_empty hsettled hempty hdata'⟩
  · obtain ⟨⟨servers, pairs⟩, hmerge⟩ :=
      (mergeable_iff ord' hnew').mp fun n => hsettled.mergeable n
    obtain ⟨cloud, hcloud⟩ := exists_prepareCloudflareState_ok_iff.mpr
      (hsettled.answered hcf hsame hforms hmerge hlist)
    have hperm := hsettled.prepared_perm hcf hsame hforms hmerge hlist hcloud
    have hdeletion := (removable_iff ord').mp (hsettled.removable env'.removeDirAll dirs')
    have hdeploys : Deploys env' c new' ord' dirs'
        (deletionRound env'.removeDirAll c new' ord'.names dirs').1 cloud pairs :=
      ⟨by simpa using hempty, Prod.ext rfl hdeletion, servers, hmerge, hcloud⟩
    obtain ⟨hnoRun, c', hresult, hsettings, hservers⟩ := hready.deployed hdata' hruns hperm
      fun q hq => hready.pair hmerge hcloud hperm hq
    refine ⟨data', c', hdata', fun x hx henabled _ => hready.noChange hdata' hx henabled,
      ?_, ?_, ?_, ?_⟩
    · rw [reconcileCloud_deploys hdeploys]
      rintro run hrun ⟨henabled, _⟩
      rw [hnoRun run hrun] at henabled
      cases henabled
    · rw [reconcileCloud_deploys hdeploys]
      exact hresult
    · rw [hsettings, (prepareCloudflareState_ok hcloud).1, hsettled.settings]
    · rw [hservers]
      exact hperm

theorem agrees_of_converged (hsettled : Settled .Rebase env new' c) (hcf : Regular env.cf)
    (hsame : env'.cf = env.cf)
    (h : Converged env' opts inbOrd' c new' iter' ord' dirs' data' c') :
    ListAgrees env env' c ord'.names := by
  cases reconcileCloud_proceeded h.result with
  | first hempty _ =>
      rintro ⟨x, hx, _⟩
      rw [List.isEmpty_iff.mp hempty] at hx
      cases hx
  | merged servers pairs dirs'' _ hmerge _ hresult =>
      obtain ⟨cloud, hcloud, hconns⟩ := finish_stated hresult
      refine hsettled.agrees hcf hsame hmerge hcloud fun x hx => ?_
      obtain ⟨x', hx', hxx'⟩ := exists_left_of_mem hconns (h.servers.mem_iff.mpr hx)
      refine ⟨x', hx', ?_, ?_⟩
      · rw [hxx']
      · rw [hxx']

/-- A Rebase that ended well has converged: the same config is accepted at once, leaves
nothing to do on the enabled servers in production and gives the same cloud, exactly
when the block list of the repetition is that of the first time, if any server is
proxied. -/
theorem reconcileCloud_rebase_twice_iff (hold : old.names.Nodup)
    (hparse : parseCloudConfig F draws t = .ok new)
    (hagain : parseCloudConfig F draws' t = .ok new')
    (hdata : createRebaseData env.forms opts inbOrd old new iter = .ok data)
    (h : (reconcileCloud env old new .Rebase (some data) ord dirs).result = .ok c)
    (hcf : Regular env.cf) (hsame : env'.cf = env.cf) (hforms : env'.forms = env.forms)
    (hruns : ∀ run, env'.remote.outcome run = .success) :
    (∃ data' c', Converged env' opts inbOrd' c new' iter' ord' dirs' data' c') ↔
      ListAgrees env env' c ord'.names := by
  have hsettled := settled_of_rebase hold hcf hparse hagain hdata h
  constructor
  · rintro ⟨data', c', hconverged⟩
    exact agrees_of_converged hsettled hcf hsame hconverged
  · intro hlist
    exact converged_of_agrees hsettled (ready_of_rebase hold hparse hagain hdata h)
      (parseCloudConfig_distinct hagain) hcf hsame hforms hruns hlist

end Twice

section Instances

open Xcplane.Specimen

def laterDraws (_ : Nat) : SecretDraw :=
  { draws 0 with xuiPassword := "password3", subid := fun i => if i = 0 then "id4" else "id5" }

def parsed (draws : Nat → SecretDraw) (servers : List KetServer) : Cloud :=
  (parseCloudConfig forms draws (declared servers)).toOption.getD (cloud [])

def dataOf (curr new : Cloud) : List (String × RebaseData) :=
  (createRebaseData forms { forced := false } inboundOrder curr new
    (iteration new)).toOption.getD []

/-- The Rebase of `alpha` to the declarations, and the cloud it returns. -/
def rebased (cf : CfAnswers) (servers : List KetServer) : ReconOutcome (List String) :=
  reconcileCloud { env with cf } (cloud [alpha]) (parsed draws servers) .Rebase
    (some (dataOf (cloud [alpha]) (parsed draws servers))) (order _ _) dirs

/-- `alpha` gets another panel hostname, port and the proxy, and `beta` is added. -/
def extended : List KetServer :=
  [{ alpha with
      uiSubdomain := "panel", sshPort := 2222, cloudflareProxied := true, inbounds := [direct] },
    { beta with inbounds := [direct] }]

theorem reconcileCloud_rebase_twice_iff_extended :
    ∃ data' c', Converged env { forced := false } inboundOrder (resultOf (rebased cf extended))
      (parsed laterDraws extended) (iteration _) (order _ _) dirs data' c' := by
  have hparse : parseCloudConfig forms draws (declared extended) = .ok (parsed draws extended) :=
    eq_ok_of_isOk (by decide +kernel) _
  have hagain : parseCloudConfig forms laterDraws (declared extended) =
      .ok (parsed laterDraws extended) :=
    eq_ok_of_isOk (by decide +kernel) _
  have hdata : createRebaseData forms { forced := false } inboundOrder (cloud [alpha])
      (parsed draws extended) (iteration _) =
        .ok (dataOf (cloud [alpha]) (parsed draws extended)) :=
    eq_ok_of_isOk (by decide +kernel) _
  have hfirst : (rebased cf extended).result = .ok (resultOf (rebased cf extended)) :=
    eq_ok_of_isOk (by decide +kernel) _
  have hlist : ListAgrees env env (resultOf (rebased cf extended))
      (order (resultOf (rebased cf extended)) (parsed laterDraws extended)).names := by
    intro _
    decide +kernel
  have hnames : (cloud [alpha]).names.Nodup := by decide
  exact (reconcileCloud_rebase_twice_iff hnames hparse hagain hdata hfirst cf_regular rfl rfl
    fun _ => rfl).mpr hlist

/-- The next Rebase goes through the servers the other way round and asks for the block
list of the other account. -/
theorem rebase_twice_apart_refused :
    parseCloudConfig forms draws (declared apart) = .ok (parsed draws apart) ∧
      parseCloudConfig forms laterDraws (declared apart) = .ok (parsed laterDraws apart) ∧
      createRebaseData forms { forced := false } inboundOrder (cloud [alpha])
        (parsed draws apart) (iteration _) = .ok (dataOf (cloud [alpha]) (parsed draws apart)) ∧
      (rebased twoAccounts apart).result = .ok (resultOf (rebased twoAccounts apart)) ∧
      Regular twoAccounts ∧
      (reconcileCloud { env with cf := twoAccounts } (resultOf (rebased twoAccounts apart))
        (parsed laterDraws apart) .Rebase
        (some (dataOf (resultOf (rebased twoAccounts apart)) (parsed laterDraws apart)))
        (backwards _ _) dirs).result =
          .error "cf_list is None while it should contain Some value." := by
  refine ⟨eq_ok_of_isOk (by decide +kernel) _, eq_ok_of_isOk (by decide +kernel) _,
    eq_ok_of_isOk (by decide +kernel) _, eq_ok_of_isOk (by decide +kernel) _,
    twoAccounts_regular, ?_⟩
  decide +kernel

end Instances

end Xcplane.RebaseTwice
