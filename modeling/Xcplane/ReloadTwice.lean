import Xcplane.InboundSet
import Xcplane.Reapplied

/-!
Repeating a Reload: what the first one returned is reconciled with the same new cloud
again.
-/

namespace Xcplane.ReloadTwice

open Xcplane.Types
open Xcplane.Lib
open Xcplane.CloudConfig
open Xcplane.Cloudflare
open Xcplane.Merge
open Xcplane.Reconcile
open Xcplane.ReconcileSpec
open Xcplane.Acceptance
open Xcplane.CloudflareAnswers
open Xcplane.Reapplied
open Xcplane.InboundSet (Covered)

variable {δ : Type}

section Again

variable {old new c : Cloud} {n : String} {m x s : KetServer}

theorem reloadMerge_of_kept {inboundSet : List Inbound} (hcovered : Covered inboundSet x)
    (hstates : ¬ (x.state = .Offgrid ∧ s.state = .Offgrid)) (henabled : x.enabled = s.enabled) :
    reloadMerge inboundSet x s = .ok x := by
  have hkeep : { x with enabled := s.enabled } = x := by rw [← henabled]
  unfold reloadMerge
  split
  · rename_i hx hs
    exact absurd ⟨hx, hs⟩ hstates
  · rw [ensure_bind_eq_ok_iff, hkeep]
    exact ⟨InboundSet.coveredBy_filter_iff.mpr hcovered, rfl⟩

/-- A server that was taken from the new cloud stays as it is. -/
theorem reloadMerge_of_taken {inboundSet : List Inbound} (hcovered : Covered inboundSet s)
    (hx : SameButState s x) : ∃ m', reloadMerge inboundSet x s = .ok m' ∧ SameButState x m' := by
  have hstate : x.state = s.state := by rw [hx]
  by_cases hoff : s.state = .Offgrid
  · refine ⟨s, ?_, hx.symm⟩
    rw [reloadMerge, hstate, hoff]
  · refine ⟨x, reloadMerge_of_kept ?_ (fun h => hoff h.2) (by rw [hx]), rfl⟩
    rw [InboundSet.covered_congr (s := s) (by rw [hx])]
    exact hcovered

/-- The merge of a Reload with the same declaration keeps what the last one gave. -/
theorem reloadMerge_again (hentry : Entry .Reload old new n m)
    (hmerges : ∀ o, old.collected n = some o →
      ∃ m', mergeServer .Reload new.settings.inboundSet o s = .ok m')
    (hcovered : Covered new.settings.inboundSet s) (hs : new.collected n = some s)
    (hx : SameButState m x) :
    ∃ m', mergeServer .Reload new.settings.inboundSet x s = .ok m' ∧ SameButState x m' := by
  cases hentry with
  | added _ _ hnew =>
      rw [hs, Option.some.injEq] at hnew
      rw [hnew] at hcovered ⊢
      exact reloadMerge_of_taken hcovered hx
  | common o s' _ hold hnew hmerged =>
      rw [hs, Option.some.injEq] at hnew
      subst hnew
      cases hmerged with
      | replaced => exact reloadMerge_of_taken hcovered hx
      | kept hkeeps =>
          obtain ⟨m', hm'⟩ := hmerges o hold
          have hstates : ¬ (o.state = .Offgrid ∧ s.state = .Offgrid) := by
            rintro ⟨ho, hs⟩
            simp [keepsOld, ho, hs] at hkeeps
          have hcovered : Covered new.settings.inboundSet o :=
            (InboundSet.reloadMerge_kept_covered hm').resolve_left hstates
          refine ⟨x, reloadMerge_of_kept ?_ ?_ (by rw [hx]), rfl⟩
          · rw [InboundSet.covered_congr (s := o) (by rw [hx])]
            exact hcovered
          · rw [hx]
            exact hstates
      | remapped hremaps => cases hremaps
      | rebased hrebases => cases hrebases

end Again

section Twice

variable {F : Forms} {draws : Nat → Server.SecretDraw} {t : TCloud} {env env' : ReconEnv δ}
  {old new c c' : Cloud} {data data' : Option (List (String × RebaseDiff.RebaseData))}
  {ord : MergeOrder old new} {ord' : MergeOrder c new} {dirs dirs' : Dirs δ}

/-- What a Reload returns is settled under the new cloud. -/
theorem settled_of_reload (hparse : parseCloudConfig F draws t = .ok new)
    (hcf : Regular env.cf)
    (h : (reconcileCloud env old new .Reload data ord dirs).result = .ok c) :
    Settled .Reload env new c := by
  have hnew := (parseCloudConfig_distinct hparse).names
  have hrec := reconcileCloud_ok hnew h
  refine ⟨hrec.settings, hrec.names_nodup, hrec.mem_names, ?_,
    fun x hx => reconcileCloud_stated hcf h hx⟩
  intro x hx s hs
  obtain ⟨m, hentry, hsame⟩ := reconcileCloud_local_entry (by decide) hnew h hx
  refine reloadMerge_again hentry (fun o ho => reconcileCloud_merges h ho hs) ?_ hs hsame
  exact InboundSet.parseCloudConfig_covered hparse s (Cloud.collected_eq_some hs).1

variable (h : Settled .Reload env new c) (hcf : Regular env.cf) (hsame : env'.cf = env.cf)

include h hcf hsame in
theorem exists_reload_again (hnew : new.Distinct) (hforms : env'.forms = env.forms)
    (hlist : ListAgrees env env' c ord'.names) :
    ∃ c', (reconcileCloud env' c new .Reload data' ord' dirs').result = .ok c' := by
  refine (reconcileCloud_local_ok_iff (by decide) hnew).mpr ?_
  by_cases hempty : c.servers = []
  · refine .first hempty ?_
    intro s hs
    rw [h.new_empty hempty] at hs
    cases hs
  · exact .merged hempty (h.removable _ dirs') (fun n => h.mergeable n) fun _ _ hmerge =>
      h.answered hcf hsame hforms hmerge hlist

include h hcf hsame in
/-- Under the same block list the second Reload returns the servers of the first one,
in some order. -/
theorem reload_again_perm (hforms : env'.forms = env.forms)
    (hlist : ListAgrees env env' c ord'.names)
    (hc' : (reconcileCloud env' c new .Reload data' ord' dirs').result = .ok c') :
    c'.servers.Perm c.servers := by
  cases reconcileCloud_proceeded hc' with
  | first hempty hcloud =>
      have hempty := List.isEmpty_iff.mp hempty
      have hnil : c'.servers = [] := by
        have hstated := prepareCloudflareState_stated hcloud
        rw [h.new_empty hempty] at hstated
        exact List.forall₂_nil_left_iff.mp hstated
      rw [hnil, hempty]
  | merged servers pairs dirs'' _ hmerge _ hresult =>
      exact h.prepared_perm hcf hsame hforms hmerge hlist
        (JoinedRuns.finish_local_ok (by decide) hresult)

include h hcf hsame in
theorem agrees_of_perm
    (hc' : (reconcileCloud env' c new .Reload data' ord' dirs').result = .ok c')
    (hperm : c'.servers.Perm c.servers) : ListAgrees env env' c ord'.names := by
  cases reconcileCloud_proceeded hc' with
  | first hempty _ =>
      rintro ⟨x, hx, _⟩
      rw [List.isEmpty_iff.mp hempty] at hx
      cases hx
  | merged servers pairs dirs'' _ hmerge _ hresult =>
      exact h.agrees hcf hsame hmerge (JoinedRuns.finish_local_ok (by decide) hresult)
        fun x hx => ⟨x, hperm.mem_iff.mpr hx, rfl, rfl⟩

/-- A Reload that ended well can be repeated with the same result, in some order of the
servers, exactly when the block list of the repetition is that of the first time, if
any server is proxied. -/
theorem reconcileCloud_reload_twice_iff (hparse : parseCloudConfig F draws t = .ok new)
    (hcf : Regular env.cf) (hsame : env'.cf = env.cf) (hforms : env'.forms = env.forms)
    (h : (reconcileCloud env old new .Reload data ord dirs).result = .ok c) :
    (∃ c', (reconcileCloud env' c new .Reload data' ord' dirs').result = .ok c' ∧
      c'.settings = c.settings ∧ c'.servers.Perm c.servers) ↔
        ListAgrees env env' c ord'.names := by
  have hnew := parseCloudConfig_distinct hparse
  have hsettled := settled_of_reload hparse hcf h
  constructor
  · rintro ⟨c', hc', _, hperm⟩
    exact agrees_of_perm hsettled hcf hsame hc' hperm
  · intro hlist
    obtain ⟨c', hc'⟩ : ∃ c', (reconcileCloud env' c new .Reload data' ord' dirs').result = .ok c' :=
      exists_reload_again hsettled hcf hsame hnew hforms hlist
    refine ⟨c', hc', ?_, reload_again_perm hsettled hcf hsame hforms hlist hc'⟩
    rw [(reconcileCloud_ok hnew.names hc').settings, hsettled.settings]

end Twice

section Instances

open Xcplane.Specimen

def parsed (servers : List KetServer) : Cloud :=
  (parseCloudConfig forms draws (declared servers)).toOption.getD (cloud [])

def proxying : List KetServer :=
  [{ alpha with cloudflareProxied := true, inbounds := [direct] },
    { beta with inbounds := [direct] }]

def proxyingReloaded : ReconOutcome (List String) :=
  reconcileCloud env (cloud []) (parsed proxying) .Reload none (order _ _) dirs

theorem reconcileCloud_reload_twice_iff_proxying :
    ∃ c', (reconcileCloud env (resultOf proxyingReloaded) (parsed proxying) .Reload none
        (order _ _) dirs).result = .ok c' ∧ c'.settings = (resultOf proxyingReloaded).settings ∧
      c'.servers.Perm (resultOf proxyingReloaded).servers := by
  have hparse : parseCloudConfig forms draws (declared proxying) = .ok (parsed proxying) :=
    eq_ok_of_isOk (by decide +kernel) _
  have hfirst : proxyingReloaded.result = .ok (resultOf proxyingReloaded) :=
    eq_ok_of_isOk (by decide +kernel) _
  have hlist : ListAgrees env env (resultOf proxyingReloaded)
      (order (resultOf proxyingReloaded) (parsed proxying)).names := by
    intro _
    decide +kernel
  exact (reconcileCloud_reload_twice_iff hparse cf_regular rfl rfl hfirst).mpr hlist

def apartReloaded : ReconOutcome (List String) :=
  reconcileCloud { env with cf := twoAccounts } (cloud []) (parsed apart) .Reload none
    (order _ _) dirs

/-- Going through the servers the other way round, the second Reload asks for the block
list of the other account. -/
theorem reload_twice_apart_refused :
    parseCloudConfig forms draws (declared apart) = .ok (parsed apart) ∧
      Regular twoAccounts ∧ apartReloaded.result = .ok (resultOf apartReloaded) ∧
      (reconcileCloud { env with cf := twoAccounts } (resultOf apartReloaded) (parsed apart)
        .Reload none (backwards _ _) dirs).result =
          .error "cf_list is None while it should contain Some value." := by
  refine ⟨eq_ok_of_isOk (by decide +kernel) _, twoAccounts_regular,
    eq_ok_of_isOk (by decide +kernel) _, ?_⟩
  decide +kernel

end Instances

end Xcplane.ReloadTwice
