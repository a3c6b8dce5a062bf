import Xcplane.Acceptance

/-!
Cloudflare answering the same question the same way, and what then becomes of a
server whose state is computed again.
-/

namespace Xcplane.CloudflareAnswers

open Xcplane.Types
open Xcplane.Lib
open Xcplane.Cloudflare
open Xcplane.Merge
open Xcplane.Reconcile
open Xcplane.ReconcileSpec
open Xcplane.JoinedRuns

variable {δ : Type}

/-- An answer depends on its request only: a zone is looked up by the domain, a
ruleset by the zone and a rule by its ruleset (an error names the server), and the
block list by the account that the domain of the first server belongs to. -/
structure Regular (cf : CfAnswers) : Prop where
  zone : ∀ s s', s.domain = s'.domain → cf.zone s = cf.zone s'
  ruleset : ∀ s s' zoneId, cf.ruleset s zoneId = cf.ruleset s' zoneId
  rule : ∀ s s' zoneId rulesetId, s.name = s'.name →
    cf.rule s zoneId rulesetId = cf.rule s' zoneId rulesetId
  list : ∀ c c', c.servers.head?.map KetServer.domain = c'.servers.head?.map KetServer.domain →
    cf.list c = cf.list c'

def SameButState (s s' : KetServer) : Prop :=
  s' = { s with cfstate := s'.cfstate }

/-- Both servers are asked about in the same way. -/
structure SameQuestions (s s' : KetServer) : Prop where
  name : s'.name = s.name
  domain : s'.domain = s.domain
  proxied : s'.cloudflareProxied = s.cloudflareProxied
  inbounds : s'.inbounds = s.inbounds

/-- `s'` is `s` with the state that the answers give it. -/
def Stated (F : Forms) (cf : CfAnswers) (cfList : Option String) (s s' : KetServer) : Prop :=
  ∃ st, setCfState F cf cfList s = .ok st ∧ s' = { s with cfstate := some st }

section States

variable {F : Forms} {cf : CfAnswers} {cfList cfList' : Option String} {s s' t : KetServer}

theorem SameButState.symm (h : SameButState s s') : SameButState s' s := by
  unfold SameButState at *
  rw [h]

theorem SameButState.trans (h : SameButState s s') (h' : SameButState s' t) :
    SameButState s t := by
  unfold SameButState at *
  rw [h', h]

theorem SameButState.questions (h : SameButState s s') : SameQuestions s s' := by
  rw [h]
  exact ⟨rfl, rfl, rfl, rfl⟩

theorem sameButConn_questions (h : SameButConn s s') : SameQuestions s s' := by
  rw [h]
  exact ⟨rfl, rfl, rfl, rfl⟩

theorem SameQuestions.trans (h : SameQuestions s s') (h' : SameQuestions s' t) :
    SameQuestions s t :=
  ⟨h'.name.trans h.name, h'.domain.trans h.domain, h'.proxied.trans h.proxied,
    h'.inbounds.trans h.inbounds⟩

theorem Stated.sameButState (h : Stated F cf cfList s s') : SameButState s s' := by
  obtain ⟨st, _, rfl⟩ := h
  rfl

theorem setCfState_congr (hcf : Regular cf) (h : SameQuestions s s') :
    setCfState F cf cfList s = setCfState F cf cfList s' := by
  simp only [setCfState, cfListData, cloudflareOnly, declaredInbounds, h.domain, h.proxied,
    h.inbounds, hcf.zone s s' h.domain.symm, hcf.ruleset s s']
  apply bind_congr
  intro zone
  congr 1
  split
  · apply bind_congr
    intro rulesetId
    rw [hcf.rule s s' _ _ h.name.symm]
  · rfl

/-- A server that is not proxied does not need the block list. -/
theorem setCfState_of_not_proxied (h : s.cloudflareProxied = false) :
    setCfState F cf cfList s = setCfState F cf cfList' s := by
  simp [setCfState, cfListData, h]

/-- The state of a proxied server holds the block list. -/
theorem setCfState_list {st : CFState} (hproxied : s.cloudflareProxied = true)
    (h : setCfState F cf cfList s = .ok st) : cfList = st.listData.map CFListData.listId := by
  obtain ⟨zone, _, h⟩ := bind_eq_ok_iff.mp h
  obtain ⟨data, hdata, h⟩ := bind_eq_ok_iff.mp h
  cases h
  rw [cfListData, if_pos hproxied] at hdata
  obtain ⟨rulesetId, _, hdata⟩ := bind_eq_ok_iff.mp hdata
  obtain ⟨ruleId, _, hdata⟩ := bind_eq_ok_iff.mp hdata
  split at hdata
  · cases hdata
  · cases hdata
    rfl

theorem prepareCloudflareState_stated {cloud c : Cloud}
    (h : prepareCloudflareState F cf cfList cloud = .ok c) :
    List.Forall₂ (Stated F cf (sharedList cf cfList cloud)) cloud.servers c.servers := by
  obtain ⟨servers, hservers, h⟩ := bind_eq_ok_iff.mp h
  cases h
  rw [mapM_eq_ok_iff] at hservers
  refine hservers.imp ?_
  intro s s' hs
  obtain ⟨st, hst, hs'⟩ := bind_eq_ok_iff.mp hs
  cases hs'
  exact ⟨st, hst, rfl⟩

/-- The block list is the same for servers that are asked about in the same way. -/
theorem sharedList_congr (hcf : Regular cf) {c c' : Cloud}
    (h : List.Forall₂ SameQuestions c.servers c'.servers) :
    sharedList cf cfList c = sharedList cf cfList c' := by
  have hdomains : c.servers.map KetServer.domain = c'.servers.map KetServer.domain :=
    map_eq_of_forall₂ h fun s s' hs => hs.domain.symm
  have hproxied : c.servers.map KetServer.cloudflareProxied =
      c'.servers.map KetServer.cloudflareProxied :=
    map_eq_of_forall₂ h fun s s' hs => hs.proxied.symm
  have hany : c.servers.any KetServer.cloudflareProxied =
      c'.servers.any KetServer.cloudflareProxied := by
    have hid := congrArg (fun l => l.any id) hproxied
    simpa [List.any_map] using hid
  have hlist : cf.list c = cf.list c' := by
    apply hcf.list
    rw [← List.head?_map, ← List.head?_map, hdomains]
  rw [sharedList, sharedList, hany, hlist]

end States

section Result

variable {env : ReconEnv δ} {old new c : Cloud} {mode : ReconMode}
  {rebaseData : Option (List (String × RebaseDiff.RebaseData))} {ord : MergeOrder old new}
  {dirs : Dirs δ}

theorem finish_stated {finalCloud : Cloud} {pairs : List (KetServer × KetServer)}
    (h : (finish env mode rebaseData finalCloud pairs dirs).result = .ok c) :
    ∃ cloud, prepareCloudflareState env.forms env.cf env.cfList finalCloud = .ok cloud ∧
      List.Forall₂ SameButConn cloud.servers c.servers := by
  unfold finish at h
  split at h
  · cases h
  · rename_i cloud hcloud
    refine ⟨cloud, hcloud, ?_⟩
    split at h
    · cases h
    · exact (deployRebase_ok h).2
    · cases h
      exact List.forall₂_same.mpr fun s _ => rfl

/-- A reconciliation that ended well leaves every server with the state that Cloudflare
answers for it. -/
theorem reconcileCloud_stated (hcf : Regular env.cf)
    (h : (reconcileCloud env old new mode rebaseData ord dirs).result = .ok c) {x : KetServer}
    (hx : x ∈ c.servers) : ∃ st,
      setCfState env.forms env.cf (sharedList env.cf env.cfList c) x = .ok st ∧
        x.cfstate = some st := by
  obtain ⟨final, cloud, hcloud, hsame⟩ : ∃ final cloud : Cloud,
      prepareCloudflareState env.forms env.cf env.cfList final = .ok cloud ∧
        List.Forall₂ SameButConn cloud.servers c.servers := by
    cases reconcileCloud_proceeded h with
    | first _ hcloud => exact ⟨new, c, hcloud, List.forall₂_same.mpr fun s _ => rfl⟩
    | merged servers pairs dirs' _ _ _ hresult => exact ⟨_, finish_stated hresult⟩
  have hstated := prepareCloudflareState_stated hcloud
  have hquestions : List.Forall₂ SameQuestions final.servers c.servers :=
    forall₂_comp hstated hsame fun _ _ _ hst htu =>
      hst.sameButState.questions.trans (sameButConn_questions htu)
  obtain ⟨m', hm', hmx⟩ := exists_left_of_mem hsame hx
  obtain ⟨m, hm, hmm'⟩ := exists_left_of_mem hstated hm'
  have hmq := hmm'.sameButState.questions.trans (sameButConn_questions hmx)
  obtain ⟨st, hst, hm'eq⟩ := hmm'
  refine ⟨st, ?_, ?_⟩
  · rw [← setCfState_congr hcf hmq, ← sharedList_congr hcf hquestions]
    exact hst
  · have hcfstate : x.cfstate = m'.cfstate := by rw [hmx]
    rw [hcfstate, hm'eq]

end Result

end Xcplane.CloudflareAnswers
