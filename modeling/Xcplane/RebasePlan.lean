import Xcplane.ReconcileSpec

/-!
Which remote runs a Rebase starts: the servers it schedules, the specification
each of them has after the merge, and the actions planned for it.
-/

namespace Xcplane.RebasePlan

open Xcplane.Types
open Xcplane.Lib
open Xcplane.Cloudflare
open Xcplane.Merge
open Xcplane.RebaseDiff
open Xcplane.Deploy
open Xcplane.Reconcile
open Xcplane.ReconcileSpec

/-- The servers of both clouds that the new one declares in production, in the
order in which the merge goes through them. -/
def scheduledPairs (old new : Cloud) (names : List String) : List (KetServer × KetServer) :=
  names.filterMap fun n =>
    match old.collected n, new.collected n with
    | some o, some s => if s.state = .Production then some (o, s) else none
    | _, _ => none

theorem mem_scheduledPairs {old new : Cloud} {names : List String} {p : KetServer × KetServer} :
    p ∈ scheduledPairs old new names ↔
      ∃ n ∈ names, old.collected n = some p.1 ∧ new.collected n = some p.2 ∧
        p.2.state = .Production := by
  rw [scheduledPairs, List.mem_filterMap]
  constructor
  · rintro ⟨n, hn, h⟩
    split at h
    · rename_i o s ho hs
      split at h
      · rename_i hstate
        cases h
        exact ⟨n, hn, ho, hs, hstate⟩
      · cases h
    · cases h
  · rintro ⟨n, hn, ho, hs, hstate⟩
    refine ⟨n, hn, ?_⟩
    rw [ho, hs]
    exact if_pos hstate

structure PairMerged (merged : List KetServer) (p q : KetServer × KetServer) : Prop where
  old : q.1 = p.1
  merge : rebaseMerge p.1 p.2 = .ok q.2
  mem : q.2 ∈ merged

theorem mergeRound_pairs {old new : Cloud} {names : List String} {taken : Taken}
    {merged : List KetServer} {pairs : List (KetServer × KetServer)}
    (h : mergeRound .Rebase old new names taken = .ok (merged, pairs)) :
    List.Forall₂ (PairMerged merged) (scheduledPairs old new names) pairs := by
  induction names generalizing taken merged pairs with
  | nil =>
      cases h
      exact .nil
  | cons n rest ih =>
      rw [mergeRound] at h
      have hweaken : ∀ {m : KetServer} {merged' : List KetServer}
          {l l' : List (KetServer × KetServer)}, List.Forall₂ (PairMerged merged') l l' →
            List.Forall₂ (PairMerged (m :: merged')) l l' := by
        intro m merged' l l' hl
        exact hl.imp fun _ _ hp => ⟨hp.old, hp.merge, List.mem_cons_of_mem m hp.mem⟩
      rw [scheduledPairs, List.filterMap_cons, ← scheduledPairs]
      cases hold : old.collected n with
      | none =>
          cases hnew : new.collected n with
          | none =>
              rw [hold, hnew] at h
              cases h
          | some s =>
              simp only [hold, hnew, ensure_bind_eq_ok_iff] at h
              obtain ⟨_, _, h⟩ := h
              obtain ⟨⟨merged', pairs'⟩, hrest, h⟩ := bind_eq_ok_iff.mp h
              cases h
              exact hweaken (ih hrest)
      | some o =>
          cases hnew : new.collected n with
          | none =>
              rw [hold, hnew] at h
              exact ih h
          | some s =>
              simp only [hold, hnew] at h
              obtain ⟨m, hm, h⟩ := bind_eq_ok_iff.mp h
              obtain ⟨⟨merged', pairs'⟩, hrest, h⟩ := bind_eq_ok_iff.mp h
              cases h
              rcases eq_or_ne s.state .Production with hstate | hstate
              · simp only [hstate, and_self, if_true]
                exact .cons ⟨rfl, hm, List.mem_cons_self⟩ (hweaken (ih hrest))
              · simp only [hstate, and_false, if_false]
                exact hweaken (ih hrest)

structure PairReady (cloud : Cloud) (p q : KetServer × KetServer) : Prop where
  old : q.1 = p.1
  merge : ∃ m, rebaseMerge p.1 p.2 = .ok m ∧ Refreshed m q.2
  mem : q.2 ∈ cloud.servers

theorem refreshPairs_ready {merged : List KetServer} {cloud : Cloud}
    {scheduled pairs : List (KetServer × KetServer)}
    (hpairs : List.Forall₂ (PairMerged merged) scheduled pairs)
    (hcloud : List.Forall₂ Refreshed merged cloud.servers) (hnames : cloud.names.Nodup) :
    List.Forall₂ (PairReady cloud) scheduled (refreshPairs cloud pairs) := by
  rw [refreshPairs, List.forall₂_map_right_iff]
  refine hpairs.imp ?_
  rintro p q hpq
  obtain ⟨m', hm', hrefreshed⟩ := exists_right_of_mem hcloud hpq.mem
  have hcollected : cloud.collected q.2.name = some m' := by
    rw [← (final_of_refreshed hrefreshed).name]
    exact Cloud.collected_of_mem hnames hm'
  refine ⟨hpq.old, ⟨q.2, hpq.merge, ?_⟩, ?_⟩
  · rw [hcollected]
    exact hrefreshed
  · rw [hcollected]
    exact hm'

section Merged

theorem rebaseMerge_disabled {o s m : KetServer} (h : rebaseMerge o s = .ok m)
    (hstate : s.state = .Production) (henabled : s.enabled = false) :
    m = { o with enabled := false } := by
  unfold rebaseMerge at h
  rw [henabled, hstate] at h
  cases hold : o.state with
  | Offgrid =>
      rw [hold] at h
      cases h
  | Production =>
      rw [hold] at h
      cases h
      rfl

theorem rebaseMerge_enabled {o s m : KetServer} (h : rebaseMerge o s = .ok m)
    (hstate : s.state = .Production) (henabled : s.enabled = true) :
    ∃ newConn oldConn : AnsibleConn, o.ansibleConn = some oldConn ∧
      m =
        { s with
          secrets := rebasedSecrets o s
          ansibleConn := some { oldConn with ansibleHost := newConn.ansibleHost } } := by
  cases rebaseMerge_ok h with
  | replaced hmode => cases hmode
  | kept hkept => simp [keepsOld, henabled] at hkept
  | remapped hremaps => simp [remaps, hstate] at hremaps
  | rebased _ newConn oldConn _ holdConn => exact ⟨newConn, oldConn, holdConn, rfl⟩

theorem rebaseMerge_old_production {o s m : KetServer} (h : rebaseMerge o s = .ok m)
    (hstate : s.state = .Production) : o.state = .Production := by
  cases hold : o.state with
  | Production => rfl
  | Offgrid =>
      unfold rebaseMerge at h
      rw [hold, hstate] at h
      cases hs : s.enabled with
      | false => simp [hs] at h
      | true => simp [hs] at h

end Merged

section Deployment

variable {F : Forms} {remote : Remote} {rebaseData : List (String × RebaseData)}
  {old new cloud : Cloud} {cf : CfAnswers} {cfList : Option String} {ord : MergeOrder old new}
  {taken : Taken} {merged : List KetServer} {pairs : List (KetServer × KetServer)}

theorem deployRebase_started (cloud : Cloud) :
    (deployRebase F remote rebaseData pairs cloud).started =
      (startRuns F rebaseData pairs).1 := by
  simp only [deployRebase]
  split
  · rfl
  · rfl

theorem merged_names_nodup {mode : ReconMode}
    (hmerge : mergeRound mode old new ord.names taken = .ok (merged, pairs))
    (hcloud : prepareCloudflareState F cf cfList { servers := merged, settings := new.settings } =
      .ok cloud) : cloud.names.Nodup := by
  have hnames : ord.names.filter (· ∈ new.names) = cloud.names := by
    calc
      ord.names.filter (· ∈ new.names) = (ord.names.filter (· ∈ new.names)).map id :=
        (List.map_id _).symm
      _ = merged.map KetServer.name :=
        map_eq_of_forall₂ (mergeRound_ok hmerge) fun n s hs => hs.name.symm
      _ = cloud.names :=
        map_eq_of_forall₂ (prepareCloudflareState_ok hcloud).2
          fun s s' hs => (final_of_refreshed hs).name.symm
  rw [← hnames]
  exact ord.enumerates.nodup.filter _

theorem pairs_ready (hmerge : mergeRound .Rebase old new ord.names taken = .ok (merged, pairs))
    (hcloud : prepareCloudflareState F cf cfList { servers := merged, settings := new.settings } =
      .ok cloud) :
    List.Forall₂ (PairReady cloud) (scheduledPairs old new ord.names)
      (refreshPairs cloud pairs) :=
  refreshPairs_ready (mergeRound_pairs hmerge) (prepareCloudflareState_ok hcloud).2
    (merged_names_nodup hmerge hcloud)

theorem ready_name {p q : KetServer × KetServer} (h : PairReady cloud p q) {n : String}
    (hold : old.collected n = some p.1) (hnew : new.collected n = some p.2) :
    q.2.name = n := by
  obtain ⟨m, hm, hmq⟩ := h.merge
  have ho := (Cloud.collected_eq_some hold).2
  have hs := (Cloud.collected_eq_some hnew).2
  rw [(final_of_refreshed hmq).name, (rebaseMerge_ok hm).name (ho.trans hs.symm), hs]

end Deployment

section Actions

theorem sortUnique_eq_nil_iff {actions : List AnsibleAction} :
    sortUnique actions = [] ↔ actions = [] := by
  rw [sortUnique, List.dedup_eq_nil, ← List.length_eq_zero_iff, List.length_insertionSort,
    List.length_eq_zero_iff]

theorem mem_sortUnique {a : AnsibleAction} {actions : List AnsibleAction} :
    a ∈ sortUnique actions ↔ a ∈ actions := by
  rw [sortUnique, List.mem_dedup]
  exact (List.perm_insertionSort _ _).mem_iff

theorem sortUnique_pairwise (actions : List AnsibleAction) :
    (sortUnique actions).Pairwise fun a b => a.id ≤ b.id ∧ a ≠ b := by
  have htotal : Std.Total fun a b : AnsibleAction => a.id ≤ b.id := ⟨fun a b => le_total a.id b.id⟩
  have htrans : IsTrans AnsibleAction fun a b => a.id ≤ b.id := ⟨fun _ _ _ => le_trans⟩
  have hsorted : (sortUnique actions).Pairwise fun a b => a.id ≤ b.id :=
    (List.pairwise_insertionSort _ actions).sublist (List.dedup_sublist _)
  exact hsorted.and (List.nodup_dedup _)

theorem inboundActions_eq_nil_iff {data : Option RebaseData} :
    inboundActions data = [] ↔
      ∀ d, data = some d → d.addedInbounds = [] ∧ d.removedInbounds = [] := by
  cases data with
  | none => simp [inboundActions]
  | some d =>
      simp only [inboundActions, List.append_eq_nil_iff, Option.some.injEq, forall_eq']
      rw [and_comm]
      apply and_congr
      · cases d.addedInbounds <;> simp
      · cases d.removedInbounds <;> simp

variable {F : Forms} {old new : KetServer} {data : Option RebaseData}

/-- The actions that a Rebase can ask for. -/
def planned : List AnsibleAction :=
  [.PortsCheck, .DnsReset, .CloudflareDel, .Cloudflare, .Acme, .Nginx, .DoH, .OutblockedUpdate,
    .XuiAuth, .DelInbound, .AddInbound, .PanelSettings, .Fail2ban, .Firewall, .SSH]

theorem mem_specActions {a : AnsibleAction} (h : a ∈ specActions F old new) : a ∈ planned := by
  simp only [specActions, List.mem_append, List.mem_ite_nil_right] at h
  rcases h with ((((⟨_, h⟩ | ⟨_, h⟩) | ⟨_, h⟩) | ⟨_, h⟩) | ⟨_, h⟩) | ⟨_, h⟩
  all_goals exact List.subset_def.mp (by decide) h

theorem mem_proxyActions {oldState newState : CFState} {a : AnsibleAction}
    (h : a ∈ proxyActions old new oldState newState) : a ∈ planned := by
  simp only [proxyActions, List.mem_ite_nil_right] at h
  exact List.subset_def.mp (by decide) h.2

/-- The actions on the hostnames of a server, whose old and new ones differ. -/
theorem hostnames_mem_specActions {a : AnsibleAction} (ha : a = .CloudflareDel ∨ a = .Nginx) :
    a ∈ specActions F old new ↔
      F.hostText old.domain ≠ F.hostText new.domain ∨ old.dnsSubdomain ≠ new.dnsSubdomain ∨
        old.uiSubdomain ≠ new.uiSubdomain ∨ old.subSubdomain ≠ new.subSubdomain := by
  rcases ha with rfl | rfl
  all_goals
    simp only [specActions, List.mem_append, List.mem_ite_nil_right, List.mem_cons,
      List.not_mem_nil, reduceCtorEq, or_false, false_or, or_true, and_true, and_false]
    simp only [or_assoc]

theorem mem_outblockActions {a : AnsibleAction} (h : a ∈ outblockActions old new) :
    a = .OutblockedUpdate := by
  unfold outblockActions at h
  split at h
  · cases h
  · exact List.mem_singleton.mp h

theorem mem_inboundActions {a : AnsibleAction} (h : a ∈ inboundActions data) :
    a ∈ [.XuiAuth, .DelInbound] ++ [.PortsCheck, .XuiAuth, AnsibleAction.AddInbound] := by
  cases data with
  | none => cases h
  | some d =>
      simp only [inboundActions, List.mem_append, List.mem_ite_nil_left] at h
      rcases h with ⟨_, h⟩ | ⟨_, h⟩
      · exact List.mem_append_left _ h
      · exact List.mem_append_right _ h

theorem planActions_eq_ok_iff {actions : List AnsibleAction} :
    planActions F old new data = .ok actions ↔
      ∃ oldState newState, old.cfstate = some oldState ∧ new.cfstate = some newState ∧
        actions = sortUnique (specActions F old new ++
          proxyActions old new oldState newState ++ outblockActions old new ++
          inboundActions data) := by
  unfold planActions cfStateOf
  cases old.cfstate with
  | none => simp [bind, Except.bind]
  | some oldState =>
      cases new.cfstate with
      | none => simp [bind, Except.bind]
      | some newState => simp [bind, Except.bind, eq_comm]

theorem mem_planned {actions : List AnsibleAction}
    (hplan : planActions F old new data = .ok actions)
    {a : AnsibleAction} (ha : a ∈ actions) : a ∈ planned := by
  obtain ⟨oldState, newState, _, _, rfl⟩ := planActions_eq_ok_iff.mp hplan
  simp only [mem_sortUnique, List.mem_append] at ha
  rcases ha with ((ha | ha) | ha) | ha
  · exact mem_specActions ha
  · exact mem_proxyActions ha
  · rw [mem_outblockActions ha]
    decide
  · exact List.subset_def.mp (by decide) (mem_inboundActions ha)

theorem planActions_eq_nil_iff {oldState newState : CFState} (hold : old.cfstate = some oldState)
    (hnew : new.cfstate = some newState) :
    planActions F old new data = .ok [] ↔
      specActions F old new = [] ∧ proxyActions old new oldState newState = [] ∧
        outblockActions old new = [] ∧ inboundActions data = [] := by
  rw [planActions_eq_ok_iff]
  constructor
  · rintro ⟨oldState', newState', hold', hnew', hnil⟩
    rw [hold] at hold'
    rw [hnew] at hnew'
    cases hold'
    cases hnew'
    simpa [List.append_eq_nil_iff, and_assoc] using sortUnique_eq_nil_iff.mp hnil.symm
  · rintro ⟨hspec, hproxy, houtblock, hinbounds⟩
    refine ⟨oldState, newState, hold, hnew, ?_⟩
    rw [hspec, hproxy, houtblock, hinbounds]
    rfl

def plannable (q : KetServer × KetServer) : Bool :=
  q.1.cfstate.isSome && q.2.cfstate.isSome

theorem exists_planActions_ok_iff {q : KetServer × KetServer} :
    (∃ actions, planActions F q.1 q.2 data = .ok actions) ↔ plannable q = true := by
  simp only [planActions_eq_ok_iff, plannable, Bool.and_eq_true, Option.isSome_iff_exists]
  constructor
  · rintro ⟨_, oldState, newState, hold, hnew, _⟩
    exact ⟨⟨oldState, hold⟩, ⟨newState, hnew⟩⟩
  · rintro ⟨⟨oldState, hold⟩, ⟨newState, hnew⟩⟩
    exact ⟨_, oldState, newState, hold, hnew, rfl⟩

def RunOf (F : Forms) (rebaseData : List (String × RebaseData)) (q : KetServer × KetServer)
    (run : AnsibleRun) : Prop :=
  planActions F q.1 q.2 (rebaseData.lookup q.1.name) = .ok run.actions ∧ run.actions ≠ [] ∧
    run.server = q.2 ∧ run.rebaseData = rebaseData.lookup q.1.name

/-- The runs that are started are those of the pairs before the first one whose
plan cannot be made. -/
theorem mem_startRuns_iff {rebaseData : List (String × RebaseData)}
    {pairs : List (KetServer × KetServer)} {run : AnsibleRun} :
    run ∈ (startRuns F rebaseData pairs).1 ↔
      ∃ q ∈ pairs.takeWhile plannable, RunOf F rebaseData q run := by
  induction pairs with
  | nil => simp [startRuns]
  | cons q rest ih =>
      obtain ⟨o, m⟩ := q
      rw [startRuns]
      cases hplan : planActions F o m (rebaseData.lookup o.name) with
      | error e =>
          have hnot : plannable (o, m) = false := by
            rw [← Bool.not_eq_true, ← exists_planActions_ok_iff]
            rintro ⟨actions, hactions⟩
            rw [hplan] at hactions
            cases hactions
          simp [hnot]
      | ok actions =>
          have hplannable : plannable (o, m) = true :=
            exists_planActions_ok_iff.mp ⟨actions, hplan⟩
          rw [List.takeWhile_cons_of_pos hplannable]
          simp only [List.mem_cons, or_and_right, exists_or, exists_eq_left, ← ih]
          cases actions with
          | nil =>
              have hnone : ¬ RunOf F rebaseData (o, m) run := by
                rintro ⟨hactions, hne, _⟩
                rw [hplan] at hactions
                exact hne (Except.ok.inj hactions).symm
              simp [hnone]
          | cons a actions =>
              have hrun : RunOf F rebaseData (o, m) run ↔
                  run = ⟨m, a :: actions, rebaseData.lookup o.name⟩ := by
                constructor
                · rintro ⟨hactions, _, hserver, hdata⟩
                  rw [hplan] at hactions
                  cases run
                  cases hactions
                  cases hserver
                  cases hdata
                  rfl
                · rintro rfl
                  exact ⟨hplan, List.cons_ne_nil _ _, rfl, rfl⟩
              rw [hrun]
              simp

theorem startRuns_all_plannable {F : Forms} {data : List (String × RebaseData)}
    {pairs : List (KetServer × KetServer)} (h : ∀ q ∈ pairs, plannable q = true) :
    (startRuns F data pairs).2 = none := by
  induction pairs with
  | nil => rfl
  | cons q rest ih =>
      obtain ⟨o, m⟩ := q
      rw [List.forall_mem_cons] at h
      obtain ⟨actions, hplan⟩ : ∃ actions, planActions F o m (data.lookup o.name) = .ok actions :=
        exists_planActions_ok_iff.mpr h.1
      rw [startRuns, hplan]
      cases actions with
      | nil => exact ih h.2
      | cons a actions => exact ih h.2

theorem startRuns_all {F : Forms} {rebaseData : List (String × RebaseData)}
    {pairs : List (KetServer × KetServer)} (h : (startRuns F rebaseData pairs).2 = none) :
    pairs.takeWhile plannable = pairs := by
  induction pairs with
  | nil => rfl
  | cons q rest ih =>
      obtain ⟨o, m⟩ := q
      rw [startRuns] at h
      cases hplan : planActions F o m (rebaseData.lookup o.name) with
      | error e =>
          rw [hplan] at h
          cases h
      | ok actions =>
          have hplannable : plannable (o, m) = true :=
            exists_planActions_ok_iff.mp ⟨actions, hplan⟩
          rw [hplan] at h
          rw [List.takeWhile_cons_of_pos hplannable]
          cases actions with
          | nil => rw [ih h]
          | cons a actions => rw [ih h]

end Actions

end Xcplane.RebasePlan
