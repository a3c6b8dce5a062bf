import Mathlib.Data.List.TakeWhile
import Xcplane.RebasePlan
import Xcplane.Specimen

/-!
Which servers a Rebase touches. A disabled server in production keeps its old
specification, but its added and removed inbounds were recorded before the merge
and are still acted on; one that is declared off the grid is remapped.
-/

namespace Xcplane.DisabledRebase

open Xcplane.Types
open Xcplane.Lib
open Xcplane.Cloudflare
open Xcplane.Merge
open Xcplane.RebaseDiff
open Xcplane.Deploy
open Xcplane.Reconcile
open Xcplane.ReconcileSpec
open Xcplane.RebasePlan

def Eligible (old new : Cloud) (n : String) : Prop :=
  ∃ o s, old.collected n = some o ∧ new.collected n = some s ∧ s.enabled = true ∧
    o.state = .Production ∧ s.state = .Production

/-- A disabled server keeps its old specification, but for the flag. -/
def Retained (cloud : Cloud) (o : KetServer) : Prop :=
  ∃ m ∈ cloud.servers, m = { o with enabled := false, cfstate := m.cfstate }

/-- The new declaration is the old one with the server disabled. -/
def Redeclared (o s : KetServer) : Prop :=
  s = { o with enabled := false, secrets := s.secrets, cfstate := s.cfstate }

/-- No inbound of the server was recorded as added or removed, and its recorded
Cloudflare state is the one of its declaration. -/
def Quiet (rebaseData : List (String × RebaseData)) (o : KetServer) : Prop :=
  (∀ d, rebaseData.lookup o.name = some d → d.addedInbounds = [] ∧ d.removedInbounds = []) ∧
    ∀ st, o.cfstate = some st → st.cloudflareOnly = cloudflareOnly o

section Merged

theorem cloudflareOnly_disabled (o : KetServer) :
    cloudflareOnly { o with enabled := false } = cloudflareOnly o := rfl

theorem planActions_disabled {F : Forms} {rebaseData : List (String × RebaseData)}
    {o m : KetServer} {st : CFState} (hold : o.cfstate = some st)
    (hm : Refreshed { o with enabled := false } m) :
    planActions F o m (rebaseData.lookup o.name) = .ok [] ↔ Quiet rebaseData o := by
  obtain ⟨st', hst', honly⟩ := hm.state
  rw [planActions_eq_nil_iff hold hst', inboundActions_eq_nil_iff]
  have hsame := hm.same
  have hspec : specActions F o m = [] := by
    rw [hsame]
    simp [specActions]
  have houtblock : outblockActions o m = [] := by
    rw [hsame]
    simp [outblockActions, sameCountries]
  have hproxy : proxyActions o m st st' = [] ↔ st.cloudflareOnly = cloudflareOnly o := by
    have hproxied : o.cloudflareProxied = m.cloudflareProxied := by rw [hsame]
    rw [proxyActions, honly, cloudflareOnly_disabled]
    simp [hproxied]
  rw [hproxy]
  simp only [hspec, houtblock, true_and, Quiet, hold, Option.some.injEq, forall_eq']
  exact and_comm

end Merged

section Deployment

variable {F : Forms} {remote : Remote} {rebaseData : List (String × RebaseData)}
  {old new cloud : Cloud} {cf : CfAnswers} {cfList : Option String} {ord : MergeOrder old new}
  {taken : Taken} {merged : List KetServer} {pairs : List (KetServer × KetServer)}

def recorded (p : KetServer × KetServer) : Bool :=
  p.1.cfstate.isSome

def reached (old new : Cloud) (names : List String) : List (KetServer × KetServer) :=
  (scheduledPairs old new names).takeWhile recorded

theorem mem_reached {names : List String} {p : KetServer × KetServer}
    (h : p ∈ reached old new names) :
    p ∈ scheduledPairs old new names ∧ ∃ st, p.1.cfstate = some st := by
  have hstate : recorded p = true := List.mem_takeWhile_imp h
  exact ⟨List.takeWhile_subset _ h, Option.isSome_iff_exists.mp hstate⟩

theorem takeWhile_ready {l l' : List (KetServer × KetServer)}
    (h : List.Forall₂ (PairReady cloud) l l') :
    List.Forall₂ (PairReady cloud) (l.takeWhile recorded) (l'.takeWhile plannable) := by
  induction h with
  | nil => exact .nil
  | @cons p q l l' hpq _ ih =>
      obtain ⟨m, _, hm⟩ := hpq.merge
      obtain ⟨st, hst, _⟩ := hm.state
      have hsame : plannable q = recorded p := by
        simp [plannable, recorded, hpq.old, hst]
      rw [List.takeWhile_cons, List.takeWhile_cons, hsame]
      cases recorded p with
      | false => exact .nil
      | true => exact .cons hpq ih

/-- A disabled server for which no run is started is quiet. -/
theorem quiet_of_eligible
    (hready : List.Forall₂ (PairReady cloud) (reached old new ord.names)
      (pairs.takeWhile plannable))
    (hstarted : ∀ run ∈ (startRuns F rebaseData pairs).1, Eligible old new run.server.name)
    {p : KetServer × KetServer} (hp : p ∈ reached old new ord.names)
    (henabled : p.2.enabled = false) : Quiet rebaseData p.1 := by
  obtain ⟨hscheduled, st, hst⟩ := mem_reached hp
  obtain ⟨n, _, ho, hs, hstate⟩ := mem_scheduledPairs.mp hscheduled
  obtain ⟨q, hq, hpq⟩ := exists_right_of_mem hready hp
  obtain ⟨m, hm, hmq⟩ := hpq.merge
  have hmerged := rebaseMerge_disabled hm hstate henabled
  subst hmerged
  rw [← planActions_disabled hst hmq]
  have hplannable : plannable q = true := List.mem_takeWhile_imp hq
  obtain ⟨actions, hactions⟩ := exists_planActions_ok_iff.mpr hplannable
  rw [hpq.old] at hactions
  rcases eq_or_ne actions [] with hnil | hne
  · rw [hactions, hnil]
  · have hrun : (⟨q.2, actions, rebaseData.lookup p.1.name⟩ : AnsibleRun) ∈
        (startRuns F rebaseData pairs).1 := by
      rw [mem_startRuns_iff]
      refine ⟨q, hq, ?_, hne, rfl, ?_⟩
      · rw [hpq.old]
        exact hactions
      · rw [hpq.old]
    obtain ⟨_, s', _, hs', henabled', _⟩ := hstarted _ hrun
    rw [ready_name hpq ho hs, hs, Option.some.injEq] at hs'
    rw [← hs', henabled] at henabled'
    cases henabled'

theorem eligible_of_quiet
    (hready : List.Forall₂ (PairReady cloud) (reached old new ord.names)
      (pairs.takeWhile plannable))
    (hquiet : ∀ p ∈ reached old new ord.names, p.2.enabled = false → Quiet rebaseData p.1)
    {run : AnsibleRun} (hrun : run ∈ (startRuns F rebaseData pairs).1) :
    Eligible old new run.server.name := by
  obtain ⟨q, hq, hactions, hne, hserver, _⟩ := mem_startRuns_iff.mp hrun
  obtain ⟨p, hp, hpq⟩ := exists_left_of_mem hready hq
  obtain ⟨hscheduled, st, hst⟩ := mem_reached hp
  obtain ⟨n, _, ho, hs, hstate⟩ := mem_scheduledPairs.mp hscheduled
  obtain ⟨m, hm, hmq⟩ := hpq.merge
  rw [hserver, ready_name hpq ho hs]
  refine ⟨p.1, p.2, ho, hs, ?_, rebaseMerge_old_production hm hstate, hstate⟩
  cases henabled : p.2.enabled with
  | true => rfl
  | false =>
      have hmerged := rebaseMerge_disabled hm hstate henabled
      subst hmerged
      have hnil : planActions F p.1 q.2 (rebaseData.lookup p.1.name) = .ok [] :=
        (planActions_disabled hst hmq).mpr (hquiet p hp henabled)
      rw [hpq.old, hnil, Except.ok.injEq] at hactions
      exact absurd hactions.symm hne

theorem exists_merged (hmerge : mergeRound .Rebase old new ord.names taken = .ok (merged, pairs))
    (hcloud : prepareCloudflareState F cf cfList { servers := merged, settings := new.settings } =
      .ok cloud) {n : String} {o s : KetServer} (ho : old.collected n = some o)
    (hs : new.collected n = some s) :
    ∃ m m', Merged .Rebase o s m ∧ Refreshed m m' ∧ cloud.collected n = some m' := by
  have hn : n ∈ new.names := by
    rw [← Cloud.collected_isSome_iff, hs]
    rfl
  have hfilter : n ∈ ord.names.filter (· ∈ new.names) :=
    List.mem_filter.mpr ⟨(ord.enumerates.mem_iff n).mpr (.inr hn), by simpa using hn⟩
  obtain ⟨m, hm, hentry⟩ := exists_right_of_mem (mergeRound_ok hmerge) hfilter
  obtain ⟨m', hm', hrefreshed⟩ := exists_right_of_mem (prepareCloudflareState_ok hcloud).2 hm
  refine ⟨m, m', hentry.merged ho hs, hrefreshed, ?_⟩
  have hname : m'.name = n := (final_of_refreshed hrefreshed).name.trans hentry.name
  rw [← hname]
  exact Cloud.collected_of_mem (merged_names_nodup hmerge hcloud) hm'

/-- A disabled server is kept, unless its declaration off the grid is another one. -/
theorem retained_iff (hmerge : mergeRound .Rebase old new ord.names taken = .ok (merged, pairs))
    (hcloud : prepareCloudflareState F cf cfList { servers := merged, settings := new.settings } =
      .ok cloud) {n : String} {o s : KetServer} (ho : old.collected n = some o)
    (hs : new.collected n = some s) (henabled : s.enabled = false) :
    Retained cloud o ↔ (s.state = .Offgrid → Redeclared o s) := by
  obtain ⟨m, m', hm, hrefreshed, hcollected⟩ := exists_merged hmerge hcloud ho hs
  constructor
  · rintro ⟨k, hk, hkept⟩ hstate
    have hname : k.name = n := by
      rw [hkept]
      exact (Cloud.collected_eq_some ho).2
    have hsame := Cloud.collected_of_mem (merged_names_nodup hmerge hcloud) hk
    rw [hname, hcollected, Option.some.injEq] at hsame
    cases hm with
    | replaced hmode _ _ => cases hmode
    | kept h => simp [keepsOld, henabled, hstate] at h
    | remapped _ =>
        rw [← hsame, hrefreshed.same] at hkept
        cases o
        cases s
        simp_all [Redeclared, remapMerge]
    | rebased h _ _ _ _ => simp [rebases, henabled] at h
  · intro hdeclared
    refine ⟨m', (Cloud.collected_eq_some hcollected).1, ?_⟩
    rw [hrefreshed.same]
    cases hm with
    | replaced hmode _ _ => cases hmode
    | kept _ => rw [henabled]
    | remapped h =>
        have hstate : s.state = .Offgrid := by simpa [remaps] using h
        rw [hdeclared hstate]
        rfl
    | rebased h _ _ _ _ => simp [rebases, henabled] at h

/-- A Rebase starts runs only for servers that are enabled and in production in both clouds, and
keeps the old specification of the disabled ones, exactly when every disabled server it reaches
is quiet and none is declared off the grid in another way than before. -/
theorem deployRebase_eligible_iff
    (hmerge : mergeRound .Rebase old new ord.names taken = .ok (merged, pairs))
    (hcloud : prepareCloudflareState F cf cfList { servers := merged, settings := new.settings } =
      .ok cloud) :
    ((∀ run ∈ (deployRebase F remote rebaseData (refreshPairs cloud pairs) cloud).started,
        Eligible old new run.server.name) ∧
      ∀ n o s, old.collected n = some o → new.collected n = some s → s.enabled = false →
        Retained cloud o) ↔
      (∀ p ∈ reached old new ord.names, p.2.enabled = false → Quiet rebaseData p.1) ∧
        ∀ n o s, old.collected n = some o → new.collected n = some s → s.enabled = false →
          s.state = .Offgrid → Redeclared o s := by
  have hready := takeWhile_ready (pairs_ready hmerge hcloud)
  rw [deployRebase_started]
  refine and_congr ⟨?_, ?_⟩ ?_
  · intro hstarted p hp henabled
    exact quiet_of_eligible hready hstarted hp henabled
  · intro hquiet run hrun
    exact eligible_of_quiet hready hquiet hrun
  · refine forall₃_congr fun n o s => forall₃_congr fun ho hs henabled => ?_
    exact retained_iff hmerge hcloud ho hs henabled

end Deployment

section Instances

open Xcplane.Specimen

def disabledExtended : Cloud :=
  cloud [{ alpha with enabled := false, inbounds := [direct, proxied, Inbound.superInbound] }]

def addedProxied : List (String × RebaseData) :=
  [("alpha", ⟨[proxied], [], ⟨none, none, none, none⟩⟩)]

theorem createRebaseData_disabledExtended :
    createRebaseData forms ⟨false⟩ inboundOrder (cloud [alpha]) disabledExtended (iteration _) =
      .ok addedProxied := rfl

theorem deployRebase_eligible_iff_disabledExtended :
    ∃ merged pairs cloud', mergeRound .Rebase (cloud [alpha]) disabledExtended
        (order (cloud [alpha]) disabledExtended).names (takenBy (cloud [alpha])) =
          .ok (merged, pairs) ∧
      (((∀ run ∈ (deployRebase forms remote addedProxied (refreshPairs cloud' pairs)
            cloud').started,
          Eligible (cloud [alpha]) disabledExtended run.server.name) ∧
        ∀ n o s, (cloud [alpha]).collected n = some o → disabledExtended.collected n = some s →
          s.enabled = false → Retained cloud' o) ↔
        (∀ p ∈ reached (cloud [alpha]) disabledExtended
            (order (cloud [alpha]) disabledExtended).names,
          p.2.enabled = false → Quiet addedProxied p.1) ∧
          ∀ n o s, (cloud [alpha]).collected n = some o → disabledExtended.collected n = some s →
            s.enabled = false → s.state = .Offgrid → Redeclared o s) := by
  obtain ⟨merged, pairs, cloud', hmerge, hcloud⟩ : ∃ merged pairs cloud',
      mergeRound .Rebase (cloud [alpha]) disabledExtended
          (order (cloud [alpha]) disabledExtended).names (takenBy (cloud [alpha])) =
        .ok (merged, pairs) ∧
      prepareCloudflareState forms cf none
          { servers := merged, settings := disabledExtended.settings } = .ok cloud' :=
    ⟨_, _, _, rfl, rfl⟩
  exact ⟨merged, pairs, cloud', hmerge, deployRebase_eligible_iff hmerge hcloud⟩

/-- A Rebase of the disabled `alpha` starts a run for it. -/
theorem reconcileCloud_disabled_started :
    createRebaseData forms ⟨false⟩ inboundOrder (cloud [alpha]) disabledExtended (iteration _) =
        .ok addedProxied ∧
      ∃ run ∈ (reconcileCloud env (cloud [alpha]) disabledExtended .Rebase (some addedProxied)
          (order _ _) dirs).started,
        ¬ Eligible (cloud [alpha]) disabledExtended run.server.name := by
  refine ⟨createRebaseData_disabledExtended, _, List.mem_cons_self, ?_⟩
  rintro ⟨o, s, _, hs, henabled, _⟩
  cases hs
  cases henabled

end Instances

end Xcplane.DisabledRebase
