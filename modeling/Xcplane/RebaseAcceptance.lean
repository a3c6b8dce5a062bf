import Xcplane.Acceptance

/-!
When a reconciliation of any mode ends well, in terms of what it is given: the two clouds, the
removals of directories, the answers of Cloudflare and the outcomes of the remote runs.
-/

namespace Xcplane.RebaseAcceptance

open Xcplane.Types
open Xcplane.Lib
open Xcplane.Cloudflare
open Xcplane.Merge
open Xcplane.RebaseDiff
open Xcplane.Deploy
open Xcplane.Reconcile
open Xcplane.ReconcileSpec
open Xcplane.RebasePlan
open Xcplane.JoinedRuns
open Xcplane.Acceptance

variable {δ : Type}

section Statement

variable (mode : ReconMode) (old new : Cloud)

/-- The server that comes out under the name. -/
def mergeOf (n : String) : Option KetServer :=
  match old.collected n, new.collected n with
  | none, some s => some s
  | some o, some s => (mergeServer mode new.settings.inboundSet o s).toOption
  | _, none => none

def addedOf (n : String) : Option KetServer :=
  match old.collected n with
  | none => new.collected n
  | some _ => none

/-- The servers whose Cloudflare states are computed. -/
def toPrepare (ord : MergeOrder old new) : Cloud where
  servers := if old.servers = [] then new.servers else ord.names.filterMap (mergeOf mode old new)
  settings := new.settings

/-- The merge refuses none of the names: the declarations of a common server can be merged, and
an added one has a free domain and a free IP. -/
structure Unrefused (names : List String) (taken : Taken) : Prop where
  common : ∀ n ∈ names, ∀ o s, old.collected n = some o → new.collected n = some s →
    ∃ m, mergeServer mode new.settings.inboundSet o s = .ok m
  added : ∀ s ∈ names.filterMap (addedOf old new), s.domain ∉ taken.domains ∧ s.ip ∉ taken.ips
  apart : (names.filterMap (addedOf old new)).Pairwise fun s t => s.domain ≠ t.domain ∧ s.ip ≠ t.ip

/-- The run of a scheduled pair can be planned, and if there is something to do it ends well. -/
structure Reconfigured (F : Forms) (remote : Remote) (data : List (String × RebaseData))
    (q : KetServer × KetServer) : Prop where
  plannable : plannable q = true
  outcome : ∀ run, RunOf F data q run →
    remote.outcome run = .success ∧ q.2.ansibleConn.isSome = true

/-- The server of a scheduled pair has a recorded state, and its run ends well. -/
structure GoesWell (env : ReconEnv δ) (cfList : Option String)
    (data : List (String × RebaseData)) (p : KetServer × KetServer) : Prop where
  state : p.1.cfstate.isSome = true
  outcome : ∀ m st run, rebaseMerge p.1 p.2 = .ok m →
    setCfState env.forms env.cf cfList m = .ok st →
    RunOf env.forms data (p.1, { m with cfstate := some st }) run →
      env.remote.outcome run = .success ∧ m.ansibleConn.isSome = true

/-- What follows the states: a Rebase has its data, and its runs end well. -/
def Redeployed (env : ReconEnv δ) (rebaseData : Option (List (String × RebaseData)))
    (ord : MergeOrder old new) : Prop :=
  old.servers ≠ [] → mode = .Rebase → ∃ data, rebaseData = some data ∧
    ∀ p ∈ scheduledPairs old new ord.names,
      GoesWell env (sharedList env.cf env.cfList (toPrepare mode old new ord)) data p

end Statement

section Merge

variable {mode : ReconMode} {old new : Cloud} {names : List String} {taken : Taken}
  {servers : List KetServer} {pairs : List (KetServer × KetServer)}

theorem mergeRound_servers (h : mergeRound mode old new names taken = .ok (servers, pairs)) :
    servers = names.filterMap (mergeOf mode old new) := by
  induction names generalizing taken servers pairs with
  | nil =>
      cases h
      rfl
  | cons n rest ih =>
      rw [mergeRound] at h
      rw [List.filterMap_cons, mergeOf]
      cases ho : old.collected n with
      | none =>
          cases hs : new.collected n with
          | none =>
              rw [ho, hs] at h
              cases h
          | some s =>
              simp only [ho, hs, ensure_bind_eq_ok_iff] at h
              obtain ⟨_, _, h⟩ := h
              obtain ⟨⟨merged, pairs'⟩, hrest, h⟩ := bind_eq_ok_iff.mp h
              cases h
              exact congrArg _ (ih hrest)
      | some o =>
          cases hs : new.collected n with
          | none =>
              rw [ho, hs] at h
              exact ih h
          | some s =>
              simp only [ho, hs] at h
              obtain ⟨m, hm, h⟩ := bind_eq_ok_iff.mp h
              obtain ⟨⟨merged, pairs'⟩, hrest, h⟩ := bind_eq_ok_iff.mp h
              cases h
              simp only [hm, Except.toOption]
              exact congrArg _ (ih hrest)

theorem unrefused_cons_added {n : String} {s : KetServer} (ho : old.collected n = none)
    (hs : new.collected n = some s) :
    Unrefused mode old new (n :: names) taken ↔
      (s.domain ∉ taken.domains ∧ s.ip ∉ taken.ips) ∧
        Unrefused mode old new names
          { domains := s.domain :: taken.domains, ips := s.ip :: taken.ips } := by
  have hadded : (n :: names).filterMap (addedOf old new) =
      s :: names.filterMap (addedOf old new) := by
    rw [List.filterMap_cons, addedOf, ho]
    simp only [hs]
  constructor
  · rintro ⟨hcommon, hfree, hapart⟩
    rw [hadded] at hfree hapart
    obtain ⟨hhead, hfree⟩ := List.forall_mem_cons.mp hfree
    obtain ⟨hne, hapart⟩ := List.pairwise_cons.mp hapart
    refine ⟨hhead, (List.forall_mem_cons.mp hcommon).2, fun t ht => ?_, hapart⟩
    obtain ⟨hd, hi⟩ := hne t ht
    exact ⟨by simp [hd.symm, (hfree t ht).1], by simp [hi.symm, (hfree t ht).2]⟩
  · rintro ⟨hhead, hcommon, hfree, hapart⟩
    refine ⟨List.forall_mem_cons.mpr ⟨?_, hcommon⟩, ?_, ?_⟩
    · intro o t ho'
      rw [ho] at ho'
      cases ho'
    · rw [hadded]
      refine List.forall_mem_cons.mpr ⟨hhead, fun t ht => ?_⟩
      have ht' := hfree t ht
      simp only [List.mem_cons, not_or] at ht'
      exact ⟨ht'.1.2, ht'.2.2⟩
    · rw [hadded]
      refine List.pairwise_cons.mpr ⟨fun t ht => ?_, hapart⟩
      have ht' := hfree t ht
      simp only [List.mem_cons, not_or] at ht'
      exact ⟨Ne.symm ht'.1.1, Ne.symm ht'.2.1⟩

theorem unrefused_cons_old {n : String} {o : KetServer} (ho : old.collected n = some o) :
    Unrefused mode old new (n :: names) taken ↔
      (∀ s, new.collected n = some s →
        ∃ m, mergeServer mode new.settings.inboundSet o s = .ok m) ∧
        Unrefused mode old new names taken := by
  have hadded : (n :: names).filterMap (addedOf old new) =
      names.filterMap (addedOf old new) := by
    rw [List.filterMap_cons, addedOf, ho]
  constructor
  · rintro ⟨hcommon, hfree, hapart⟩
    rw [hadded] at hfree hapart
    obtain ⟨hhead, hcommon⟩ := List.forall_mem_cons.mp hcommon
    exact ⟨fun s hs => hhead o s ho hs, hcommon, hfree, hapart⟩
  · rintro ⟨hhead, hcommon, hfree, hapart⟩
    refine ⟨List.forall_mem_cons.mpr ⟨?_, hcommon⟩, by rwa [hadded], by rwa [hadded]⟩
    intro o' s ho' hs
    rw [ho, Option.some.injEq] at ho'
    rw [← ho']
    exact hhead s hs

theorem exists_mergeRound_iff (hmem : ∀ n ∈ names, n ∈ old.names ∨ n ∈ new.names) :
    (∃ result, mergeRound mode old new names taken = .ok result) ↔
      Unrefused mode old new names taken := by
  induction names generalizing taken with
  | nil => exact ⟨fun _ => ⟨by simp, by simp, by simp⟩, fun _ => ⟨_, rfl⟩⟩
  | cons n rest ih =>
      obtain ⟨hn, hrest⟩ := List.forall_mem_cons.mp hmem
      rw [mergeRound]
      cases ho : old.collected n with
      | none =>
          cases hs : new.collected n with
          | none =>
              -- a name of neither cloud is not gone through
              rw [← Cloud.collected_isSome_iff, ← Cloud.collected_isSome_iff, ho, hs] at hn
              simp at hn
          | some s =>
              rw [unrefused_cons_added ho hs, ← ih hrest]
              constructor
              · rintro ⟨result, h⟩
                simp only [ensure_bind_eq_ok_iff] at h
                obtain ⟨hdomain, hip, h⟩ := h
                obtain ⟨merged, hmerged, _⟩ := bind_eq_ok_iff.mp h
                exact ⟨⟨by simpa using hdomain, by simpa using hip⟩, merged, hmerged⟩
              · rintro ⟨⟨hdomain, hip⟩, ⟨merged, pairs⟩, hmerged⟩
                refine ⟨(s :: merged, pairs), ?_⟩
                simp only [ensure_bind_eq_ok_iff]
                refine ⟨by simpa using hdomain, by simpa using hip, ?_⟩
                rw [hmerged]
                rfl
      | some o =>
          rw [unrefused_cons_old ho, ← ih hrest]
          cases hs : new.collected n with
          | none => simp
          | some s =>
              simp only [Option.some.injEq, forall_eq']
              constructor
              · rintro ⟨result, h⟩
                obtain ⟨m, hm, h⟩ := bind_eq_ok_iff.mp h
                obtain ⟨merged, hmerged, _⟩ := bind_eq_ok_iff.mp h
                exact ⟨⟨m, hm⟩, merged, hmerged⟩
              · rintro ⟨⟨m, hm⟩, ⟨merged, pairs⟩, hmerged⟩
                simp only [hm, hmerged]
                exact ⟨_, rfl⟩

end Merge

section Deployment

variable {F : Forms} {remote : Remote} {data : List (String × RebaseData)}
  {pairs : List (KetServer × KetServer)} {cloud : Cloud} {runs : List AnsibleRun}
  {run : AnsibleRun}

theorem exists_joinRun_iff : (∃ conn, joinRun remote run = .ok conn) ↔
    remote.outcome run = .success ∧ run.server.ansibleConn.isSome = true := by
  constructor
  · rintro ⟨conn, h⟩
    refine ⟨(joinRun_ok h).1, ?_⟩
    unfold joinRun at h
    rw [(joinRun_ok h).1] at h
    cases hconn : run.server.ansibleConn with
    | none =>
        rw [hconn] at h
        cases h
    | some conn => rfl
  · rintro ⟨houtcome, hconn⟩
    exact exists_joinRun_ok houtcome hconn

theorem exists_joinLoop_iff : (∃ c, (joinLoop remote runs cloud).2 = .ok c) ↔
    ∀ run ∈ runs, remote.outcome run = .success ∧ run.server.ansibleConn.isSome = true := by
  constructor
  · intro h
    induction runs generalizing cloud with
    | nil => exact List.forall_mem_nil _
    | cons run rest ih =>
        obtain ⟨c, h⟩ := h
        rw [joinLoop] at h
        cases hrun : joinRun remote run with
        | error e =>
            rw [hrun] at h
            cases h
        | ok conn =>
            rw [hrun] at h
            exact List.forall_mem_cons.mpr ⟨exists_joinRun_iff.mp ⟨conn, hrun⟩, ih ⟨c, h⟩⟩
  · intro h
    exact exists_joinLoop_ok (fun run hrun => (h run hrun).1) fun run hrun => (h run hrun).2

theorem startRuns_done_iff : (startRuns F data pairs).2 = none ↔
    ∀ q ∈ pairs, plannable q = true := by
  constructor
  · intro h q hq
    rw [← startRuns_all h] at hq
    exact List.mem_takeWhile_imp hq
  · exact startRuns_all_plannable

/-- A deployment ends well where every pair can be planned and every run ends well. -/
theorem exists_deployRebase_iff : (∃ c, (deployRebase F remote data pairs cloud).result = .ok c) ↔
    ∀ q ∈ pairs, Reconfigured F remote data q := by
  simp only [deployRebase]
  cases hstop : (startRuns F data pairs).2 with
  | some e =>
      constructor
      · rintro ⟨c, h⟩
        cases h
      · intro h
        rw [startRuns_done_iff.mpr fun q hq => (h q hq).plannable] at hstop
        cases hstop
  | none =>
      have hplanned := startRuns_all hstop
      have hperm := remote.perm (startRuns F data pairs).1
      rw [exists_joinLoop_iff]
      constructor
      · intro h q hq
        refine ⟨startRuns_done_iff.mp hstop q hq, fun run hrun => ?_⟩
        have hmem : run ∈ (startRuns F data pairs).1 := by
          rw [mem_startRuns_iff, hplanned]
          exact ⟨q, hq, hrun⟩
        rw [← hrun.2.2.1]
        exact h run (hperm.mem_iff.mpr hmem)
      · intro h run hrun
        obtain ⟨q, hq, hplan⟩ := mem_startRuns_iff.mp (hperm.mem_iff.mp hrun)
        rw [hplanned] at hq
        rw [hplan.2.2.1]
        exact (h q hq).outcome run hplan

end Deployment

section Reconciliation

variable {env : ReconEnv δ} {F : Forms} {cf : CfAnswers} {cfList : Option String}
  {old new cloud c : Cloud} {mode : ReconMode} {ord : MergeOrder old new} {dirs : Dirs δ}
  {rebaseData : Option (List (String × RebaseData))} {data : List (String × RebaseData)}
  {taken : Taken} {merged : List KetServer} {pairs : List (KetServer × KetServer)}

/-- The server has got the state that the answers give it. -/
def StateFrom (F : Forms) (cf : CfAnswers) (list : Option String) (m m' : KetServer) : Prop :=
  ∃ st, setCfState F cf list m = .ok st ∧ m' = { m with cfstate := some st }

theorem prepareCloudflareState_states (h : prepareCloudflareState F cf cfList c = .ok cloud) :
    List.Forall₂ (StateFrom F cf (sharedList cf cfList c)) c.servers cloud.servers := by
  obtain ⟨servers, hservers, h⟩ := bind_eq_ok_iff.mp h
  cases h
  refine (mapM_eq_ok_iff.mp hservers).imp fun m m' hm => ?_
  obtain ⟨st, hst, hm⟩ := bind_eq_ok_iff.mp hm
  exact ⟨st, hst, (Except.ok.inj hm).symm⟩

/-- What is deployed for a scheduled pair: its merged server with its state. -/
structure PairFrom (F : Forms) (cf : CfAnswers) (list : Option String)
    (p q : KetServer × KetServer) : Prop where
  old : q.1 = p.1
  merge : ∃ m, rebaseMerge p.1 p.2 = .ok m ∧ StateFrom F cf list m q.2

theorem pairs_from (hmerge : mergeRound .Rebase old new ord.names taken = .ok (merged, pairs))
    (hcloud : prepareCloudflareState F cf cfList { servers := merged, settings := new.settings } =
      .ok cloud) :
    List.Forall₂
      (PairFrom F cf (sharedList cf cfList { servers := merged, settings := new.settings }))
      (scheduledPairs old new ord.names) (refreshPairs cloud pairs) := by
  rw [refreshPairs, List.forall₂_map_right_iff]
  refine (mergeRound_pairs hmerge).imp fun p q hpq => ?_
  obtain ⟨m', hm', hstate⟩ := exists_right_of_mem (prepareCloudflareState_states hcloud) hpq.mem
  have hcollected : cloud.collected q.2.name = some m' := by
    obtain ⟨st, _, hm⟩ := hstate
    have hname : m'.name = q.2.name := by rw [hm]
    rw [← hname]
    exact Cloud.collected_of_mem (merged_names_nodup hmerge hcloud) hm'
  refine ⟨hpq.old, q.2, hpq.merge, ?_⟩
  rw [hcollected]
  exact hstate

theorem PairFrom.reconfigured_iff {list : Option String} {p q : KetServer × KetServer}
    (h : PairFrom env.forms env.cf list p q) :
    Reconfigured env.forms env.remote data q ↔ GoesWell env list data p := by
  obtain ⟨q₁, q₂⟩ := q
  obtain ⟨rfl, m, hm, st, hst, rfl⟩ := h
  constructor
  · rintro ⟨hplannable, houtcome⟩
    refine ⟨(Bool.and_eq_true_iff.mp hplannable).1, fun m' st' run hm' hst' hrun => ?_⟩
    obtain rfl : m = m' := Except.ok.inj (hm.symm.trans hm')
    obtain rfl : st = st' := Except.ok.inj (hst.symm.trans hst')
    exact houtcome run hrun
  · rintro ⟨hstate, houtcome⟩
    exact ⟨Bool.and_eq_true_iff.mpr ⟨hstate, rfl⟩, fun run hrun => houtcome m st run hm hst hrun⟩

theorem deployed_iff (hmerge : mergeRound .Rebase old new ord.names taken = .ok (merged, pairs))
    (hcloud : prepareCloudflareState env.forms env.cf env.cfList
      { servers := merged, settings := new.settings } = .ok cloud) :
    (∃ c, (deployRebase env.forms env.remote data (refreshPairs cloud pairs) cloud).result =
        .ok c) ↔
      ∀ p ∈ scheduledPairs old new ord.names, GoesWell env
        (sharedList env.cf env.cfList { servers := merged, settings := new.settings }) data p := by
  have hpairs := pairs_from hmerge hcloud
  rw [exists_deployRebase_iff]
  constructor
  · intro h p hp
    obtain ⟨q, hq, hpq⟩ := exists_right_of_mem hpairs hp
    exact hpq.reconfigured_iff.mp (h q hq)
  · intro h q hq
    obtain ⟨p, hp, hpq⟩ := exists_left_of_mem hpairs hq
    exact hpq.reconfigured_iff.mpr (h p hp)

theorem toPrepare_of_mergeRound (hold : old.servers ≠ [])
    (hmerge : mergeRound mode old new ord.names taken = .ok (merged, pairs)) :
    toPrepare mode old new ord = { servers := merged, settings := new.settings } := by
  rw [toPrepare, if_neg hold, mergeRound_servers hmerge]

/-- What follows the rounds ends well where Cloudflare answers for every server and the remote
side of a Rebase goes well. -/
theorem finish_isOk_iff (hold : old.servers ≠ [])
    (hmerge : mergeRound mode old new ord.names taken = .ok (merged, pairs)) :
    (∃ c, (finish env mode rebaseData { servers := merged, settings := new.settings } pairs
        dirs).result = .ok c) ↔
      Answered env (toPrepare mode old new ord) ∧ Redeployed mode old new env rebaseData ord := by
  rw [Redeployed, toPrepare_of_mergeRound hold hmerge, ← exists_prepareCloudflareState_ok_iff,
    finish]
  cases hcloud : prepareCloudflareState env.forms env.cf env.cfList
      { servers := merged, settings := new.settings } with
  | error e => simp
  | ok cloud =>
      cases mode with
      | Reload => simp
      | Remap => simp
      | Rebase =>
          cases rebaseData with
          | none => simp [hold]
          | some data =>
              have hdeployed : _ ↔ ∀ p ∈ scheduledPairs old new ord.names, GoesWell env _ data p :=
                deployed_iff hmerge hcloud
              simpa [hold] using hdeployed

/-- A reconciliation ends well exactly when no removal fails, the merge refuses nothing,
Cloudflare answers for every server and the remote side of a Rebase goes well. -/
theorem reconcileCloud_isOk_iff :
    (∃ c, (reconcileCloud env old new mode rebaseData ord dirs).result = .ok c) ↔
      Removable env.removeDirAll old new dirs ∧
        (old.servers ≠ [] → Unrefused mode old new ord.names (takenAtMerge ord)) ∧
        Answered env (toPrepare mode old new ord) ∧
        Redeployed mode old new env rebaseData ord := by
  by_cases hold : old.servers = []
  · have hremovable : Removable env.removeDirAll old new dirs := by
      intro n d hdoomed
      have hnone := collected_eq_none_of_isEmpty (List.isEmpty_iff.mpr hold) n
      simp [DataDirs.doomed, hnone] at hdoomed
    have hnew : toPrepare mode old new ord = new := by
      rw [toPrepare, if_pos hold]
    rw [reconcileCloud, if_pos (List.isEmpty_iff.mpr hold), hnew,
      exists_prepareCloudflareState_ok_iff]
    constructor
    · exact fun h => ⟨hremovable, fun hne => absurd hold hne, h, fun hne => absurd hold hne⟩
    · exact fun h => h.2.2.1
  · have hmem : ∀ n ∈ ord.names, n ∈ old.names ∨ n ∈ new.names :=
      fun n hn => (ord.enumerates.mem_iff n).mp hn
    rw [removable_iff ord, reconcileCloud, if_neg (by simpa using hold)]
    generalize deletionRound env.removeDirAll old new ord.names dirs = round
    obtain ⟨dirs', failed⟩ := round
    cases failed with
    | some e => simp
    | none =>
        rw [← exists_mergeRound_iff hmem]
        simp only [takenAtMerge]
        cases hmerge : mergeRound mode old new ord.names
            (takenAfterDeletion old new ord.names (takenBy old)) with
        | error e => simp [hold]
        | ok result =>
            have hfinish : (∃ c, (finish env mode rebaseData
                { servers := result.1, settings := new.settings } result.2 dirs').result = .ok c) ↔
                Answered env (toPrepare mode old new ord) ∧
                  Redeployed mode old new env rebaseData ord :=
              finish_isOk_iff hold hmerge
            simpa [hold] using hfinish

end Reconciliation

end Xcplane.RebaseAcceptance
