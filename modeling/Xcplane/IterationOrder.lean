import Mathlib.Data.List.Perm.Basic
import Xcplane.Acceptance
import Xcplane.Reapplied

/-!
Whether a reconciliation depends on the order in which it goes through the names of the two
clouds: every name gets its own entry, and whether it can have one depends on the others only
through the addresses that are taken, as a set.
-/

namespace Xcplane.IterationOrder

open Xcplane.Types
open Xcplane.Lib
open Xcplane.Server
open Xcplane.CloudConfig
open Xcplane.Cloudflare
open Xcplane.Merge
open Xcplane.RebaseDiff
open Xcplane.Deploy
open Xcplane.Reconcile
open Xcplane.ReconcileSpec
open Xcplane.RebasePlan
open Xcplane.DataDirs
open Xcplane.JoinedRuns
open Xcplane.Acceptance

variable {δ : Type}

/-- The block list is looked up in the account of the zone of the first server, and all zones
are in one account. -/
structure OneAccount (cf : CfAnswers) (listOf : String → Except BoxError String) : Prop where
  list : ∀ (cloud : Cloud) s rest, cloud.servers = s :: rest →
    cf.list cloud = (do
      let zone ← cf.zone s
      listOf zone.accountId)
  account : ∀ s s' zone zone', cf.zone s = .ok zone → cf.zone s' = .ok zone' →
    zone.accountId = zone'.accountId

/-- Both give every server and every run the same, whatever order the runs end in. -/
structure SameOutcomes (env env' : ReconEnv δ) : Prop where
  forms : env'.forms = env.forms
  removeDirAll : env'.removeDirAll = env.removeDirAll
  cf : env'.cf = env.cf
  cfList : env'.cfList = env.cfList
  outcome : env'.remote.outcome = env.remote.outcome

/-- The pairs that the merge schedules for the remote side. -/
def scheduled (mode : ReconMode) (old new : Cloud) (ord : MergeOrder old new) :
    List (KetServer × KetServer) :=
  if old.servers.isEmpty then []
  else
    match mergeRound mode old new ord.names (takenAtMerge ord) with
    | .ok (_, pairs) => pairs
    | .error _ => []

theorem SameOutcomes.symm {env env' : ReconEnv δ} (h : SameOutcomes env env') :
    SameOutcomes env' env :=
  ⟨h.forms.symm, h.removeDirAll.symm, h.cf.symm, h.cfList.symm, h.outcome.symm⟩

section Rounds

variable {old new : Cloud} {mode : ReconMode} {names : List String} {taken : Taken}

/-- What the merge makes of a name. -/
def mergedAt (mode : ReconMode) (old new : Cloud) (n : String) : Option KetServer :=
  match old.collected n, new.collected n with
  | none, some s => some s
  | some o, some s => (mergeServer mode new.settings.inboundSet o s).toOption
  | _, none => none

def scheduledAt (mode : ReconMode) (old new : Cloud) (n : String) :
    Option (KetServer × KetServer) :=
  match old.collected n, new.collected n with
  | some o, some s =>
      if mode = .Rebase ∧ s.state = .Production then
        (mergeServer mode new.settings.inboundSet o s).toOption.map fun m => (o, m)
      else none
  | _, _ => none

theorem mergeRound_eq {servers : List KetServer} {pairs : List (KetServer × KetServer)}
    (h : mergeRound mode old new names taken = .ok (servers, pairs)) :
    servers = names.filterMap (mergedAt mode old new) ∧
      pairs = names.filterMap (scheduledAt mode old new) := by
  induction names generalizing taken servers pairs with
  | nil =>
      cases h
      exact ⟨rfl, rfl⟩
  | cons n rest ih =>
      rw [mergeRound] at h
      rw [List.filterMap_cons, List.filterMap_cons, mergedAt, scheduledAt]
      cases ho : old.collected n with
      | none =>
          cases hs : new.collected n with
          | none =>
              rw [ho, hs] at h
              cases h
          | some s =>
              simp only [ho, hs, ensure_bind_eq_ok_iff] at h
              obtain ⟨_, _, h⟩ := h
              obtain ⟨⟨servers', pairs'⟩, hrest, h⟩ := bind_eq_ok_iff.mp h
              cases h
              obtain ⟨rfl, rfl⟩ := ih hrest
              exact ⟨rfl, rfl⟩
      | some o =>
          cases hs : new.collected n with
          | none =>
              rw [ho, hs] at h
              exact ih h
          | some s =>
              simp only [ho, hs] at h
              obtain ⟨m, hm, h⟩ := bind_eq_ok_iff.mp h
              obtain ⟨⟨servers', pairs'⟩, hrest, h⟩ := bind_eq_ok_iff.mp h
              cases h
              obtain ⟨rfl, rfl⟩ := ih hrest
              by_cases hscheduled : mode = .Rebase ∧ s.state = .Production
              · simp only [hm, if_pos hscheduled]
                exact ⟨rfl, rfl⟩
              · simp only [hm, if_neg hscheduled]
                exact ⟨rfl, trivial⟩

variable (old new) in
theorem mem_takenAfterDeletion_iff (names : List String) (taken : Taken) :
    (∀ d, d ∈ (takenAfterDeletion old new names taken).domains ↔ d ∈ taken.domains ∧
      ∀ n ∈ names, ∀ s, old.collected n = some s → new.collected n = none → d ≠ s.domain) ∧
    ∀ i, i ∈ (takenAfterDeletion old new names taken).ips ↔ i ∈ taken.ips ∧
      ∀ n ∈ names, ∀ s, old.collected n = some s → new.collected n = none → i ≠ s.ip := by
  induction names generalizing taken with
  | nil => simp [takenAfterDeletion]
  | cons n rest ih =>
      rw [takenAfterDeletion]
      simp only [List.forall_mem_cons]
      cases ho : old.collected n with
      | none => simpa using ih taken
      | some o =>
          cases hs : new.collected n with
          | some s => simpa using ih taken
          | none =>
              obtain ⟨hdomains, hips⟩ := ih { domains := taken.domains.filter (· ≠ o.domain)
                                              ips := taken.ips.filter (· ≠ o.ip) }
              constructor
              · intro d
                rw [hdomains]
                simp [and_assoc]
              · intro i
                rw [hips]
                simp [and_assoc]

theorem mem_takenAtMerge_iff (ord ord' : MergeOrder old new) :
    (∀ d, d ∈ (takenAtMerge ord).domains ↔ d ∈ (takenAtMerge ord').domains) ∧
      ∀ i, i ∈ (takenAtMerge ord).ips ↔ i ∈ (takenAtMerge ord').ips := by
  have hnames : ∀ n, n ∈ ord.names ↔ n ∈ ord'.names := fun n =>
    (ord.enumerates.mem_iff n).trans (ord'.enumerates.mem_iff n).symm
  obtain ⟨hdomains, hips⟩ := mem_takenAfterDeletion_iff old new ord.names (takenBy old)
  obtain ⟨hdomains', hips'⟩ := mem_takenAfterDeletion_iff old new ord'.names (takenBy old)
  constructor
  · intro d
    rw [takenAtMerge, takenAtMerge, hdomains, hdomains']
    simp only [hnames]
  · intro i
    rw [takenAtMerge, takenAtMerge, hips, hips']
    simp only [hnames]

theorem mergeable_any_order (ord ord' : MergeOrder old new) {n : String}
    (h : Mergeable mode old new (takenAtMerge ord) n) :
    Mergeable mode old new (takenAtMerge ord') n := by
  obtain ⟨hdomains, hips⟩ := mem_takenAtMerge_iff ord ord'
  refine ⟨h.common, fun s ho hs => ?_⟩
  rw [← hdomains, ← hips]
  exact h.added s ho hs

/-- The merges of two orders give the same servers and schedule the same pairs. -/
theorem mergeRound_any_order (hnew : new.Distinct) (ord ord' : MergeOrder old new)
    {servers : List KetServer} {pairs : List (KetServer × KetServer)}
    (h : mergeRound mode old new ord.names (takenAtMerge ord) = .ok (servers, pairs)) :
    ∃ servers' pairs', mergeRound mode old new ord'.names (takenAtMerge ord') =
      .ok (servers', pairs') ∧ servers'.Perm servers ∧ pairs'.Perm pairs := by
  have hmergeable := (mergeable_iff ord hnew).mpr ⟨_, h⟩
  obtain ⟨⟨servers', pairs'⟩, h'⟩ := (mergeable_iff ord' hnew).mp fun n =>
    mergeable_any_order ord ord' (hmergeable n)
  obtain ⟨rfl, rfl⟩ := mergeRound_eq h
  obtain ⟨rfl, rfl⟩ := mergeRound_eq h'
  have hnames : ord'.names.Perm ord.names := ord'.enumerates.perm ord.enumerates
  exact ⟨_, _, h', hnames.filterMap _, hnames.filterMap _⟩

/-- A deletion round that gets to its end removes what is doomed. -/
theorem deletionRound_dirs {removeDirAll : String → δ → Except (BoxError × Option δ) Unit}
    {dirs : Dirs δ} (hnodup : names.Nodup)
    (h : (deletionRound removeDirAll old new names dirs).2 = none) (k : String) :
    (deletionRound removeDirAll old new names dirs).1 k =
      if k ∈ names ∧ doomed old new dirs k = true then none else dirs k := by
  induction names generalizing dirs with
  | nil => simp [deletionRound]
  | cons n rest ih =>
      obtain ⟨hn, hrest⟩ := List.nodup_cons.mp hnodup
      cases hdoomed : doomed old new dirs n with
      | false =>
          rw [deletionRound_cons_of_not_doomed hdoomed] at h ⊢
          rw [ih hrest h]
          by_cases hk : k = n
          · subst hk
            simp [hn, hdoomed]
          · simp [hk]
      | true =>
          obtain ⟨d, hd⟩ := exists_dir_of_doomed hdoomed
          rw [deletionRound_cons_doomed hdoomed hd] at h ⊢
          cases hremove : removeDirAll n d with
          | error failed =>
              rw [hremove] at h
              cases h
          | ok u =>
              simp only [hremove] at h ⊢
              rw [ih hrest h]
              by_cases hk : k = n
              · subst hk
                simp [hn, hdoomed]
              · rw [Function.update_of_ne hk, doomed, doomed, Function.update_of_ne hk]
                simp [hk]

end Rounds

section States

variable {F : Forms} {cf : CfAnswers} {listOf : String → Except BoxError String}
  {cfList : Option String} {cloud cloud' c : Cloud}

theorem sharedList_any_order (hcf : OneAccount cf listOf)
    (hservers : cloud'.servers.Perm cloud.servers)
    (hzones : ∀ s ∈ cloud.servers, ∃ zone, cf.zone s = .ok zone) :
    sharedList cf cfList cloud' = sharedList cf cfList cloud := by
  rw [sharedList, sharedList, hservers.any_eq]
  cases hs : cloud.servers with
  | nil => rfl
  | cons s rest =>
      cases hs' : cloud'.servers with
      | nil =>
          rw [hs, hs'] at hservers
          exact absurd hservers (List.nil_perm.not.mpr (List.cons_ne_nil s rest))
      | cons s' rest' =>
          obtain ⟨zone, hzone⟩ := hzones s (by simp [hs])
          obtain ⟨zone', hzone'⟩ := hzones s' (hservers.mem_iff.mp (by simp [hs']))
          have hlist : cf.list cloud' = cf.list cloud := by
            rw [hcf.list cloud s rest hs, hcf.list cloud' s' rest' hs', hzone, hzone']
            exact congrArg listOf (hcf.account s' s zone' zone hzone' hzone)
          rw [hlist]

theorem prepareCloudflareState_any_order (hcf : OneAccount cf listOf)
    (hservers : cloud'.servers.Perm cloud.servers) (hsettings : cloud'.settings = cloud.settings)
    (h : prepareCloudflareState F cf cfList cloud = .ok c) :
    ∃ c', prepareCloudflareState F cf cfList cloud' = .ok c' ∧ c'.settings = c.settings ∧
      c'.servers.Perm c.servers := by
  obtain ⟨servers, hmap, hc⟩ := bind_eq_ok_iff.mp h
  cases hc
  rw [mapM_eq_ok_iff] at hmap
  have hzones : ∀ s ∈ cloud.servers, ∃ zone, cf.zone s = .ok zone := by
    intro s hs
    obtain ⟨s', _, hs'⟩ := exists_right_of_mem hmap hs
    obtain ⟨st, hst, _⟩ := bind_eq_ok_iff.mp hs'
    obtain ⟨zone, hzone, _⟩ := bind_eq_ok_iff.mp hst
    exact ⟨zone, hzone⟩
  obtain ⟨servers', hmap', hperm⟩ := List.perm_comp_forall₂ hservers hmap
  refine ⟨{ cloud' with servers := servers' }, ?_, hsettings, hperm⟩
  rw [← mapM_eq_ok_iff, ← sharedList_any_order hcf hservers hzones] at hmap'
  exact bind_eq_ok_iff.mpr ⟨servers', hmap', rfl⟩

end States

section Runs

variable {F : Forms} {remote remote' : Remote} {data : List (String × RebaseData)}
  {pairs pairs' : List (KetServer × KetServer)} {runs runs' : List AnsibleRun}
  {cloud cloud' c : Cloud} {s x x' : KetServer}

def runOf (F : Forms) (data : List (String × RebaseData)) (q : KetServer × KetServer) :
    Option AnsibleRun :=
  match planActions F q.1 q.2 (data.lookup q.1.name) with
  | .ok (a :: actions) =>
      some
        { server := q.2
          actions := a :: actions
          rebaseData := data.lookup q.1.name }
  | _ => none

variable (F data) in
theorem startRuns_eq (h : ∀ q ∈ pairs, plannable q = true) :
    startRuns F data pairs = (pairs.filterMap (runOf F data), none) := by
  induction pairs with
  | nil => rfl
  | cons q rest ih =>
      obtain ⟨hq, hrest⟩ := List.forall_mem_cons.mp h
      obtain ⟨o, m⟩ := q
      obtain ⟨actions, hactions⟩ :
          ∃ actions, planActions F o m (data.lookup o.name) = .ok actions :=
        exists_planActions_ok_iff.mpr hq
      rw [startRuns, List.filterMap_cons, runOf, hactions, ih hrest]
      cases actions with
      | nil => rfl
      | cons a actions => rfl

theorem plannable_of_startRuns (h : (startRuns F data pairs).2 = none) :
    ∀ q ∈ pairs, plannable q = true :=
  fun _ hq => List.mem_takeWhile_imp ((startRuns_all h).symm ▸ hq)

theorem exists_joinLoop_ok_iff : (∃ c, (joinLoop remote runs cloud).2 = .ok c) ↔
    ∀ run ∈ runs, ∃ conn, joinRun remote run = .ok conn := by
  induction runs generalizing cloud with
  | nil => simp [joinLoop]
  | cons run rest ih =>
      rw [joinLoop, List.forall_mem_cons]
      cases hrun : joinRun remote run with
      | error e => simp
      | ok conn => simp [ih]

theorem joinRun_congr (houtcome : remote'.outcome = remote.outcome) (run : AnsibleRun) :
    joinRun remote' run = joinRun remote run := by
  rw [joinRun, joinRun, houtcome]

theorem Joined.congr (houtcome : remote'.outcome = remote.outcome) (hruns : runs'.Perm runs)
    (h : Joined remote' runs' s x) : Joined remote runs s x := by
  refine ⟨h.same, ?_⟩
  rcases h.conn with ⟨hnone, hconn⟩ | ⟨run, hrun, hname, conn, hjoin, hconn⟩
  · exact .inl ⟨fun run hrun => hnone run (hruns.mem_iff.mpr hrun), hconn⟩
  · rw [joinRun_congr houtcome] at hjoin
    exact .inr ⟨run, hruns.mem_iff.mp hrun, hname, conn, hjoin, hconn⟩

/-- Where every server has one run at most, what is stored for it is one connection. -/
theorem Joined.unique (hruns : (runs.map fun run => run.server.name).Nodup)
    (h : Joined remote runs s x) (h' : Joined remote runs s x') : x = x' := by
  have hconn : x.ansibleConn = x'.ansibleConn := by
    rcases h.conn with ⟨hnone, hconn⟩ | ⟨run, hrun, hname, conn, hjoin, hconn⟩
    · rcases h'.conn with ⟨_, hconn'⟩ | ⟨run', hrun', hname', _⟩
      · rw [hconn, hconn']
      · exact absurd hname' (hnone run' hrun')
    · rcases h'.conn with ⟨hnone', _⟩ | ⟨run', hrun', hname', conn', hjoin', hconn'⟩
      · exact absurd hname (hnone' run hrun)
      · obtain rfl := List.inj_on_of_nodup_map hruns hrun hrun' (hname.trans hname'.symm)
        rw [hjoin, Except.ok.injEq] at hjoin'
        rw [hconn, hconn', hjoin']
  rw [h.same, h'.same, hconn]

theorem joinLoop_any_order (houtcome : remote'.outcome = remote.outcome)
    (hruns : runs'.Perm runs) (hnames : (runs.map fun run => run.server.name).Nodup)
    (hservers : cloud'.servers.Perm cloud.servers) (hsettings : cloud'.settings = cloud.settings)
    (h : (joinLoop remote runs cloud).2 = .ok c) :
    ∃ c', (joinLoop remote' runs' cloud').2 = .ok c' ∧ c'.settings = c.settings ∧
      c'.servers.Perm c.servers := by
  obtain ⟨c', hc'⟩ : ∃ c', (joinLoop remote' runs' cloud').2 = .ok c' := by
    rw [exists_joinLoop_ok_iff]
    intro run hrun
    rw [joinRun_congr houtcome]
    exact exists_joinLoop_ok_iff.mp ⟨c, h⟩ run (hruns.mem_iff.mp hrun)
  refine ⟨c', hc', ?_, ?_⟩
  · rw [(joinLoop_ok hc').1, (joinLoop_ok h).1, hsettings]
  · obtain ⟨servers, hjoined, hperm⟩ := List.perm_comp_forall₂ hservers (joinLoop_joined h)
    have hjoined' : List.Forall₂ (Joined remote runs) cloud'.servers c'.servers :=
      (joinLoop_joined hc').imp fun _ _ => Joined.congr houtcome hruns
    have hunique : Relator.RightUnique (Joined remote runs) :=
      fun _ _ _ hx hx' => Joined.unique hnames hx hx'
    have hsame : c'.servers = servers := List.right_unique_forall₂' hunique hjoined' hjoined
    rw [hsame]
    exact hperm

end Runs

section Deployment

variable {F : Forms} {remote remote' : Remote} {data : List (String × RebaseData)}
  {old new cloud cloud' c : Cloud} {mode : ReconMode}
  {pairs pairs' : List (KetServer × KetServer)}

theorem collected_any_order (hnames : cloud.names.Nodup)
    (hservers : cloud'.servers.Perm cloud.servers) (n : String) :
    cloud'.collected n = cloud.collected n := by
  have hnames' : cloud'.names.Nodup := (hservers.map KetServer.name).nodup_iff.mpr hnames
  cases h : cloud.collected n with
  | none =>
      rw [← Option.not_isSome_iff_eq_none, Cloud.collected_isSome_iff] at h ⊢
      rwa [Cloud.names, (hservers.map KetServer.name).mem_iff]
  | some s =>
      obtain ⟨hs, rfl⟩ := Cloud.collected_eq_some h
      exact Cloud.collected_of_mem hnames' (hservers.mem_iff.mpr hs)

theorem scheduledAt_name {n : String} {p : KetServer × KetServer}
    (h : scheduledAt mode old new n = some p) : p.2.name = n := by
  unfold scheduledAt at h
  split at h
  · rename_i o s ho hs
    split at h
    · obtain ⟨m, hm, rfl⟩ := Option.map_eq_some_iff.mp h
      have honame := (Cloud.collected_eq_some ho).2
      have hsname := (Cloud.collected_eq_some hs).2
      cases hmerge : mergeServer mode new.settings.inboundSet o s with
      | error e =>
          rw [hmerge] at hm
          cases hm
      | ok m' =>
          rw [hmerge] at hm
          cases hm
          exact ((mergeServer_ok hmerge).name (honame.trans hsname.symm)).trans hsname
    · cases h
  · cases h

theorem refreshPairs_names (cloud : Cloud) (pairs : List (KetServer × KetServer)) :
    (refreshPairs cloud pairs).map (fun q => q.2.name) = pairs.map fun p => p.2.name := by
  rw [refreshPairs, List.map_map]
  apply List.map_congr_left
  intro p _
  show ((cloud.collected p.2.name).getD p.2).name = p.2.name
  cases h : cloud.collected p.2.name with
  | none => rfl
  | some s => exact (Cloud.collected_eq_some h).2

theorem runOf_name {q : KetServer × KetServer} {run : AnsibleRun} (h : runOf F data q = some run) :
    run.server.name = q.2.name := by
  unfold runOf at h
  split at h
  · cases h
    rfl
  · cases h

theorem runs_names_nodup (h : (pairs.map fun p => p.2.name).Nodup) :
    ((pairs.filterMap (runOf F data)).map fun run => run.server.name).Nodup := by
  rw [List.Nodup, List.pairwise_map] at h ⊢
  refine h.filterMap _ ?_
  intro q q' hne run hrun run' hrun'
  rwa [runOf_name hrun, runOf_name hrun']

theorem deployRebase_any_order (houtcome : remote'.outcome = remote.outcome)
    (hservers : cloud'.servers.Perm cloud.servers) (hsettings : cloud'.settings = cloud.settings)
    (hnames : cloud.names.Nodup) (hpairs : pairs'.Perm pairs)
    (hscheduled : (pairs.map fun p => p.2.name).Nodup)
    (h : (deployRebase F remote data (refreshPairs cloud pairs) cloud).result = .ok c) :
    ∃ c', (deployRebase F remote' data (refreshPairs cloud' pairs') cloud').result = .ok c' ∧
      c'.settings = c.settings ∧ c'.servers.Perm c.servers ∧
      (deployRebase F remote' data (refreshPairs cloud' pairs') cloud').started.Perm
        (deployRebase F remote data (refreshPairs cloud pairs) cloud).started := by
  have hrefreshed : (refreshPairs cloud' pairs').Perm (refreshPairs cloud pairs) := by
    simp only [refreshPairs, collected_any_order hnames hservers]
    exact hpairs.map _
  have hspawned : (startRuns F data (refreshPairs cloud pairs)).2 = none := by
    cases hstop : (startRuns F data (refreshPairs cloud pairs)).2 with
    | none => rfl
    | some e =>
        simp only [deployRebase, hstop] at h
        cases h
  have hplannable := plannable_of_startRuns hspawned
  have hruns := startRuns_eq F data hplannable
  have hruns' := startRuns_eq F data fun q hq => hplannable q (hrefreshed.mem_iff.mp hq)
  simp only [deployRebase, hruns] at h
  simp only [deployRebase, hruns, hruns']
  have hstarted := hrefreshed.filterMap (runOf F data)
  have hordered := ((remote'.perm _).trans hstarted).trans
    (remote.perm ((refreshPairs cloud pairs).filterMap (runOf F data))).symm
  have hruns_names : ((remote.order ((refreshPairs cloud pairs).filterMap (runOf F data))).map
      fun run => run.server.name).Nodup := by
    rw [((remote.perm _).map _).nodup_iff]
    apply runs_names_nodup
    rw [refreshPairs_names]
    exact hscheduled
  obtain ⟨c', hc', hsettings', hservers'⟩ :=
    joinLoop_any_order houtcome hordered hruns_names hservers hsettings h
  exact ⟨c', hc', hsettings', hservers', hstarted⟩

end Deployment

section Reconciliation

variable {env env' : ReconEnv δ} {listOf : String → Except BoxError String} {old new c : Cloud}
  {mode : ReconMode} {rebaseData : Option (List (String × RebaseData))}
  {ord ord' : MergeOrder old new} {dirs : Dirs δ}

theorem scheduled_names_nodup (ord : MergeOrder old new) :
    ((ord.names.filterMap (scheduledAt mode old new)).map fun p => p.2.name).Nodup := by
  rw [List.Nodup, List.pairwise_map]
  refine List.Pairwise.filterMap (scheduledAt mode old new) ?_ ord.enumerates.nodup
  intro n n' hne p hp p' hp'
  rwa [scheduledAt_name hp, scheduledAt_name hp']

theorem finish_any_order (henv : SameOutcomes env env') (hcf : OneAccount env.cf listOf)
    {cloud cloud' : Cloud} (hservers : cloud'.servers.Perm cloud.servers)
    (hsettings : cloud'.settings = cloud.settings) (hnames : cloud.names.Nodup)
    {pairs pairs' : List (KetServer × KetServer)} (hpairs : pairs'.Perm pairs)
    (hscheduled : (pairs.map fun p => p.2.name).Nodup) (dirs' : Dirs δ)
    (h : (finish env mode rebaseData cloud pairs dirs).result = .ok c) :
    ∃ c', (finish env' mode rebaseData cloud' pairs' dirs').result = .ok c' ∧
      c'.settings = c.settings ∧ c'.servers.Perm c.servers ∧
      (finish env' mode rebaseData cloud' pairs' dirs').started.Perm
        (finish env mode rebaseData cloud pairs dirs).started := by
  unfold finish at h ⊢
  rw [henv.forms, henv.cf, henv.cfList]
  cases hfirst : prepareCloudflareState env.forms env.cf env.cfList cloud with
  | error e =>
      rw [hfirst] at h
      cases h
  | ok ready =>
      obtain ⟨ready', hready', hsettings', hservers'⟩ :=
        prepareCloudflareState_any_order hcf hservers hsettings hfirst
      have hnames' : ready.names.Nodup := by
        have heq : cloud.names = ready.names :=
          map_eq_of_forall₂ (prepareCloudflareState_ok hfirst).2
            fun s s' hs => (final_of_refreshed hs).name.symm
        rwa [← heq]
      rw [hfirst] at h
      rw [hready']
      dsimp only at h ⊢
      split at h
      · cases h
      · obtain ⟨c', hc', hrest⟩ := deployRebase_any_order henv.outcome hservers' hsettings' hnames'
          hpairs hscheduled h
        exact ⟨c', hc', hrest⟩
      · cases h
        exact ⟨ready', rfl, hsettings', hservers', .nil⟩

theorem deletionRound_of_ok (hold : old.servers ≠ [])
    (h : (reconcileCloud env old new mode rebaseData ord dirs).result = .ok c) :
    (deletionRound env.removeDirAll old new ord.names dirs).2 = none := by
  cases hround : deletionRound env.removeDirAll old new ord.names dirs with
  | mk dirs' failed =>
      cases failed with
      | none => rfl
      | some e =>
          rw [reconcileCloud, if_neg (by simpa using hold), hround] at h
          cases h

variable (rebaseData) in
theorem reconcileCloud_of_rounds (hold : old.servers ≠ [])
    (hdeletion : (deletionRound env.removeDirAll old new ord.names dirs).2 = none)
    {servers : List KetServer} {pairs : List (KetServer × KetServer)}
    (hmerge : mergeRound mode old new ord.names (takenAtMerge ord) = .ok (servers, pairs)) :
    reconcileCloud env old new mode rebaseData ord dirs =
      finish env mode rebaseData { servers, settings := new.settings } pairs
        (deletionRound env.removeDirAll old new ord.names dirs).1 := by
  rw [reconcileCloud, if_neg (by simpa using hold)]
  rw [takenAtMerge] at hmerge
  cases hround : deletionRound env.removeDirAll old new ord.names dirs with
  | mk dirs' failed =>
      rw [hround] at hdeletion
      obtain rfl : failed = none := hdeletion
      simp only [hmerge]

theorem merged_names (ord : MergeOrder old new) {taken : Taken} {servers : List KetServer}
    {pairs : List (KetServer × KetServer)}
    (hmerge : mergeRound mode old new ord.names taken = .ok (servers, pairs)) :
    (servers.map KetServer.name).Nodup := by
  have hnames : (ord.names.filter (· ∈ new.names)).map id = servers.map KetServer.name :=
    map_eq_of_forall₂ (mergeRound_ok hmerge) fun n s hs => hs.name.symm
  rw [← hnames, List.map_id]
  exact ord.enumerates.nodup.filter _

/-- What two orders come to where one of them ends well. -/
structure SameResult (mode : ReconMode) (old new : Cloud) (ord ord' : MergeOrder old new)
    (c c' : Cloud) (out out' : ReconOutcome δ) : Prop where
  settings : c'.settings = c.settings
  servers : c'.servers.Perm c.servers
  scheduled : (scheduled mode old new ord').Perm (scheduled mode old new ord)
  started : out'.started.Perm out.started
  dirs : out'.dirs = out.dirs

theorem reconcileCloud_any_order (henv : SameOutcomes env env') (hcf : OneAccount env.cf listOf)
    (hnew : new.Distinct) (ord' : MergeOrder old new)
    (h : (reconcileCloud env old new mode rebaseData ord dirs).result = .ok c) :
    ∃ c', (reconcileCloud env' old new mode rebaseData ord' dirs).result = .ok c' ∧
      SameResult mode old new ord ord' c c' (reconcileCloud env old new mode rebaseData ord dirs)
        (reconcileCloud env' old new mode rebaseData ord' dirs) := by
  cases reconcileCloud_proceeded h with
  | first hempty hcloud =>
      simp only [reconcileCloud, if_pos hempty, henv.forms, henv.cf, henv.cfList]
      refine ⟨c, hcloud, rfl, .refl _, ?_, .nil, rfl⟩
      rw [scheduled, scheduled, if_pos hempty, if_pos hempty]
  | merged servers pairs dirs' hnonempty hmerge hfinish hresult =>
      have hold : old.servers ≠ [] := by simpa using hnonempty
      have hdeletion := deletionRound_of_ok hold h
      have hremovable : Removable env'.removeDirAll old new dirs := by
        rw [henv.removeDirAll]
        exact (removable_iff ord).mpr hdeletion
      have hdeletion' := (removable_iff ord').mp hremovable
      obtain ⟨servers', pairs', hmerge', hservers, hpairs⟩ :=
        mergeRound_any_order hnew ord ord' hmerge
      have hscheduled : (pairs.map fun p => p.2.name).Nodup := by
        rw [(mergeRound_eq hmerge).2]
        exact scheduled_names_nodup ord
      let merged : Cloud := { servers, settings := new.settings }
      let merged' : Cloud := { servers := servers', settings := new.settings }
      have hperm : merged'.servers.Perm merged.servers := hservers
      have hnames : merged.names.Nodup := merged_names ord hmerge
      obtain ⟨c', hc', hsettings, hsame, hstarted⟩ := finish_any_order henv hcf hperm rfl hnames
        hpairs hscheduled (deletionRound env'.removeDirAll old new ord'.names dirs).1 hresult
      have hfinish' := reconcileCloud_of_rounds rebaseData hold hdeletion' hmerge'
      rw [hfinish, hfinish']
      refine ⟨c', hc', hsettings, hsame, ?_, hstarted, ?_⟩
      · rw [takenAtMerge] at hmerge'
        simp only [scheduled, if_neg hnonempty, takenAtMerge, hmerge, hmerge']
        exact hpairs
      · rw [← hfinish, ← hfinish', reconcileCloud_dirs hold, reconcileCloud_dirs hold,
          henv.removeDirAll]
        rw [henv.removeDirAll] at hdeletion'
        funext k
        rw [deletionRound_dirs ord.enumerates.nodup hdeletion,
          deletionRound_dirs ord'.enumerates.nodup hdeletion']
        simp only [ord.enumerates.mem_iff, ord'.enumerates.mem_iff]

/-- The order of the names decides neither whether a reconciliation ends well nor what it leads
to: the servers, those scheduled for a Rebase and the directories that are left. -/
theorem reconcileCloud_order_free (env env' : ReconEnv δ) (listOf : String → Except BoxError String)
    (draws : Nat → SecretDraw) (config : TCloud) (old new : Cloud) (mode : ReconMode)
    (rebaseData : Option (List (String × RebaseData))) (ord ord' : MergeOrder old new)
    (dirs : Dirs δ) (henv : SameOutcomes env env') (hcf : OneAccount env.cf listOf)
    (hnew : parseCloudConfig env.forms draws config = .ok new) :
    ((∃ c, (reconcileCloud env old new mode rebaseData ord dirs).result = .ok c) ↔
      ∃ c', (reconcileCloud env' old new mode rebaseData ord' dirs).result = .ok c') ∧
    ∀ c c', (reconcileCloud env old new mode rebaseData ord dirs).result = .ok c →
      (reconcileCloud env' old new mode rebaseData ord' dirs).result = .ok c' →
        SameResult mode old new ord ord' c c'
          (reconcileCloud env old new mode rebaseData ord dirs)
          (reconcileCloud env' old new mode rebaseData ord' dirs) := by
  have hdistinct := parseCloudConfig_distinct hnew
  refine ⟨⟨?_, ?_⟩, ?_⟩
  · rintro ⟨c, h⟩
    obtain ⟨c', h', _⟩ := reconcileCloud_any_order henv hcf hdistinct ord' h
    exact ⟨c', h'⟩
  · rintro ⟨c', h'⟩
    have hcf' : OneAccount env'.cf listOf := by
      rw [henv.cf]
      exact hcf
    obtain ⟨c, h, _⟩ := reconcileCloud_any_order henv.symm hcf' hdistinct ord h'
    exact ⟨c, h⟩
  · intro c c' h h'
    obtain ⟨c'', h'', hsame⟩ := reconcileCloud_any_order henv hcf hdistinct ord' h
    obtain rfl := Except.ok.inj (h''.symm.trans h')
    exact hsame

end Reconciliation

section Instances

open Xcplane.Specimen
open Xcplane.Reapplied (backwards)

/-- Without `alpha`, and with a server that takes its addresses over. -/
def renewedServers : List KetServer :=
  [{ beta with inbounds := [direct] }, { alpha with name := "gamma", inbounds := [direct] }]

def renewed : Cloud :=
  (parseCloudConfig forms draws (declared renewedServers)).toOption.getD (cloud [])

def renewedBy (ord : MergeOrder (cloud [alpha, beta]) renewed) : ReconOutcome (List String) :=
  reconcileCloud env (cloud [alpha, beta]) renewed .Remap none ord dirs

theorem oneAccount_cf : OneAccount cf fun _ => .ok "list" where
  list _ _ _ _ := rfl
  account _ _ _ _ h h' := by
    cases h
    cases h'
    rfl

theorem reconcileCloud_order_free_reversed :
    ∃ c c', (renewedBy (order _ _)).result = .ok c ∧ (renewedBy (backwards _ _)).result = .ok c' ∧
      SameResult .Remap (cloud [alpha, beta]) renewed (order _ _) (backwards _ _) c c'
        (renewedBy (order _ _)) (renewedBy (backwards _ _)) := by
  have hparse : parseCloudConfig forms draws (declared renewedServers) = .ok renewed :=
    eq_ok_of_isOk (by decide +kernel) _
  obtain ⟨c, hc⟩ := isOk_iff.mp
    (show (renewedBy (order _ _)).result.isOk = true by decide +kernel)
  obtain ⟨hverdict, hsame⟩ := reconcileCloud_order_free env env (fun _ => .ok "list") draws _
    (cloud [alpha, beta]) renewed .Remap none (order _ _) (backwards _ _) dirs
    ⟨rfl, rfl, rfl, rfl, rfl⟩ oneAccount_cf hparse
  obtain ⟨c', hc'⟩ := hverdict.mp ⟨c, hc⟩
  exact ⟨c, c', hc, hc', hsame c c' hc hc'⟩

end Instances

end Xcplane.IterationOrder
