import Mathlib.Data.List.TakeWhile
import Xcplane.RebasePlan

/-!
The runs of a Rebase that ended well: each was joined, and the server it was
started for has the connection that it stored.
-/

namespace Xcplane.JoinedRuns

open Xcplane.Types
open Xcplane.Lib
open Xcplane.Cloudflare
open Xcplane.Merge
open Xcplane.RebaseDiff
open Xcplane.Deploy
open Xcplane.Reconcile
open Xcplane.ReconcileSpec
open Xcplane.RebasePlan

variable {δ : Type}

section Joining

variable {remote : Remote} {run : AnsibleRun} {runs rest : List AnsibleRun} {cloud cloud' : Cloud}

theorem joinRun_ok {conn : AnsibleConn} (h : joinRun remote run = .ok conn) :
    remote.outcome run = .success ∧ conn.ansiblePort = some run.server.sshPort := by
  unfold joinRun at h
  split at h
  · cases h
  · cases h
  · cases h
  · rename_i houtcome
    split at h
    · cases h
    · cases h
      exact ⟨houtcome, rfl⟩

theorem exists_joinRun_ok (houtcome : remote.outcome run = .success)
    (hconn : run.server.ansibleConn.isSome = true) : ∃ conn, joinRun remote run = .ok conn := by
  obtain ⟨conn, hconn⟩ := Option.isSome_iff_exists.mp hconn
  refine ⟨updatedConn run.server conn, ?_⟩
  unfold joinRun
  rw [houtcome, hconn]

theorem mem_joinLoop_head : run ∈ (joinLoop remote (run :: rest) cloud).1 := by
  rw [joinLoop]
  split
  · exact List.mem_cons_self
  · exact List.mem_cons_self

theorem joinLoop_head_failed (h : remote.outcome run ≠ .success) :
    (joinLoop remote (run :: rest) cloud).1 = [run] := by
  rw [joinLoop]
  split
  · rfl
  · rename_i conn hconn
    exact absurd (joinRun_ok hconn).1 h

theorem joinLoop_ok_joined (h : (joinLoop remote runs cloud).2 = .ok cloud') :
    (joinLoop remote runs cloud).1 = runs ∧ ∀ run ∈ runs, remote.outcome run = .success := by
  induction runs generalizing cloud with
  | nil => exact ⟨rfl, by simp⟩
  | cons run rest ih =>
      rw [joinLoop] at h ⊢
      cases hrun : joinRun remote run with
      | error e =>
          rw [hrun] at h
          cases h
      | ok conn =>
          rw [hrun] at h
          obtain ⟨hjoined, hrest⟩ := ih h
          refine ⟨congrArg (run :: ·) hjoined, ?_⟩
          rw [List.forall_mem_cons]
          exact ⟨(joinRun_ok hrun).1, hrest⟩

theorem exists_joinLoop_ok (houtcome : ∀ run ∈ runs, remote.outcome run = .success)
    (hconn : ∀ run ∈ runs, run.server.ansibleConn.isSome = true) :
    ∃ cloud', (joinLoop remote runs cloud).2 = .ok cloud' := by
  induction runs generalizing cloud with
  | nil => exact ⟨cloud, rfl⟩
  | cons run rest ih =>
      rw [List.forall_mem_cons] at houtcome hconn
      obtain ⟨conn, hrun⟩ := exists_joinRun_ok houtcome.1 hconn.1
      rw [joinLoop, hrun]
      exact ih houtcome.2 hconn.2

/-- A server after the runs were joined. Its connection is the one that the last
run of its name stored, if there was one. -/
structure Joined (remote : Remote) (runs : List AnsibleRun) (s s' : KetServer) : Prop where
  same : SameButConn s s'
  conn : ((∀ run ∈ runs, run.server.name ≠ s.name) ∧ s'.ansibleConn = s.ansibleConn) ∨
    ∃ run ∈ runs, run.server.name = s.name ∧
      ∃ conn, joinRun remote run = .ok conn ∧ s'.ansibleConn = some conn

theorem joinLoop_joined (h : (joinLoop remote runs cloud).2 = .ok cloud') :
    List.Forall₂ (Joined remote runs) cloud.servers cloud'.servers := by
  induction runs generalizing cloud with
  | nil =>
      cases h
      exact List.forall₂_same.mpr fun s _ => ⟨rfl, .inl ⟨by simp, rfl⟩⟩
  | cons run rest ih =>
      rw [joinLoop] at h
      cases hrun : joinRun remote run with
      | error e =>
          rw [hrun] at h
          cases h
      | ok conn =>
          rw [hrun] at h
          have hstored := List.forall₂_map_left_iff.mp (ih h)
          refine hstored.imp ?_
          intro s s' hs
          by_cases hname : s.name = run.server.name
          · rw [if_pos hname] at hs
            refine ⟨SameButConn.trans (t := { s with ansibleConn := some conn }) rfl hs.same, ?_⟩
            right
            rcases hs.conn with ⟨_, hconn⟩ | ⟨x, hx, hrest⟩
            · exact ⟨run, List.mem_cons_self, hname.symm, conn, hrun, hconn⟩
            · exact ⟨x, List.mem_cons_of_mem run hx, hrest⟩
          · rw [if_neg hname] at hs
            refine ⟨hs.same, ?_⟩
            rcases hs.conn with ⟨hnone, hconn⟩ | ⟨x, hx, hrest⟩
            · left
              rw [List.forall_mem_cons]
              exact ⟨⟨Ne.symm hname, hnone⟩, hconn⟩
            · exact .inr ⟨x, List.mem_cons_of_mem run hx, hrest⟩

end Joining

section Rebase

variable {env : ReconEnv δ} {old new c cloud : Cloud} {ord : MergeOrder old new}
  {data : List (String × RebaseData)} {pairs : List (KetServer × KetServer)}
  {started : List AnsibleRun}

/-- A Rebase that ended well, with the cloud and the pairs that it deployed. -/
structure RebaseOk (env : ReconEnv δ) (old new : Cloud) (ord : MergeOrder old new)
    (data : List (String × RebaseData)) (cloud : Cloud) (pairs : List (KetServer × KetServer))
    (started : List AnsibleRun) (c : Cloud) : Prop where
  merge : ∃ merged taken, mergeRound .Rebase old new ord.names taken = .ok (merged, pairs) ∧
    prepareCloudflareState env.forms env.cf env.cfList
      { servers := merged, settings := new.settings } = .ok cloud
  planned : (startRuns env.forms data (refreshPairs cloud pairs)).2 = none
  runs : started = (startRuns env.forms data (refreshPairs cloud pairs)).1
  joined : List.Forall₂ (Joined env.remote (env.remote.order started)) cloud.servers c.servers

theorem reconcileCloud_rebaseOk {rebaseData : Option (List (String × RebaseData))}
    {dirs : Dirs δ} (hold : old.servers ≠ [])
    (h : (reconcileCloud env old new .Rebase rebaseData ord dirs).result = .ok c) :
    ∃ data cloud pairs, rebaseData = some data ∧
      RebaseOk env old new ord data cloud pairs
        (reconcileCloud env old new .Rebase rebaseData ord dirs).started c := by
  cases reconcileCloud_proceeded h with
  | first hempty _ => exact absurd (List.isEmpty_iff.mp hempty) hold
  | merged servers pairs dirs' _ hmerge hfinish hresult =>
      rw [hfinish]
      simp only [finish] at hresult ⊢
      split at hresult
      · cases hresult
      · rename_i cloud hcloud
        cases rebaseData with
        | none => cases hresult
        | some data =>
            simp only [deployRebase] at hresult ⊢
            split at hresult
            · cases hresult
            · rename_i hplanned
              exact ⟨data, cloud, pairs, rfl, ⟨servers, _, hmerge, hcloud⟩, hplanned, rfl,
                joinLoop_joined hresult⟩

theorem RebaseOk.cloud_names (h : RebaseOk env old new ord data cloud pairs started c) :
    cloud.names.Nodup := by
  obtain ⟨merged, taken, hmerge, hcloud⟩ := h.merge
  exact merged_names_nodup hmerge hcloud

theorem RebaseOk.ready (h : RebaseOk env old new ord data cloud pairs started c) :
    List.Forall₂ (PairReady cloud) (scheduledPairs old new ord.names)
      (refreshPairs cloud pairs) := by
  obtain ⟨merged, taken, hmerge, hcloud⟩ := h.merge
  exact pairs_ready hmerge hcloud

/-- The runs are those of the deployed pairs that have something to do. -/
theorem RebaseOk.mem_started (h : RebaseOk env old new ord data cloud pairs started c)
    {run : AnsibleRun} : run ∈ started ↔
      ∃ q ∈ refreshPairs cloud pairs, RunOf env.forms data q run := by
  rw [h.runs, mem_startRuns_iff, startRuns_all h.planned]

/-- What is deployed for a server that is scheduled under the name `n`. -/
structure Deployed (F : Forms) (data : List (String × RebaseData)) (started : List AnsibleRun)
    (o s m : KetServer) (n : String) : Prop where
  merge : ∃ merged, rebaseMerge o s = .ok merged ∧ Refreshed merged m
  name : m.name = n
  plan : ∃ actions, planActions F o m (data.lookup o.name) = .ok actions ∧
    ∀ run, (run ∈ started ∧ run.server.name = n) ↔
      actions ≠ [] ∧ run = ⟨m, actions, data.lookup o.name⟩

theorem RebaseOk.deployed (h : RebaseOk env old new ord data cloud pairs started c)
    {n : String} {o s : KetServer} (ho : old.collected n = some o)
    (hs : new.collected n = some s) (hstate : s.state = .Production) :
    ∃ m ∈ cloud.servers, Deployed env.forms data started o s m n := by
  have hn : n ∈ old.names := by
    rw [← Cloud.collected_isSome_iff, ho]
    rfl
  have hscheduled : (o, s) ∈ scheduledPairs old new ord.names :=
    mem_scheduledPairs.mpr ⟨n, (ord.enumerates.mem_iff n).mpr (.inl hn), ho, hs, hstate⟩
  obtain ⟨q, hq, hready⟩ := exists_right_of_mem h.ready hscheduled
  obtain ⟨q₁, m⟩ := q
  have hold : q₁ = o := hready.old
  subst hold
  have hname : m.name = n := ready_name hready ho hs
  have hplannable : plannable (q₁, m) = true := by
    have hall := startRuns_all h.planned
    exact List.mem_takeWhile_imp (hall.symm ▸ hq)
  obtain ⟨actions, hactions⟩ :
      ∃ actions, planActions env.forms q₁ m (data.lookup q₁.name) = .ok actions :=
    exists_planActions_ok_iff.mpr hplannable
  refine ⟨m, hready.mem, hready.merge, hname, actions, hactions, ?_⟩
  intro run
  rw [h.mem_started]
  constructor
  · rintro ⟨⟨q', hq', hplan, hne, hserver, hdata⟩, hrun⟩
    obtain ⟨p', hp', hready'⟩ := exists_left_of_mem h.ready hq'
    obtain ⟨n', _, ho', hs', _⟩ := mem_scheduledPairs.mp hp'
    have hn' : n' = n := by rw [← ready_name hready' ho' hs', ← hserver, hrun]
    subst hn'
    have hp : q'.1 = q₁ := by
      rw [hready'.old]
      exact Option.some.inj (ho'.symm.trans ho)
    have hm : q'.2 = m := List.inj_on_of_nodup_map h.cloud_names hready'.mem hready.mem
      (by rw [hname, ready_name hready' ho' hs'])
    rw [hp, hm] at hplan
    rw [hp] at hdata
    rw [hactions, Except.ok.injEq] at hplan
    refine ⟨hplan ▸ hne, ?_⟩
    cases run
    cases hserver
    cases hdata
    cases hplan
    cases hm
    rfl
  · rintro ⟨hne, rfl⟩
    exact ⟨⟨(q₁, m), hq, hactions, hne, rfl, rfl⟩, hname⟩

/-- A run was started for a server that both clouds have. -/
theorem RebaseOk.scheduled_of_run (h : RebaseOk env old new ord data cloud pairs started c)
    {run : AnsibleRun} (hrun : run ∈ started) :
    run.server ∈ cloud.servers ∧ ∃ o s, old.collected run.server.name = some o ∧
      new.collected run.server.name = some s ∧ s.state = .Production := by
  obtain ⟨q, hq, _, _, hserver, _⟩ := h.mem_started.mp hrun
  obtain ⟨p, hp, hready⟩ := exists_left_of_mem h.ready hq
  obtain ⟨n, _, ho, hs, hstate⟩ := mem_scheduledPairs.mp hp
  have hname : run.server.name = n := by rw [hserver, ready_name hready ho hs]
  rw [hserver] at hname ⊢
  subst hname
  exact ⟨hready.mem, p.1, p.2, ho, hs, hstate⟩

/-- The connection of a server after a Rebase that ended well. -/
theorem RebaseOk.conn (h : RebaseOk env old new ord data cloud pairs started c) {m x : KetServer}
    (hm : m ∈ cloud.servers) (hx : Joined env.remote (env.remote.order started) m x) :
    ((∀ run ∈ started, run.server.name ≠ m.name) ∧ x.ansibleConn = m.ansibleConn) ∨
      ∃ conn, m.ansibleConn = some conn ∧ x.ansibleConn = some (updatedConn m conn) := by
  rcases hx.conn with ⟨hnone, hconn⟩ | ⟨run, hrun, hname, conn, hjoin, hconn⟩
  · left
    refine ⟨fun run hrun => hnone run ((env.remote.perm started).mem_iff.mpr hrun), hconn⟩
  · right
    have hmem := (h.scheduled_of_run ((env.remote.perm started).mem_iff.mp hrun)).1
    have hserver : run.server = m := List.inj_on_of_nodup_map h.cloud_names hmem hm hname
    unfold joinRun at hjoin
    split at hjoin
    · cases hjoin
    · cases hjoin
    · cases hjoin
    · split at hjoin
      · cases hjoin
      · rename_i runConn hrunConn
        cases hjoin
        rw [hserver] at hrunConn hconn
        exact ⟨runConn, hrunConn, hconn⟩

/-- A server that the new cloud declares in production, after a Rebase that ended
well, with what was planned for it. -/
theorem RebaseOk.server (h : RebaseOk env old new ord data cloud pairs started c)
    {n : String} {o s : KetServer} (ho : old.collected n = some o)
    (hs : new.collected n = some s) (hstate : s.state = .Production) :
    ∃ m x, Deployed env.forms data started o s m n ∧ x ∈ c.servers ∧
      Joined env.remote (env.remote.order started) m x := by
  obtain ⟨m, hm, hdeployed⟩ := h.deployed ho hs hstate
  obtain ⟨x, hx, hjoined⟩ := exists_right_of_mem h.joined hm
  exact ⟨m, x, hdeployed, hx, hjoined⟩

end Rebase

section Connection

variable {env : ReconEnv δ} {mode : ReconMode} {old new c : Cloud} {ord : MergeOrder old new}
  {rebaseData : Option (List (String × RebaseData))} {dirs : Dirs δ}

/-- The connection of a server after a reconciliation that ended well: the one its
merge gave it, or the one its run stored. -/
inductive ConnOf (mode : ReconMode) (started : List AnsibleRun) (m x : KetServer) : Prop
  | merged (hrun : mode = .Rebase → ∀ run ∈ started, run.server.name ≠ x.name)
      (hconn : x.ansibleConn = m.ansibleConn)
  | joined (conn : AnsibleConn) (hmode : mode = .Rebase)
      (hrun : ∃ run ∈ started, run.server.name = x.name) (hm : m.ansibleConn = some conn)
      (hx : x.ansibleConn = some (updatedConn m conn))

theorem reconcileCloud_started_of_isEmpty (hold : old.servers = []) :
    (reconcileCloud env old new mode rebaseData ord dirs).started = [] := by
  unfold reconcileCloud
  rw [if_pos (List.isEmpty_iff.mpr hold)]

theorem finish_local_ok {merged : Cloud} {pairs : List (KetServer × KetServer)}
    (hmode : mode ≠ .Rebase)
    (h : (finish env mode rebaseData merged pairs dirs).result = .ok c) :
    prepareCloudflareState env.forms env.cf env.cfList merged = .ok c := by
  unfold finish at h
  split at h
  · cases h
  · rename_i cloud hcloud
    rw [hcloud]
    split at h
    · exact absurd rfl hmode
    · exact absurd rfl hmode
    · exact h

theorem RebaseOk.connOf {data : List (String × RebaseData)} {cloud : Cloud}
    {pairs : List (KetServer × KetServer)} {started : List AnsibleRun}
    (hok : RebaseOk env old new ord data cloud pairs started c) {x : KetServer}
    (hx : x ∈ c.servers) :
    ∃ m, Entry .Rebase old new x.name m ∧ Final m x ∧ ConnOf .Rebase started m x := by
  obtain ⟨merged, taken, hmerge, hcloud⟩ := hok.merge
  obtain ⟨m', hm', hjoined⟩ := exists_left_of_mem hok.joined hx
  obtain ⟨m, hm, hrefreshed⟩ := exists_left_of_mem (prepareCloudflareState_ok hcloud).2 hm'
  obtain ⟨n, _, hentry⟩ := exists_left_of_mem (mergeRound_ok hmerge) hm
  have hsame : x = { m' with ansibleConn := x.ansibleConn } := hjoined.same
  have hm'same := hrefreshed.same
  have hfinal : Final m x := by
    refine ⟨?_, ?_⟩
    · rw [hsame, hm'same]
    · rw [hsame]
      exact hrefreshed.state
  have hname : m'.name = x.name := by rw [hsame]
  have hconn : m'.ansibleConn = m.ansibleConn := by rw [hm'same]
  refine ⟨m, ?_, hfinal, ?_⟩
  · rw [hfinal.name, hentry.name]
    exact hentry
  · rcases hjoined.conn with ⟨hnone, hx'⟩ | ⟨run, hrun, hrunName, _⟩
    · refine .merged (fun _ run hrun => ?_) (hx'.trans hconn)
      rw [← hname]
      exact hnone run ((env.remote.perm _).mem_iff.mpr hrun)
    · rcases hok.conn hm' hjoined with ⟨hnone, _⟩ | ⟨conn, hmconn, hxconn⟩
      · exact absurd hrunName (hnone run ((env.remote.perm _).mem_iff.mp hrun))
      · refine .joined conn rfl ⟨run, (env.remote.perm _).mem_iff.mp hrun,
          hrunName.trans hname⟩ (hconn ▸ hmconn) ?_
        rw [hxconn, hm'same]
        rfl

theorem reconcileCloud_conn (hnew : new.names.Nodup)
    (h : (reconcileCloud env old new mode rebaseData ord dirs).result = .ok c) {x : KetServer}
    (hx : x ∈ c.servers) :
    ∃ m, Entry mode old new x.name m ∧ Final m x ∧
      ConnOf mode (reconcileCloud env old new mode rebaseData ord dirs).started m x := by
  cases reconcileCloud_proceeded h with
  | first hempty hcloud =>
      have hstarted : (reconcileCloud env old new mode rebaseData ord dirs).started = [] :=
        reconcileCloud_started_of_isEmpty (List.isEmpty_iff.mp hempty)
      obtain ⟨m, hm, hmx⟩ := exists_left_of_mem (prepareCloudflareState_ok hcloud).2 hx
      have hfinal := final_of_refreshed hmx
      refine ⟨m, ?_, hfinal, .merged (by rw [hstarted]; simp) ?_⟩
      · rw [hfinal.name]
        exact .added m (collected_eq_none_of_isEmpty hempty _) (Cloud.collected_of_mem hnew hm)
      · rw [hmx.same]
  | merged servers pairs dirs' hempty hmerge _ hresult =>
      by_cases hmode : mode = .Rebase
      · subst hmode
        have hold : old.servers ≠ [] := fun hnil => hempty (List.isEmpty_iff.mpr hnil)
        obtain ⟨data, cloud, pairs, _, hok⟩ := reconcileCloud_rebaseOk hold h
        exact hok.connOf hx
      · have hrefreshed := (prepareCloudflareState_ok (finish_local_ok hmode hresult)).2
        obtain ⟨m, hm, hmx⟩ := exists_left_of_mem hrefreshed hx
        obtain ⟨n, _, hentry⟩ := exists_left_of_mem (mergeRound_ok hmerge) hm
        have hfinal := final_of_refreshed hmx
        refine ⟨m, ?_, hfinal, .merged (fun hrebase => absurd hrebase hmode) ?_⟩
        · rw [hfinal.name, hentry.name]
          exact hentry
        · rw [hmx.same]

theorem reconcileCloud_old_nonempty {n : String} {o : KetServer} (ho : old.collected n = some o) :
    old.servers ≠ [] := by
  intro hnil
  rw [collected_eq_none_of_isEmpty (List.isEmpty_iff.mpr hnil)] at ho
  cases ho

/-- Runs are only started for servers of both clouds that are declared in
production. -/
theorem reconcileCloud_scheduled_of_run
    (h : (reconcileCloud env old new .Rebase rebaseData ord dirs).result = .ok c)
    {run : AnsibleRun}
    (hrun : run ∈ (reconcileCloud env old new .Rebase rebaseData ord dirs).started) :
    ∃ o s, old.collected run.server.name = some o ∧ new.collected run.server.name = some s ∧
      s.state = .Production := by
  by_cases hold : old.servers = []
  · rw [reconcileCloud_started_of_isEmpty hold] at hrun
    simp at hrun
  · obtain ⟨data, cloud, pairs, _, hok⟩ := reconcileCloud_rebaseOk hold h
    exact (hok.scheduled_of_run hrun).2

/-- A server of both clouds that is declared in production has no run when nothing
was planned for it. -/
theorem reconcileCloud_plan_of_no_run
    (h : (reconcileCloud env old new .Rebase rebaseData ord dirs).result = .ok c)
    {n : String} {o s : KetServer} (ho : old.collected n = some o)
    (hs : new.collected n = some s) (hstate : s.state = .Production)
    (hnone : ∀ run ∈ (reconcileCloud env old new .Rebase rebaseData ord dirs).started,
      run.server.name ≠ n) :
    ∃ data merged m, rebaseData = some data ∧ rebaseMerge o s = .ok merged ∧
      Refreshed merged m ∧ planActions env.forms o m (data.lookup o.name) = .ok [] := by
  obtain ⟨data, cloud, pairs, hdata, hok⟩ :=
    reconcileCloud_rebaseOk (reconcileCloud_old_nonempty ho) h
  obtain ⟨m, _, hdeployed⟩ := hok.deployed ho hs hstate
  obtain ⟨merged, hmerge, hrefreshed⟩ := hdeployed.merge
  obtain ⟨actions, hplan, hruns⟩ := hdeployed.plan
  refine ⟨data, merged, m, hdata, hmerge, hrefreshed, ?_⟩
  by_cases hactions : actions = []
  · rw [hplan, hactions]
  · obtain ⟨hrun, hname⟩ := (hruns ⟨m, actions, data.lookup o.name⟩).mpr ⟨hactions, rfl⟩
    exact absurd hname (hnone _ hrun)

end Connection

end Xcplane.JoinedRuns
