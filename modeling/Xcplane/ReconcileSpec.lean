import Xcplane.Reconcile
import Xcplane.Lib.Related

/-!
What a reconciliation that ended well returns: every server of the new cloud
once, either added or merged from the two declarations of its name.
-/

namespace Xcplane.ReconcileSpec

open Xcplane.Types
open Xcplane.Lib
open Xcplane.Cloudflare
open Xcplane.Merge
open Xcplane.Deploy
open Xcplane.Reconcile

variable {δ : Type}

inductive Entry (mode : ReconMode) (old new : Cloud) (n : String) : KetServer → Prop
  | added (s : KetServer) (hold : old.collected n = none) (hnew : new.collected n = some s) :
      Entry mode old new n s
  | common (o s m : KetServer) (hold : old.collected n = some o) (hnew : new.collected n = some s)
      (hmerged : Merged mode o s m) : Entry mode old new n m

structure Final (s s' : KetServer) : Prop where
  same : s' = { s with ansibleConn := s'.ansibleConn, cfstate := s'.cfstate }
  state : ∃ st, s'.cfstate = some st ∧ st.cloudflareOnly = cloudflareOnly s

structure Reconciled (mode : ReconMode) (old new c : Cloud) : Prop where
  settings : c.settings = new.settings
  names_nodup : c.names.Nodup
  mem_names : ∀ n, n ∈ c.names ↔ n ∈ new.names
  servers : ∀ s' ∈ c.servers, ∃ s, Entry mode old new s'.name s ∧ Final s s'

/-- Where both clouds declare the name, the entry is what a merge made of the two. -/
theorem Entry.merged {mode : ReconMode} {old new : Cloud} {n : String} {m o s : KetServer}
    (h : Entry mode old new n m) (ho : old.collected n = some o) (hs : new.collected n = some s) :
    Merged mode o s m := by
  cases h with
  | added _ hold _ =>
      rw [ho] at hold
      cases hold
  | common o' s' _ hold hnew hmerged =>
      rw [ho, Option.some.injEq] at hold
      rw [hs, Option.some.injEq] at hnew
      rwa [hold, hnew]

theorem Entry.name {mode : ReconMode} {old new : Cloud} {n : String} {m : KetServer}
    (h : Entry mode old new n m) : m.name = n := by
  cases h with
  | added _ _ hnew => exact (Cloud.collected_eq_some hnew).2
  | common o s _ hold hnew hmerged =>
      have ho := (Cloud.collected_eq_some hold).2
      have hs := (Cloud.collected_eq_some hnew).2
      rw [hmerged.name (ho.trans hs.symm), hs]

section Final

variable {s s' : KetServer}

theorem Final.name (h : Final s s') : s'.name = s.name := by rw [h.same]
theorem Final.domain (h : Final s s') : s'.domain = s.domain := by rw [h.same]
theorem Final.ip (h : Final s s') : s'.ip = s.ip := by rw [h.same]
theorem Final.state_eq (h : Final s s') : s'.state = s.state := by rw [h.same]
theorem Final.enabled (h : Final s s') : s'.enabled = s.enabled := by rw [h.same]
theorem Final.sshPort (h : Final s s') : s'.sshPort = s.sshPort := by rw [h.same]
theorem Final.inbounds (h : Final s s') : s'.inbounds = s.inbounds := by rw [h.same]
theorem Final.secrets (h : Final s s') : s'.secrets = s.secrets := by rw [h.same]

end Final

theorem final_of_refreshed {s s' : KetServer} (h : Refreshed s s') : Final s s' where
  same := by
    have hsame := h.same
    rw [hsame]
  state := h.state

theorem mergeRound_ok {mode : ReconMode} {old new : Cloud} {names : List String} {taken : Taken}
    {merged : List KetServer} {pairs : List (KetServer × KetServer)}
    (h : mergeRound mode old new names taken = .ok (merged, pairs)) :
    List.Forall₂ (Entry mode old new) (names.filter (· ∈ new.names)) merged := by
  induction names generalizing taken merged pairs with
  | nil =>
      cases h
      exact .nil
  | cons n rest ih =>
      rw [mergeRound] at h
      have hmem : n ∈ new.names ↔ (new.collected n).isSome = true :=
        Cloud.collected_isSome_iff.symm
      cases hold : old.collected n with
      | none =>
          cases hnew : new.collected n with
          | none =>
              rw [hold, hnew] at h
              cases h
          | some s =>
              rw [List.filter_cons_of_pos (by simp [hmem, hnew])]
              simp only [hold, hnew, ensure_bind_eq_ok_iff] at h
              obtain ⟨_, _, h⟩ := h
              obtain ⟨⟨merged', pairs'⟩, hrest, h⟩ := bind_eq_ok_iff.mp h
              cases h
              exact .cons (.added s hold hnew) (ih hrest)
      | some o =>
          cases hnew : new.collected n with
          | none =>
              rw [List.filter_cons_of_neg (by simp [hmem, hnew])]
              rw [hold, hnew] at h
              exact ih h
          | some s =>
              rw [List.filter_cons_of_pos (by simp [hmem, hnew])]
              simp only [hold, hnew] at h
              obtain ⟨m, hm, h⟩ := bind_eq_ok_iff.mp h
              obtain ⟨⟨merged', pairs'⟩, hrest, h⟩ := bind_eq_ok_iff.mp h
              cases h
              exact .cons (.common o s m hold hnew (mergeServer_ok hm)) (ih hrest)

/-- `s'` is `s` but for its connection. -/
def SameButConn (s s' : KetServer) : Prop :=
  s' = { s with ansibleConn := s'.ansibleConn }

theorem storeConn_same (cloud : Cloud) (name : String) (conn : AnsibleConn) :
    List.Forall₂ SameButConn cloud.servers (storeConn cloud name conn).servers := by
  rw [storeConn, List.forall₂_map_right_iff, List.forall₂_same]
  intro s _
  unfold SameButConn
  split
  · rfl
  · rfl

theorem SameButConn.trans {s t u : KetServer} (hst : SameButConn s t) (htu : SameButConn t u) :
    SameButConn s u := by
  unfold SameButConn at *
  rw [htu, hst]

theorem joinLoop_ok {remote : Remote} {runs : List AnsibleRun} {cloud cloud' : Cloud}
    (h : (joinLoop remote runs cloud).2 = .ok cloud') :
    cloud'.settings = cloud.settings ∧
      List.Forall₂ SameButConn cloud.servers cloud'.servers := by
  induction runs generalizing cloud with
  | nil =>
      cases h
      exact ⟨rfl, List.forall₂_same.mpr fun s _ => rfl⟩
  | cons run rest ih =>
      rw [joinLoop] at h
      cases hrun : joinRun remote run with
      | error e =>
          rw [hrun] at h
          cases h
      | ok conn =>
          rw [hrun] at h
          obtain ⟨hsettings, hservers⟩ := ih h
          exact ⟨hsettings, forall₂_comp (storeConn_same cloud run.server.name conn) hservers
            fun _ _ _ => SameButConn.trans⟩

theorem deployRebase_ok {F : Forms} {remote : Remote}
    {rebaseData : List (String × RebaseDiff.RebaseData)} {pairs : List (KetServer × KetServer)}
    {cloud cloud' : Cloud}
    (h : (deployRebase F remote rebaseData pairs cloud).result = .ok cloud') :
    cloud'.settings = cloud.settings ∧
      List.Forall₂ SameButConn cloud.servers cloud'.servers := by
  simp only [deployRebase] at h
  split at h
  · cases h
  · exact joinLoop_ok h

theorem finish_ok {env : ReconEnv δ} {mode : ReconMode}
    {rebaseData : Option (List (String × RebaseDiff.RebaseData))} {finalCloud c : Cloud}
    {pairs : List (KetServer × KetServer)} {dirs : Dirs δ}
    (h : (finish env mode rebaseData finalCloud pairs dirs).result = .ok c) :
    c.settings = finalCloud.settings ∧ List.Forall₂ Final finalCloud.servers c.servers := by
  unfold finish at h
  split at h
  · cases h
  · rename_i cloud hcloud
    obtain ⟨hsettings, hrefreshed⟩ := prepareCloudflareState_ok hcloud
    split at h
    · cases h
    · obtain ⟨hsettings', hsame⟩ := deployRebase_ok h
      refine ⟨hsettings'.trans hsettings, forall₂_comp hrefreshed hsame ?_⟩
      intro s t u hst htu
      have hsame := hst.same
      have hconn : u = { t with ansibleConn := u.ansibleConn } := htu
      refine ⟨?_, ?_⟩
      · rw [hconn, hsame]
      · rw [hconn]
        exact hst.state
    · cases h
      exact ⟨hsettings, hrefreshed.imp fun _ _ => final_of_refreshed⟩

theorem collected_eq_none_of_isEmpty {c : Cloud} (h : c.servers.isEmpty = true) (n : String) :
    c.collected n = none := by
  rw [Cloud.collected, List.isEmpty_iff.mp h]
  rfl

section Outcome

variable {env : ReconEnv δ} {old new c : Cloud} {mode : ReconMode}
  {rebaseData : Option (List (String × RebaseDiff.RebaseData))} {o : MergeOrder old new}
  {dirs : Dirs δ}

/-- How a reconciliation that ended well proceeded: it took the new cloud, there being
no server before, or it merged the two. -/
inductive Proceeded (env : ReconEnv δ) (old new : Cloud) (mode : ReconMode)
    (rebaseData : Option (List (String × RebaseDiff.RebaseData))) (o : MergeOrder old new)
    (dirs : Dirs δ) (c : Cloud) : Prop
  | first (hempty : old.servers.isEmpty = true)
      (hcloud : prepareCloudflareState env.forms env.cf env.cfList new = .ok c)
  | merged (servers : List KetServer) (pairs : List (KetServer × KetServer)) (dirs' : Dirs δ)
      (hempty : ¬ old.servers.isEmpty = true)
      (hmerge : mergeRound mode old new o.names
        (takenAfterDeletion old new o.names (takenBy old)) = .ok (servers, pairs))
      (hfinish : reconcileCloud env old new mode rebaseData o dirs =
        finish env mode rebaseData { servers, settings := new.settings } pairs dirs')
      (hresult : (finish env mode rebaseData { servers, settings := new.settings } pairs
        dirs').result = .ok c)

theorem reconcileCloud_proceeded
    (h : (reconcileCloud env old new mode rebaseData o dirs).result = .ok c) :
    Proceeded env old new mode rebaseData o dirs c := by
  by_cases hempty : old.servers.isEmpty = true
  · rw [reconcileCloud, if_pos hempty] at h
    exact .first hempty h
  · obtain ⟨out, hout⟩ : ∃ out, reconcileCloud env old new mode rebaseData o dirs = out :=
      ⟨_, rfl⟩
    rw [hout] at h
    rw [reconcileCloud, if_neg hempty] at hout
    split at hout
    · rw [← hout] at h
      cases h
    · rename_i dirs' hdeletion
      split at hout
      · rw [← hout] at h
        cases h
      · rename_i servers pairs hmerge
        refine .merged servers pairs dirs' hempty hmerge ?_ (hout ▸ h)
        rw [reconcileCloud, if_neg hempty, hdeletion]
        simp only [hmerge]

theorem reconciled_of_first (hnew : new.names.Nodup) (hempty : old.servers.isEmpty = true)
    (hcloud : prepareCloudflareState env.forms env.cf env.cfList new = .ok c) :
    Reconciled mode old new c := by
  obtain ⟨hsettings, hrefreshed⟩ := prepareCloudflareState_ok hcloud
  have hnames : new.names = c.names :=
    map_eq_of_forall₂ hrefreshed fun s s' hs => (final_of_refreshed hs).name.symm
  refine ⟨hsettings, hnames ▸ hnew, fun n => by rw [hnames], ?_⟩
  intro s' hs'
  obtain ⟨s, hs, hss'⟩ := exists_left_of_mem hrefreshed hs'
  refine ⟨s, ?_, final_of_refreshed hss'⟩
  rw [(final_of_refreshed hss').name]
  exact .added s (collected_eq_none_of_isEmpty hempty _) (Cloud.collected_of_mem hnew hs)

theorem reconciled_of_merged {servers : List KetServer} {pairs : List (KetServer × KetServer)}
    {taken : Taken} (hmerge : mergeRound mode old new o.names taken = .ok (servers, pairs))
    (hresult : (finish env mode rebaseData { servers, settings := new.settings } pairs
      dirs).result = .ok c) : Reconciled mode old new c := by
  have hentries := mergeRound_ok hmerge
  obtain ⟨hsettings, hfinal⟩ := finish_ok hresult
  have hnames : o.names.filter (· ∈ new.names) = c.names := by
    calc
      o.names.filter (· ∈ new.names) = (o.names.filter (· ∈ new.names)).map id := by simp
      _ = servers.map KetServer.name :=
        map_eq_of_forall₂ hentries fun n s hs => hs.name.symm
      _ = c.servers.map KetServer.name :=
        map_eq_of_forall₂ hfinal fun s s' hs => hs.name.symm
  refine ⟨hsettings, hnames ▸ o.enumerates.nodup.filter _, ?_, ?_⟩
  · intro n
    rw [← hnames, List.mem_filter, o.enumerates.mem_iff]
    simp only [decide_eq_true_eq]
    exact ⟨And.right, fun hn => ⟨.inr hn, hn⟩⟩
  · intro s' hs'
    obtain ⟨s, hs, hss'⟩ := exists_left_of_mem hfinal hs'
    obtain ⟨n, _, hn⟩ := exists_left_of_mem hentries hs
    refine ⟨s, ?_, hss'⟩
    rw [hss'.name, hn.name]
    exact hn

/-- What a reconciliation that ended well returns. -/
theorem reconcileCloud_ok (hnew : new.names.Nodup)
    (h : (reconcileCloud env old new mode rebaseData o dirs).result = .ok c) :
    Reconciled mode old new c := by
  cases reconcileCloud_proceeded h with
  | first hempty hcloud => exact reconciled_of_first hnew hempty hcloud
  | merged servers pairs dirs' _ hmerge _ hresult => exact reconciled_of_merged hmerge hresult

end Outcome

section Lookups

variable {mode : ReconMode} {old new c : Cloud} {n : String} {o s : KetServer}

/-- A declared server is in the cloud, as what its merge made of it. -/
theorem Reconciled.declared (h : Reconciled mode old new c) (hs : new.collected n = some s) :
    ∃ x ∈ c.servers, x.name = n ∧ ∃ m, Entry mode old new x.name m ∧ Final m x := by
  have hn : n ∈ c.names := by
    rw [h.mem_names, ← Cloud.collected_isSome_iff, hs]
    rfl
  obtain ⟨x, hx, hname⟩ := List.mem_map.mp hn
  exact ⟨x, hx, hname, h.servers x hx⟩

theorem Reconciled.added (h : Reconciled mode old new c) (ho : old.collected n = none)
    (hs : new.collected n = some s) : ∃ x ∈ c.servers, x.name = n ∧ Final s x := by
  obtain ⟨x, hx, rfl, m, hm, hmx⟩ := h.declared hs
  refine ⟨x, hx, rfl, ?_⟩
  cases hm with
  | added _ _ hs' =>
      rw [hs, Option.some.injEq] at hs'
      rwa [hs']
  | common o' _ _ ho' =>
      rw [ho] at ho'
      cases ho'

/-- The server that a reconciliation made of the two declarations of a name. -/
theorem Reconciled.common (h : Reconciled mode old new c) (ho : old.collected n = some o)
    (hs : new.collected n = some s) :
    ∃ x ∈ c.servers, x.name = n ∧ ∃ m, Merged mode o s m ∧ Final m x := by
  obtain ⟨x, hx, rfl, m, hm, hmx⟩ := h.declared hs
  exact ⟨x, hx, rfl, m, hm.merged ho hs, hmx⟩

theorem mergeRound_merges {names : List String} {taken : Taken}
    {result : List KetServer × List (KetServer × KetServer)}
    (h : mergeRound mode old new names taken = .ok result) (hn : n ∈ names)
    (ho : old.collected n = some o) (hs : new.collected n = some s) :
    ∃ m, mergeServer mode new.settings.inboundSet o s = .ok m := by
  induction names generalizing taken result with
  | nil => simp at hn
  | cons x rest ih =>
      rw [mergeRound] at h
      rcases List.mem_cons.mp hn with rfl | hn
      · simp only [ho, hs] at h
        obtain ⟨m, hm, _⟩ := bind_eq_ok_iff.mp h
        exact ⟨m, hm⟩
      · split at h
        · simp only [ensure_bind_eq_ok_iff] at h
          obtain ⟨_, _, h⟩ := h
          obtain ⟨_, hrest, _⟩ := bind_eq_ok_iff.mp h
          exact ih hrest hn
        · obtain ⟨_, _, h⟩ := bind_eq_ok_iff.mp h
          obtain ⟨_, hrest, _⟩ := bind_eq_ok_iff.mp h
          exact ih hrest hn
        · exact ih h hn
        · cases h

/-- A reconciliation that ended well merged every server of both clouds. -/
theorem reconcileCloud_merges {env : ReconEnv δ}
    {rebaseData : Option (List (String × RebaseDiff.RebaseData))} {ord : MergeOrder old new}
    {dirs : Dirs δ} (h : (reconcileCloud env old new mode rebaseData ord dirs).result = .ok c)
    (ho : old.collected n = some o) (hs : new.collected n = some s) :
    ∃ m, mergeServer mode new.settings.inboundSet o s = .ok m := by
  cases reconcileCloud_proceeded h with
  | first hempty _ =>
      rw [collected_eq_none_of_isEmpty hempty] at ho
      cases ho
  | merged servers pairs dirs' _ hmerge _ _ =>
      have hn : n ∈ old.names := by
        rw [← Cloud.collected_isSome_iff, ho]
        rfl
      exact mergeRound_merges hmerge ((ord.enumerates.mem_iff n).mpr (.inl hn)) ho hs

end Lookups

end Xcplane.ReconcileSpec
