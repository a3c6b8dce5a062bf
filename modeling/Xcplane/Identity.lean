import Xcplane.DaemonCycle
import Xcplane.DatabaseSpec
import Xcplane.ReconcileSpec
import Xcplane.Specimen
import Xcplane.Lib.Trace

/-!
The identity of a provisioned server over runs of the daemon: its secrets and the
mother sub-IDs of its inbounds survive every reconciliation and every restart.
-/

namespace Xcplane.Identity

open Xcplane.Types
open Xcplane.Lib
open Xcplane.Merge
open Xcplane.Database
open Xcplane.DatabaseSpec
open Xcplane.CloudConfig
open Xcplane.Reconcile
open Xcplane.ReconcileSpec
open Xcplane.DaemonCycle

variable {δ : Type}

/-- The secrets that stay with a server for its lifetime. -/
structure Credentials where
  dohEndpoint : String
  xuiUsername : String
  xuiPassword : String
  xuiToken : Option String
  xuiWebpath : String
  xuiSubpath : String
  xuiJsubpath : String
  deriving DecidableEq, Repr

def credentials (s : KetServer) : Credentials where
  dohEndpoint := s.secrets.dohEndpoint
  xuiUsername := s.secrets.xuiUsername
  xuiPassword := s.secrets.xuiPassword
  xuiToken := s.secrets.xuiToken
  xuiWebpath := s.secrets.xuiWebpath
  xuiSubpath := s.secrets.xuiSubpath
  xuiJsubpath := s.secrets.xuiJsubpath

def rowCredentials (r : ServerRow) : Credentials where
  dohEndpoint := r.dohEndpoint
  xuiUsername := r.xuiUsername
  xuiPassword := r.xuiPassword
  xuiToken := r.xuiToken
  xuiWebpath := r.xuiWebpath
  xuiSubpath := r.xuiSubpath
  xuiJsubpath := r.xuiJsubpath

abbrev Subids := String → Option String

/-- The server has these credentials, and an inbound of it that is followed has its
mother sub-ID. -/
structure Carries (who : Credentials) (subids : Subids) (s : KetServer) : Prop where
  credentials : credentials s = who
  subids : ∀ i subid, subids i = some subid → i ∈ s.inboundNames →
    s.secrets.motherSubid i = some subid

def CloudCarries (n : String) (who : Credentials) (subids : Subids) (c : Cloud) : Prop :=
  ∀ s ∈ c.servers, s.name = n → Carries who subids s

/-- The database holds the identity. -/
structure Recorded (n : String) (who : Credentials) (subids : Subids) (db : Db) : Prop where
  row : ∃ r, db.servers.find n = some r ∧ rowCredentials r = who
  inbounds : ∀ i subid, subids i = some subid → ∀ r, db.inbounds.find (n, i) = some r →
    r.motherSubid = subid

def RecordedOffgrid (n : String) (db : Db) : Prop :=
  ∃ r, db.servers.find n = some r ∧ r.state = ServerState.Offgrid.toText

section Writing

variable {F : Forms} {n : String} {who : Credentials} {subids : Subids} {c : Cloud} {stmt : Stmt}
  {db db' : Db}

/-- Writing a cloud that has the server leaves its row or replaces it by the one
of the cloud. -/
theorem exec_find_server {row : ServerRow} (hn : n ∈ c.names) (hw : Writes F c stmt)
    (hexec : exec stmt db = .ok db') (hrow : db.servers.find n = some row) :
    ∃ row', db'.servers.find n = some row' ∧
      (row' = row ∨ ∃ s ∈ c.servers, s.name = n ∧ row' = serverRow F s) := by
  cases hw with
  | setOption key value =>
      cases hexec
      exact ⟨row, hrow, .inl rfl⟩
  | deleteServers =>
      cases hexec
      refine ⟨row, ?_, .inl rfl⟩
      show (db.servers.retain fun r => c.names.contains r.name).find n = some row
      rw [KeyedTable.find_retain_of_keep, hrow]
      intro r hr
      have hname : r.name = n := KeyedTable.key_of_find hr
      simpa [hname] using hn
  | server s hs =>
      obtain rfl := exec_upsertServer hexec
      rcases eq_or_ne n s.name with rfl | hne
      · exact ⟨_, KeyedTable.find_upsert_self db.servers (serverRow F s), .inr ⟨s, hs, rfl, rfl⟩⟩
      · exact ⟨row, by rw [← hrow]; exact KeyedTable.find_upsert_of_ne _ hne, .inl rfl⟩
  | deleteInbounds server names =>
      cases hexec
      exact ⟨row, hrow, .inl rfl⟩
  | inbound s hs inb hinb subid hsubid =>
      obtain rfl := exec_upsertInbound hexec
      exact ⟨row, hrow, .inl rfl⟩
  | deleteStats server services =>
      cases hexec
      exact ⟨row, hrow, .inl rfl⟩
  | stat server service =>
      obtain rfl := exec_insertStat hexec
      exact ⟨row, hrow, .inl rfl⟩

theorem exec_find_inbound {i : String} {row : InboundRow} (hw : Writes F c stmt)
    (hexec : exec stmt db = .ok db') (hrow : db'.inbounds.find (n, i) = some row) :
    db.inbounds.find (n, i) = some row ∨ ∃ s ∈ c.servers, s.name = n ∧ i ∈ s.inboundNames ∧
      s.secrets.motherSubid i = some row.motherSubid := by
  cases hw with
  | setOption key value =>
      cases hexec
      exact .inl hrow
  | deleteServers =>
      cases hexec
      rw [KeyedTable.find_retain, Option.filter_eq_some_iff] at hrow
      exact .inl hrow.1
  | server s hs =>
      obtain rfl := exec_upsertServer hexec
      exact .inl hrow
  | deleteInbounds server names =>
      cases hexec
      rw [KeyedTable.find_retain, Option.filter_eq_some_iff] at hrow
      exact .inl hrow.1
  | inbound s hs inb hinb subid hsubid =>
      obtain rfl := exec_upsertInbound hexec
      rw [KeyedTable.find_upsert] at hrow
      split at hrow
      · rename_i hid
        obtain ⟨hname, hgroup⟩ := Prod.mk.inj hid
        obtain rfl : n = s.name := hname
        obtain rfl : i = inb.name := hgroup
        cases hrow
        exact .inr ⟨s, hs, rfl, List.mem_map_of_mem hinb, hsubid⟩
      · exact .inl hrow
  | deleteStats server services =>
      cases hexec
      exact .inl hrow
  | stat server service =>
      obtain rfl := exec_insertStat hexec
      exact .inl hrow

theorem exec_recorded (hn : n ∈ c.names) (hc : CloudCarries n who subids c)
    (hw : Writes F c stmt) (h : Recorded n who subids db) (hexec : exec stmt db = .ok db') :
    Recorded n who subids db' := by
  obtain ⟨row, hrow, hwho⟩ := h.row
  obtain ⟨row', hrow', heq⟩ := exec_find_server hn hw hexec hrow
  refine ⟨⟨row', hrow', ?_⟩, ?_⟩
  · rcases heq with rfl | ⟨s, hs, hname, rfl⟩
    · exact hwho
    · exact (hc s hs hname).credentials
  · intro i subid hsubid r hr
    rcases exec_find_inbound hw hexec hr with hbefore | ⟨s, hs, hname, hi, hcarried⟩
    · exact h.inbounds i subid hsubid r hbefore
    · rw [(hc s hs hname).subids i subid hsubid hi] at hcarried
      exact (Option.some.inj hcarried).symm

theorem recorded_createDb (h : Recorded n who subids db) : Recorded n who subids (createDb db) :=
  ⟨h.row, h.inbounds⟩

theorem exec_offgrid (hn : n ∈ c.names)
    (hc : ∀ s ∈ c.servers, s.name = n → s.state = .Offgrid) (hw : Writes F c stmt)
    (h : RecordedOffgrid n db) (hexec : exec stmt db = .ok db') : RecordedOffgrid n db' := by
  obtain ⟨row, hrow, hstate⟩ := h
  obtain ⟨row', hrow', heq⟩ := exec_find_server hn hw hexec hrow
  refine ⟨row', hrow', ?_⟩
  rcases heq with rfl | ⟨s, hs, hname, rfl⟩
  · exact hstate
  · show s.state.toText = _
    rw [hc s hs hname]

end Writing

section Merging

variable {mode : ReconMode} {o s m : KetServer} {n : String} {who : Credentials}
  {subids : Subids} {old new c : Cloud}

theorem merged_carries (h : Merged mode o s m) (ho : o.state = .Production)
    (hcarries : Carries who subids o)
    (hkept : mode = .Reload ∨ ∀ i subid, subids i = some subid → i ∈ o.inboundNames) :
    Carries who subids m := by
  have hall : mode ≠ .Reload → ∀ i subid, subids i = some subid →
      o.secrets.motherSubid i = some subid := by
    intro hmode i subid hsubid
    exact hcarries.subids i subid hsubid (hkept.resolve_left hmode i subid hsubid)
  cases h with
  | replaced _ hold =>
      rw [ho] at hold
      cases hold
  | kept => exact ⟨hcarries.credentials, hcarries.subids⟩
  | remapped hremaps =>
      have hmode : mode ≠ .Reload := by
        rintro rfl
        simp [remaps] at hremaps
      exact ⟨hcarries.credentials, fun i subid hsubid _ => hall hmode i subid hsubid⟩
  | rebased hrebases =>
      have hmode : mode ≠ .Reload := by
        rintro rfl
        simp [rebases] at hrebases
      refine ⟨hcarries.credentials, ?_⟩
      intro i subid hsubid _
      show (rebasedSecrets o s).motherSubid i = some subid
      rw [rebasedSecrets_motherSubid, hall hmode i subid hsubid, Option.some_or]

theorem merged_offgrid (h : Merged .Reload o s m) (ho : o.state = .Offgrid) :
    m.state = .Offgrid := by
  cases h with
  | replaced _ _ hnew => exact hnew
  | kept => exact ho
  | remapped hremaps => simp [remaps] at hremaps
  | rebased hrebases => simp [rebases] at hrebases

theorem reconciled_merged (hrec : Reconciled mode old new c) (hn : n ∈ old.names)
    (hs : s ∈ c.servers) (hname : s.name = n) :
    ∃ o ∈ old.servers, o.name = n ∧ ∃ s' m, Merged mode o s' m ∧ Final m s := by
  obtain ⟨m, hentry, hfinal⟩ := hrec.servers s hs
  rw [hname] at hentry
  cases hentry with
  | added _ hold _ =>
      have hsome := Cloud.collected_isSome_iff.mpr hn
      rw [hold] at hsome
      cases hsome
  | common o s' _ hold _ hmerged =>
      obtain ⟨homem, honame⟩ := Cloud.collected_eq_some hold
      exact ⟨o, homem, honame, s', m, hmerged, hfinal⟩

structure Held (mode : ReconMode) (n : String) (who : Credentials) (subids : Subids)
    (old : Cloud) : Prop where
  mem : n ∈ old.names
  state : ∀ o ∈ old.servers, o.name = n → o.state = .Production
  carries : CloudCarries n who subids old
  inbounds : mode = .Reload ∨ ∀ o ∈ old.servers, o.name = n → ∀ i subid,
    subids i = some subid → i ∈ o.inboundNames

theorem reconciled_carries (hrec : Reconciled mode old new c) (h : Held mode n who subids old) :
    CloudCarries n who subids c := by
  intro s hs hname
  obtain ⟨o, ho, honame, s', m, hmerged, hfinal⟩ := reconciled_merged hrec h.mem hs hname
  have hm := merged_carries hmerged (h.state o ho honame) (h.carries o ho honame)
    (h.inbounds.imp id fun hkept => hkept o ho honame)
  refine ⟨?_, ?_⟩
  · rw [← hm.credentials, credentials, credentials, hfinal.secrets]
  · intro i subid hsubid hi
    rw [KetServer.inboundNames, hfinal.inbounds] at hi
    rw [hfinal.secrets]
    exact hm.subids i subid hsubid hi

theorem reconciled_offgrid (hrec : Reconciled .Reload old new c) (hn : n ∈ old.names)
    (hold : ∀ o ∈ old.servers, o.name = n → o.state = .Offgrid) :
    ∀ s ∈ c.servers, s.name = n → s.state = .Offgrid := by
  intro s hs hname
  obtain ⟨o, ho, honame, s', m, hmerged, hfinal⟩ := reconciled_merged hrec hn hs hname
  rw [hfinal.state_eq]
  exact merged_offgrid hmerged (hold o ho honame)

end Merging

section Loading

variable {F : Forms} {db : Db} {c : Cloud} {n : String} {who : Credentials} {subids : Subids}

theorem loaded_of_row (h : loadCloud F db = .ok c) {row : ServerRow}
    (hrow : db.servers.find n = some row) {s : KetServer} (hs : s ∈ c.servers)
    (hname : s.name = n) : LoadedFrom db row s := by
  obtain ⟨row', hrow', hloaded⟩ := exists_left_of_mem (loadCloud_ok h) hs
  have hfind := KeyedTable.mem_rows_iff.mp hrow'
  rw [← hloaded.name, hname, hrow, Option.some.injEq] at hfind
  rwa [hfind]

theorem loaded_mem_names (h : loadCloud F db = .ok c) {row : ServerRow}
    (hrow : db.servers.find n = some row) : n ∈ c.names := by
  obtain ⟨s, hs, hloaded⟩ := exists_right_of_mem (loadCloud_ok h) (KeyedTable.mem_of_find hrow)
  have hname : row.name = n := KeyedTable.key_of_find hrow
  rw [← hname, ← hloaded.name]
  exact Cloud.mem_names hs

theorem loaded_carries (h : loadCloud F db = .ok c) (hrec : Recorded n who subids db) :
    CloudCarries n who subids c := by
  intro s hs hname
  obtain ⟨row, hrow, hwho⟩ := hrec.row
  have hloaded := loaded_of_row h hrow hs hname
  have hrowName : row.name = n := KeyedTable.key_of_find hrow
  refine ⟨?_, ?_⟩
  · rw [← hwho, credentials, hloaded.secrets]
    rfl
  · intro i subid hsubid hi
    obtain ⟨r, hr⟩ := hloaded.mem_inboundNames_iff.mp hi
    rw [hloaded.secrets, motherSubid_loadSecrets, hr]
    rw [hrowName] at hr
    exact congrArg some (hrec.inbounds i subid hsubid r hr)

theorem loaded_state (h : loadCloud F db = .ok c) {row : ServerRow}
    (hrow : db.servers.find n = some row) {s : KetServer} (hs : s ∈ c.servers)
    (hname : s.name = n) : row.state = s.state.toText :=
  ServerState.eq_toText_of_ofText (loaded_of_row h hrow hs hname).state

end Loading

section Conditions

/-- Every config file that is accepted declares the server. -/
def InConfig (n : String) (_ : Daemon δ) (e : Event δ) : Prop :=
  ∀ new, e.declares new → n ∈ new.names

def StaysProduction (n : String) (d : Daemon δ) (e : Event δ) : Prop :=
  ∀ c, (step d e).cloud = some c → ∀ s ∈ c.servers, s.name = n → s.state = .Production

def KeepsInbound (n i : String) (d : Daemon δ) (e : Event δ) : Prop :=
  ∀ c, (step d e).cloud = some c → ∀ s ∈ c.servers, s.name = n → i ∈ s.inboundNames

/-- What a daemon with the followed server in production is known to hold. -/
structure Running (n : String) (who : Credentials) (subids : Subids) (c : Cloud) (db : Db) :
    Prop where
  mem : n ∈ c.names
  state : ∀ s ∈ c.servers, s.name = n → s.state = .Production
  carries : CloudCarries n who subids c
  inbounds : ∀ s ∈ c.servers, s.name = n → ∀ i subid, subids i = some subid →
    i ∈ s.inboundNames
  recorded : Recorded n who subids db

/-- The invariant along a run that keeps the server. -/
def Followed (n : String) (who : Credentials) (subids : Subids) (d : Daemon δ) : Prop :=
  match d.cloud with
  | some c => Running n who subids c d.db
  | none => Recorded n who subids d.db ∨ RecordedOffgrid n d.db

/-- The cloud that a step leaves has the server in production with its inbounds. -/
structure Kept (n : String) (subids : Subids) (d' : Daemon δ) : Prop where
  state : ∀ c, d'.cloud = some c → ∀ s ∈ c.servers, s.name = n → s.state = .Production
  inbounds : ∀ c, d'.cloud = some c → ∀ s ∈ c.servers, s.name = n → ∀ i subid,
    subids i = some subid → i ∈ s.inboundNames

variable {n : String} {who : Credentials} {subids : Subids} {w : Surroundings δ}
  {next : DaemonNext} {old : Cloud} {db : Db} {dirs : Dirs δ} {d : Daemon δ} {e : Event δ}

theorem daemonCore_followed (hnew : next.newCloud.names.Nodup) (hn : n ∈ next.newCloud.names)
    (hheld : Held next.mode n who subids old) (hdb : Recorded n who subids db)
    (hkept : Kept n subids (daemonCore w next old db dirs)) :
    Followed n who subids (daemonCore w next old db dirs) := by
  obtain ⟨hstate, hinbounds⟩ := hkept
  have hreconciled : ∀ c, (reconcileCloud w.env old next.newCloud next.mode next.rebaseData
      (w.order old next.newCloud) dirs).result = .ok c → n ∈ c.names ∧
        CloudCarries n who subids c ∧
        Recorded n who subids (updateDb w.env.forms w.fault w.cloudConfig c db).1 := by
    intro c hresult
    have hrec := reconcileCloud_ok hnew hresult
    have hmem : n ∈ c.names := (hrec.mem_names n).mpr hn
    have hcarries := reconciled_carries hrec hheld
    exact ⟨hmem, hcarries,
      updateDb_preserves (fun stmt db db' => exec_recorded hmem hcarries) _ _ hdb⟩
  cases daemonCore_cycled w next old db dirs with
  | failed e _ hd =>
      rw [hd] at hinbounds ⊢
      exact ⟨hheld.mem, hheld.state, hheld.carries, hinbounds old rfl, hdb⟩
  | stopped c db' e hresult hupdate hd =>
      obtain ⟨_, _, hwritten⟩ := hreconciled c hresult
      rw [hupdate] at hwritten
      rw [hd]
      exact .inl hwritten
  | applied c db' hresult hupdate hd =>
      obtain ⟨hmem, hcarries, hwritten⟩ := hreconciled c hresult
      rw [hupdate] at hwritten
      rw [hd] at hstate hinbounds ⊢
      exact ⟨hmem, hstate c rfl, hcarries, hinbounds c rfl, hwritten⟩

theorem daemonCore_offgrid (hnew : next.newCloud.names.Nodup) (hn : n ∈ next.newCloud.names)
    (hmode : next.mode = .Reload) (hmem : n ∈ old.names)
    (hold : ∀ o ∈ old.servers, o.name = n → o.state = .Offgrid) (hdb : RecordedOffgrid n db)
    (hkept : Kept n subids (daemonCore w next old db dirs)) :
    Followed n who subids (daemonCore w next old db dirs) := by
  have hcontra : ∀ c : Cloud, n ∈ c.names →
      (∀ s ∈ c.servers, s.name = n → s.state = .Offgrid) →
      ¬ ∀ s ∈ c.servers, s.name = n → s.state = .Production := by
    intro c hc hoffgrid hproduction
    obtain ⟨s, hs, hname⟩ := List.mem_map.mp hc
    have hstate := hoffgrid s hs hname
    rw [hproduction s hs hname] at hstate
    cases hstate
  have hstate := hkept.state
  have hreconciled : ∀ c, (reconcileCloud w.env old next.newCloud next.mode next.rebaseData
      (w.order old next.newCloud) dirs).result = .ok c → n ∈ c.names ∧
        (∀ s ∈ c.servers, s.name = n → s.state = .Offgrid) := by
    intro c hresult
    have hrec := reconcileCloud_ok hnew hresult
    rw [hmode] at hrec
    exact ⟨(hrec.mem_names n).mpr hn, reconciled_offgrid hrec hmem hold⟩
  cases daemonCore_cycled w next old db dirs with
  | failed e _ hd =>
      rw [hd] at hstate
      exact absurd (hstate old rfl) (hcontra old hmem hold)
  | stopped c db' e hresult hupdate hd =>
      obtain ⟨hmem', hoffgrid⟩ := hreconciled c hresult
      have hwritten : RecordedOffgrid n (updateDb w.env.forms w.fault w.cloudConfig c db).1 :=
        updateDb_preserves (fun stmt db db' => exec_offgrid hmem' hoffgrid) _ _ hdb
      rw [hupdate] at hwritten
      rw [hd]
      exact .inr hwritten
  | applied c db' hresult _ hd =>
      obtain ⟨hmem', hoffgrid⟩ := hreconciled c hresult
      rw [hd] at hstate
      exact absurd (hstate c rfl) (hcontra c hmem' hoffgrid)

theorem startDaemon_followed {config : TCloud}
    (hdb : Recorded n who subids d.db ∨ RecordedOffgrid n d.db)
    (hn : ∀ new, parseCloudConfig w.env.forms w.draws config = .ok new → n ∈ new.names)
    (hkept : Kept n subids (startDaemon w config d)) :
    Followed n who subids (startDaemon w config d) := by
  cases startDaemon_began w config d with
  | unparsed hd =>
      rw [hd]
      exact hdb
  | unloaded hd =>
      rw [hd]
      exact hdb.imp recorded_createDb id
  | cycled new old hparse hload hd =>
      rw [hd] at hkept ⊢
      have hnames := (parseCloudConfig_distinct hparse).names
      obtain ⟨row, hrow⟩ : ∃ row, (createDb d.db).servers.find n = some row := by
        rcases hdb with hdb | ⟨row, hrow, _⟩
        · obtain ⟨row, hrow, _⟩ := hdb.row
          exact ⟨row, hrow⟩
        · exact ⟨row, hrow⟩
      have hmem : n ∈ old.names := loaded_mem_names hload hrow
      have hstate : ∀ s ∈ old.servers, s.name = n → row.state = s.state.toText :=
        fun s hs hname => loaded_state hload hrow hs hname
      rcases Classical.em (row.state = ServerState.Offgrid.toText) with hoff | hoff
      · -- Reload leaves the server unprovisioned, which the run excludes.
        refine daemonCore_offgrid hnames (hn new hparse) rfl hmem ?_ ⟨row, hrow, hoff⟩ hkept
        intro s hs hname
        rw [hstate s hs hname] at hoff
        cases hs' : s.state with
        | Offgrid => rfl
        | Production =>
            rw [hs'] at hoff
            exact absurd hoff (by decide)
      · have hrecorded : Recorded n who subids (createDb d.db) := by
          rcases hdb with hdb | ⟨row', hrow', hoff'⟩
          · exact recorded_createDb hdb
          · obtain rfl : row = row' := Option.some.inj (hrow.symm.trans hrow')
            exact absurd hoff' hoff
        refine daemonCore_followed hnames (hn new hparse) ?_ hrecorded hkept
        refine ⟨hmem, ?_, loaded_carries hload hrecorded, .inl rfl⟩
        intro s hs hname
        cases hs' : s.state with
        | Production => rfl
        | Offgrid =>
            rw [hstate s hs hname, hs'] at hoff
            exact absurd rfl hoff

theorem step_followed (h : Followed n who subids d) (hconfig : InConfig n d e)
    (hkept : Kept n subids (step d e)) : Followed n who subids (step d e) := by
  have hdb : Recorded n who subids d.db ∨ RecordedOffgrid n d.db := by
    unfold Followed at h
    split at h
    · exact .inl h.recorded
    · exact h
  cases e with
  | stop => exact hdb
  | start w config => exact startDaemon_followed hdb hconfig hkept
  | command w config command =>
      rw [step] at hkept ⊢
      cases answer_commanded w config command d with
      | off _ hd =>
          rw [hd]
          exact h
      | refused curr e _ _ hd =>
          rw [hd]
          exact h
      | accepted curr next hcloud hcheck hd =>
          rw [hd] at hkept ⊢
          have hparse := checkAndBackup_parsed hcheck
          unfold Followed at h
          rw [hcloud] at h
          exact daemonCore_followed (parseCloudConfig_distinct hparse).names
            (hconfig _ hparse) ⟨h.mem, h.state, h.carries, .inr h.inbounds⟩
            (recorded_createDb h.recorded) hkept

end Conditions

section Reachable

def ownSubids (s : KetServer) : Subids := fun i =>
  if i ∈ s.inboundNames then s.secrets.motherSubid i else none

/-- What is known of the cloud of a running daemon and its database. -/
structure Sound (c : Cloud) (db : Db) : Prop where
  names : c.names.Nodup
  inboundNames : ∀ s ∈ c.servers, s.inboundNames.Nodup
  subids : c.HasSubids
  recorded : ∀ s ∈ c.servers, Recorded s.name (credentials s) (ownSubids s) db

def SoundDaemon (d : Daemon δ) : Prop :=
  ∀ c, d.cloud = some c → Sound c d.db

variable {F : Forms} {n : String} {w : Surroundings δ} {next : DaemonNext} {old c : Cloud}
  {db db' : Db} {dirs : Dirs δ} {d : Daemon δ} {e : Event δ}

theorem sound_createDb (h : Sound c db) : Sound c (createDb db) where
  names := h.names
  inboundNames := h.inboundNames
  subids := h.subids
  recorded s hs := recorded_createDb (h.recorded s hs)

theorem sound_of_load (h : loadCloud F db = .ok c) : Sound c db where
  names := by
    have hnames : db.servers.rows.map ServerRow.name = c.names :=
      map_eq_of_forall₂ (loadCloud_ok h) fun row s hs => hs.name.symm
    rw [← hnames]
    exact db.servers.keys_nodup
  inboundNames s hs := by
    obtain ⟨row, _, hloaded⟩ := exists_left_of_mem (loadCloud_ok h) hs
    exact hloaded.inboundNames_nodup
  subids s hs inb hinb := by
    obtain ⟨row, _, hloaded⟩ := exists_left_of_mem (loadCloud_ok h) hs
    obtain ⟨r, hr⟩ := hloaded.mem_inboundNames_iff.mp (List.mem_map_of_mem hinb)
    rw [hloaded.secrets, motherSubid_loadSecrets, hr]
    rfl
  recorded s hs := by
    obtain ⟨row, hrow, hloaded⟩ := exists_left_of_mem (loadCloud_ok h) hs
    refine ⟨⟨row, ?_, ?_⟩, ?_⟩
    · rw [hloaded.name]
      exact KeyedTable.mem_rows_iff.mp hrow
    · rw [credentials, hloaded.secrets]
      rfl
    · intro i subid hsubid r hr
      unfold ownSubids at hsubid
      split at hsubid
      · rw [hloaded.name] at hr
        rw [hloaded.secrets, motherSubid_loadSecrets, hr] at hsubid
        exact Option.some.inj hsubid
      · cases hsubid

theorem sound_of_holds (hnames : c.names.Nodup)
    (hinb : ∀ s ∈ c.servers, s.inboundNames.Nodup) (hsubids : c.HasSubids)
    (h : Holds F c db) : Sound c db where
  names := hnames
  inboundNames := hinb
  subids := hsubids
  recorded s hs := by
    refine ⟨⟨serverRow F s, ?_, rfl⟩, ?_⟩
    · refine KeyedTable.find_eq_some_iff.mpr ⟨?_, rfl⟩
      exact h.servers.mem_iff.mpr (List.mem_map_of_mem hs)
    · intro i subid hsubid r hr
      unfold ownSubids at hsubid
      split at hsubid
      · rename_i hi
        obtain ⟨inb, hinbMem, rfl⟩ := List.mem_map.mp hi
        have hrow := (h.inbounds s hs).1 _ (List.mem_map_of_mem hinbMem)
        rw [hsubid] at hrow
        have heq := Option.some.inj (hr.symm.trans hrow)
        rw [heq]
        rfl
      · cases hsubid

theorem reconciled_inboundNames {mode : ReconMode} (hrec : Reconciled mode old next.newCloud c)
    (hold : ∀ s ∈ old.servers, s.inboundNames.Nodup)
    (hnew : ∀ s ∈ next.newCloud.servers, s.inboundNames.Nodup) :
    ∀ s ∈ c.servers, s.inboundNames.Nodup := by
  intro s hs
  obtain ⟨m, hentry, hfinal⟩ := hrec.servers s hs
  rw [KetServer.inboundNames, hfinal.inbounds]
  cases hentry with
  | added _ _ hdeclared => exact hnew _ (Cloud.collected_eq_some hdeclared).1
  | common o s' _ ho hs' hmerged =>
      rcases hmerged.inbounds with heq | heq
      · rw [heq]
        exact hold _ (Cloud.collected_eq_some ho).1
      · rw [heq]
        exact hnew _ (Cloud.collected_eq_some hs').1

theorem daemonCore_sound (hnew : next.newCloud.names.Nodup)
    (hinb : ∀ s ∈ next.newCloud.servers, s.inboundNames.Nodup) (hold : Sound old (createDb db))
    (hc : (daemonCore w next old (createDb db) dirs).cloud = some c) :
    Sound c (daemonCore w next old (createDb db) dirs).db := by
  cases daemonCore_cycled w next old (createDb db) dirs with
  | failed e _ hd =>
      rw [hd] at hc ⊢
      cases hc
      exact hold
  | stopped c' db' e _ _ hd =>
      rw [hd] at hc
      cases hc
  | applied c' db' hresult hupdate hd =>
      rw [hd] at hc ⊢
      cases hc
      have hrec := reconcileCloud_ok hnew hresult
      have hinbounds := reconciled_inboundNames hrec hold.inboundNames hinb
      exact sound_of_holds hrec.names_nodup hinbounds (hasSubids_of_updateDb hupdate)
        (updateDb_holds hrec.names_nodup hinbounds hupdate)

theorem step_sound (d : Daemon δ) (e : Event δ) (h : SoundDaemon d) :
    SoundDaemon (step d e) := by
  intro c hc
  cases e with
  | stop => cases hc
  | start w config =>
      rw [step] at hc ⊢
      cases startDaemon_began w config d with
      | unparsed hd =>
          rw [hd] at hc
          cases hc
      | unloaded hd =>
          rw [hd] at hc
          cases hc
      | cycled new old hparse hload hd =>
          rw [hd] at hc ⊢
          exact daemonCore_sound (parseCloudConfig_distinct hparse).names
            (fun s hs => parseCloudConfig_inboundNames hparse hs) (sound_of_load hload) hc
  | command w config command =>
      rw [step] at hc ⊢
      cases answer_commanded w config command d with
      | off hcloud hd =>
          rw [hd, hcloud] at hc
          cases hc
      | refused curr e _ _ hd =>
          rw [hd] at hc ⊢
          exact h c hc
      | accepted curr next hcloud hcheck hd =>
          rw [hd] at hc ⊢
          have hparse := checkAndBackup_parsed hcheck
          exact daemonCore_sound (parseCloudConfig_distinct hparse).names
            (fun s hs => parseCloudConfig_inboundNames hparse hs)
            (sound_createDb (h curr hcloud)) hc

/-- A daemon after some run from a stopped one, whatever the database held. -/
def Reachable (d : Daemon δ) : Prop :=
  ∃ db dirs events, d = run step { cloud := none, db, dirs } events

theorem reachable_sound (h : Reachable d) : SoundDaemon d := by
  obtain ⟨db, dirs, events, rfl⟩ := h
  refine run_preserves_always step_sound ?_
  intro c hc
  cases hc

theorem running_of_sound (h : Sound c db) {s : KetServer} (hs : s ∈ c.servers)
    (hstate : s.state = .Production) {subids : Subids}
    (hsubids : ∀ i subid, subids i = some subid → ownSubids s i = some subid) :
    Running s.name (credentials s) subids c db := by
  have hown : ∀ t ∈ c.servers, t.name = s.name → t = s := fun t ht hname =>
    List.inj_on_of_nodup_map h.names ht hs hname
  have hkept : ∀ i subid, subids i = some subid →
      i ∈ s.inboundNames ∧ s.secrets.motherSubid i = some subid := by
    intro i subid hsubid
    have hi := hsubids i subid hsubid
    unfold ownSubids at hi
    split at hi
    · rename_i hmem
      exact ⟨hmem, hi⟩
    · cases hi
  have hrecorded := h.recorded s hs
  refine ⟨Cloud.mem_names hs, ?_, ?_, ?_, ⟨hrecorded.row, ?_⟩⟩
  · intro t ht hname
    rw [hown t ht hname, hstate]
  · intro t ht hname
    rw [hown t ht hname]
    exact ⟨rfl, fun i subid hsubid _ => (hkept i subid hsubid).2⟩
  · intro t ht hname i subid hsubid
    rw [hown t ht hname]
    exact (hkept i subid hsubid).1
  · exact fun i subid hsubid => hrecorded.inbounds i subid (hsubids i subid hsubid)

end Reachable

section Stability

variable {d : Daemon δ} {events : List (Event δ)} {c c' : Cloud} {s : KetServer}

theorem run_carries {subids : Subids} (hsound : Sound c d.db) (hc : d.cloud = some c)
    (hs : s ∈ c.servers) (hstate : s.state = .Production)
    (hsubids : ∀ i subid, subids i = some subid → ownSubids s i = some subid)
    (hconfig : Along step (InConfig s.name) d events)
    (hkept : Along step (fun d e => Kept s.name subids (step d e)) d events)
    (hc' : (run step d events).cloud = some c') :
    Running s.name (credentials s) subids c' (run step d events).db := by
  have hfollowed : Followed s.name (credentials s) subids (run step d events) := by
    refine run_preserves ?_ ?_ (along_and hconfig hkept)
    · rintro d e hd ⟨hin, hkept⟩
      exact step_followed hd hin hkept
    · unfold Followed
      rw [hc]
      exact running_of_sound hsound hs hstate hsubids
  unfold Followed at hfollowed
  rwa [hc'] at hfollowed

/-- The identity of a server stays as long as the config names it and it is in
production, and so does the mother sub-ID of an inbound that it keeps. -/
theorem run_identity_stable (hreach : Reachable d) (hc : d.cloud = some c)
    (hs : s ∈ c.servers) (hstate : s.state = .Production)
    (hconfig : Along step (InConfig s.name) d events)
    (hproduction : Along step (StaysProduction s.name) d events)
    (hc' : (run step d events).cloud = some c') :
    s.name ∈ c'.names ∧ ∀ s' ∈ c'.servers, s'.name = s.name →
      credentials s' = credentials s ∧
        ∀ i ∈ s.inboundNames, Along step (KeepsInbound s.name i) d events →
          s'.secrets.motherSubid i = s.secrets.motherSubid i := by
  have hsound := reachable_sound hreach c hc
  have hnone : Running s.name (credentials s) (fun _ => none) c' (run step d events).db := by
    refine run_carries hsound hc hs hstate (fun i subid hi => by cases hi) hconfig ?_ hc'
    refine along_imp ?_ hproduction
    intro d e hstays
    exact ⟨hstays, fun c _ t _ _ i subid hi => by cases hi⟩
  refine ⟨hnone.mem, ?_⟩
  intro s' hs' hname
  refine ⟨(hnone.carries s' hs' hname).credentials, ?_⟩
  intro i hi hkeeps
  obtain ⟨inb, hinb, rfl⟩ := List.mem_map.mp hi
  obtain ⟨subid, hsubid⟩ := Option.isSome_iff_exists.mp (hsound.subids s hs inb hinb)
  let one : Subids := fun j => if j = inb.name then some subid else none
  have hone : ∀ j x, one j = some x → j = inb.name ∧ subid = x := by
    intro j x hj
    simpa [one] using hj
  have hrunning : Running s.name (credentials s) one c' (run step d events).db := by
    refine run_carries hsound hc hs hstate ?_ hconfig ?_ hc'
    · intro j x hj
      obtain ⟨rfl, rfl⟩ := hone j x hj
      rw [ownSubids, if_pos hi, hsubid]
    · refine along_imp ?_ (along_and hproduction hkeeps)
      rintro d e ⟨hstays, hkeep⟩
      refine ⟨hstays, ?_⟩
      intro c hc t ht htname j x hj
      obtain ⟨rfl, _⟩ := hone j x hj
      exact hkeep c hc t ht htname
  have hsome : one inb.name = some subid := if_pos rfl
  rw [hsubid]
  exact (hrunning.carries s' hs' hname).subids _ _ hsome
    (hrunning.inbounds s' hs' hname _ _ hsome)

end Stability

section Instances

open Xcplane.Specimen

def laterDraws (_ : Nat) : Server.SecretDraw where
  dohEndpoint := "doh3"
  xuiUsername := "user3"
  xuiPassword := "password3"
  xuiWebpath := "web3"
  xuiSubpath := "sub3"
  xuiJsubpath := "json3"
  subid _ := "id4"

def surroundings (draws : Nat → Server.SecretDraw) : Surroundings (List String) where
  env := env
  draws := draws
  order := order
  inboundOrder := inboundOrder
  iteration := iteration
  fault _ := none
  cloudConfig := .ok ""

def config : TCloud :=
  declared [{ alpha with inbounds := [direct] }]

def firstStart : Daemon (List String) :=
  run step { cloud := none, db := .empty, dirs } [.start (surroundings draws) config]

def remap : Event (List String) := .command (surroundings laterDraws) config .Remap
def restart : Event (List String) := .start (surroundings laterDraws) config

def remapped : Daemon (List String) := step firstStart remap
def restarted : Daemon (List String) := step remapped restart

def allServers (p : KetServer → Bool) (d : Daemon (List String)) : Bool :=
  d.cloud.all fun c => c.servers.all p

theorem of_allServers {p : KetServer → Bool} {d : Daemon (List String)} {c : Cloud}
    {s : KetServer} (h : allServers p d = true) (hc : d.cloud = some c) (hs : s ∈ c.servers) :
    p s = true := by
  rw [allServers, hc] at h
  exact List.all_eq_true.mp h s hs

theorem run_identity_stable_remapped :
    ∃ c c', firstStart.cloud = some c ∧ restarted.cloud = some c' ∧
      ∃ s ∈ c.servers, ∀ s' ∈ c'.servers, s'.name = s.name →
        credentials s' = credentials s ∧
          ∀ i ∈ s.inboundNames, s'.secrets.motherSubid i = s.secrets.motherSubid i := by
  have hparse : ∀ new, parseCloudConfig forms laterDraws config = .ok new →
      "alpha" ∈ new.names := by
    intro new hnew
    cases hnew
    decide
  let kept : KetServer → Bool := fun s =>
    s.name = "alpha" ∧ s.state = .Production ∧ s.inboundNames = ["direct", "super"]
  have hfirst : allServers kept firstStart = true := by decide +kernel
  have hremap : allServers kept remapped = true := by decide +kernel
  have hlast : allServers kept restarted = true := by decide +kernel
  have hsome : firstStart.cloud.isSome ∧ restarted.cloud.isSome := by
    decide +kernel
  obtain ⟨⟨c, hc⟩, ⟨c', hc'⟩⟩ :=
    hsome.imp Option.isSome_iff_exists.mp Option.isSome_iff_exists.mp
  obtain ⟨s, hs⟩ : ∃ s, s ∈ c.servers := by
    have hlength : (firstStart.cloud.all fun c => !c.servers.isEmpty) = true := by
      decide +kernel
    rw [hc] at hlength
    exact List.exists_mem_of_ne_nil _ (by simpa using hlength)
  obtain ⟨hname, hstate, hinbounds⟩ : s.name = "alpha" ∧ s.state = .Production ∧
      s.inboundNames = ["direct", "super"] := by
    simpa [kept] using of_allServers hfirst hc hs
  have hkept : ∀ d : Daemon (List String), allServers kept d = true → ∀ c, d.cloud = some c →
      ∀ t ∈ c.servers, t.state = .Production ∧ t.inboundNames = s.inboundNames := by
    intro d hd c hc t ht
    have ht := of_allServers hd hc ht
    rw [hinbounds]
    simp only [kept, Bool.decide_and, Bool.and_eq_true, decide_eq_true_eq] at ht
    exact ht.2
  have hconfig : Along step (InConfig s.name) firstStart [remap, restart] := by
    rw [hname]
    exact ⟨hparse, hparse, trivial⟩
  have hproduction : Along step (StaysProduction s.name) firstStart [remap, restart] :=
    ⟨fun c hc t ht _ => (hkept _ hremap c hc t ht).1,
      fun c hc t ht _ => (hkept _ hlast c hc t ht).1, trivial⟩
  have hkeeps : ∀ i ∈ s.inboundNames,
      Along step (KeepsInbound s.name i) firstStart [remap, restart] := by
    intro i hi
    refine ⟨?_, ?_, trivial⟩
    · intro c hc t ht _
      rw [(hkept _ hremap c hc t ht).2]
      exact hi
    · intro c hc t ht _
      rw [(hkept _ hlast c hc t ht).2]
      exact hi
  have hrun : run step firstStart [remap, restart] = restarted := by
    simp only [run, List.foldl_cons, List.foldl_nil, remapped, restarted]
  obtain ⟨_, hstable⟩ :=
    run_identity_stable ⟨_, _, _, rfl⟩ hc hs hstate hconfig hproduction (hrun ▸ hc')
  refine ⟨c, c', hc, hc', s, hs, ?_⟩
  intro s' hs' hname'
  obtain ⟨hcredentials, hsubids⟩ := hstable s' hs' hname'
  exact ⟨hcredentials, fun i hi => hsubids i hi (hkeeps i hi)⟩

end Instances

end Xcplane.Identity
