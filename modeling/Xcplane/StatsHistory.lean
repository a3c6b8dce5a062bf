import Mathlib.Algebra.Ring.Int.Defs
import Xcplane.DatabaseSpec
import Xcplane.Service
import Xcplane.Specimen
import Xcplane.Lib.Trace

/-!
The failure history of the services. It is in rows that refer to those of the servers,
which every reconciliation writes again.
-/

namespace Xcplane.StatsHistory

open Xcplane.Types
open Xcplane.Lib
open Xcplane.Server
open Xcplane.Database
open Xcplane.DatabaseSpec
open Xcplane.Service

section Statuses

def healthText : SvcHealth → String
  | .Ok => "Ok"
  | .Sick => "Sick"
  | .Unknown => "Unknown"

def healthParse (text : String) : Except BoxError SvcHealth :=
  if text = "Ok" then .ok .Ok
  else if text = "Sick" then .ok .Sick
  else if text = "Unknown" then .ok .Unknown
  else .error "Matching variant not found"

/-- The status of a service, with whose it is. -/
structure SvcEntry where
  server : String
  kind : SvcKind
  status : SvcStatus
  deriving DecidableEq, Repr

def statusOf (r : StatRow) : Except BoxError SvcStatus := do
  ensure (0 ≤ r.failedCount && 0 ≤ r.failedSince) "Integer out of range"
  ensure (0 ≤ r.fixTry && decide (r.fixTry < 2 ^ 8)) "Integer out of range"
  let health ← healthParse r.health
  .ok
    { health
      failedCount := r.failedCount.toNat
      failedSince := r.failedSince.toNat
      fixTry := r.fixTry.toNat }

def readStatusData (db : Db) (server : String) (kind : SvcKind) : Except BoxError SvcStatus := do
  let row ← okOr (db.stats.find (server, kind.toText)) "Query returned no rows"
  statusOf row

def setStatus (status : SvcStatus) (r : StatRow) : StatRow :=
  { r with
    health := healthText status.health
    failedCount := status.failedCount
    failedSince := status.failedSince
    fixTry := status.fixTry }

theorem setStatus_id (status : SvcStatus) (r : StatRow) : (setStatus status r).id = r.id := rfl

def storeEntry (e : SvcEntry) (db : Db) : Db :=
  { db with
    stats := db.stats.modify (e.server, e.kind.toText) (setStatus e.status)
      (setStatus_id e.status) }

theorem find_storeEntry (e : SvcEntry) (db : Db) (k : String × String) :
    (storeEntry e db).stats.find k =
      if k = (e.server, e.kind.toText) then (db.stats.find k).map (setStatus e.status)
      else db.stats.find k :=
  KeyedTable.find_modify db.stats _ _ (setStatus_id e.status) k

/-- The rows that there are get the statuses, up to the first statement that fails. -/
def writeStatusData (fault : Nat → Option BoxError) : List SvcEntry → Nat → Db → Db
  | [], _, db => db
  | e :: rest, i, db =>
      match fault i with
      | some _ => db
      | none => writeStatusData fault rest (i + 1) (storeEntry e db)

end Statuses

section Statement

/-- A service of the cloud, by the key of its row. -/
def Tracked (cloud : Cloud) (k : String × String) : Prop :=
  ∃ s ∈ cloud.servers, ∃ kind ∈ svcKinds s, k = (s.name, kind.toText)

/-- Foreign keys are enforced: the row of a service has its server's row. -/
def Intact (db : Db) : Prop :=
  ∀ k, (db.stats.find k).isSome = true → (db.servers.find k.1).isSome = true

/-- What an update makes of the statuses. -/
structure Follows (cloud : Cloud) (db db' : Db) : Prop where
  rows : ∀ k, (db'.stats.find k).isSome = true ↔ Tracked cloud k
  kinds : ∀ s ∈ cloud.servers, ∀ kind,
    (db'.stats.find (s.name, kind.toText)).isSome = true ↔ kind ∈ svcKinds s
  kept : ∀ k r, Tracked cloud k → db.stats.find k = some r → db'.stats.find k = some r
  fresh : ∀ k, Tracked cloud k → db.stats.find k = none →
    db'.stats.find k = some (unknownStat k.1 k.2)

inductive Event
  | update (fault : Nat → Option BoxError) (cloudConfig : Except BoxError String) (cloud : Cloud)
  | write (fault : Nat → Option BoxError) (entries : List SvcEntry)

def step (F : Forms) (db : Db) : Event → Db
  | .update fault cloudConfig cloud => (updateDb F fault cloudConfig cloud db).1
  | .write fault entries => writeStatusData fault entries 0 db

def Succeeds (F : Forms) (db : Db) : Event → Prop
  | .update fault cloudConfig cloud =>
      cloud.names.Nodup ∧ (updateDb F fault cloudConfig cloud db).2 = none
  | .write _ _ => True

def isWrite : Event → Bool
  | .update _ _ _ => false
  | .write _ _ => true

/-- The service is in the cloud of every update. -/
def Retained (k : String × String) (e : Event) : Prop :=
  match e with
  | .update _ _ cloud => Tracked cloud k
  | .write _ _ => True

end Statement

section Kinds

theorem toList_xray (inb : String) : (SvcKind.Xray inb).toText.toList =
    "xray_".toList ++ inb.toList := by
  rw [SvcKind.toText, String.toList_append]

theorem toText_ne_xray {text : String} (h : text.toList.head? ≠ some 'x') (inb : String) :
    text ≠ (SvcKind.Xray inb).toText := by
  rintro rfl
  rw [toList_xray] at h
  exact h rfl

theorem toText_inj {kind kind' : SvcKind} (h : kind.toText = kind'.toText) : kind = kind' := by
  have hssh : SvcKind.Ssh.toText.toList.head? ≠ some 'x' := by decide
  have hnginx : SvcKind.Nginx.toText.toList.head? ≠ some 'x' := by decide
  cases kind with
  | Ssh =>
      cases kind' with
      | Ssh => rfl
      | Nginx => exact absurd h (by decide)
      | Xray inb => exact absurd h (toText_ne_xray hssh inb)
  | Nginx =>
      cases kind' with
      | Ssh => exact absurd h (by decide)
      | Nginx => rfl
      | Xray inb => exact absurd h (toText_ne_xray hnginx inb)
  | Xray inb =>
      cases kind' with
      | Ssh => exact absurd h.symm (toText_ne_xray hssh inb)
      | Nginx => exact absurd h.symm (toText_ne_xray hnginx inb)
      | Xray inb' =>
          rw [(String.append_right_inj _).mp h]

end Kinds

section Effects

variable {F : Forms} {db db' : Db} {servers : List KetServer} {s : KetServer} {cloud : Cloud}

theorem find_insertStats {server : String} {services : List String}
    (h : execAll (services.map (.insertStat server)) db = .ok db') (k : String × String) :
    db'.stats.find k =
      if k.1 = server ∧ k.2 ∈ services then some ((db.stats.find k).getD (unknownStat k.1 k.2))
      else db.stats.find k := by
  induction services generalizing db with
  | nil =>
      cases h
      simp
  | cons service rest ih =>
      obtain ⟨db₁, hfirst, hrest⟩ := execAll_cons.mp h
      rw [ih hrest, exec_insertStat hfirst, KeyedTable.find_insertIgnore]
      obtain ⟨n, v⟩ := k
      have hid : (unknownStat server service).id = (server, service) := rfl
      by_cases hkey : (n, v) = (server, service)
      · obtain ⟨rfl, rfl⟩ := Prod.mk.inj hkey
        simp [hid]
      · have hne : ¬ (n = server ∧ v = service) := by
          simpa using hkey
        simp only [hid, hkey, if_false, List.mem_cons]
        grind

/-- The statements of a server leave exactly the rows of its services. -/
theorem find_group (h : execAll (plainGroupStmts s) db = .ok db') (k : String × String) :
    db'.stats.find k =
      if k.1 = s.name then
        if k.2 ∈ svcKindsString s then some ((db.stats.find k).getD (unknownStat k.1 k.2)) else none
      else db.stats.find k := by
  obtain ⟨db₁, db₂, db₃, hdelete, hinbounds, hstats, h⟩ := execAll_plainGroupStmts_iff.mp h
  cases hdelete
  cases hstats
  have hdb₂ := execAll_upsertInbound hinbounds
  rw [find_insertStats h, hdb₂]
  simp only [KeyedTable.find_retain]
  -- a row is at its own key, so the deletion looks at the key
  have hdeleted : (db.stats.find k).filter (fun r => r.serverName != s.name ||
      (svcKindsString s).contains r.service) =
        if k.1 = s.name ∧ k.2 ∉ svcKindsString s then none else db.stats.find k := by
    cases hrow : db.stats.find k with
    | none => simp
    | some r =>
        have hid : r.id = k := KeyedTable.key_of_find hrow
        subst hid
        rw [Option.filter_some]
        simp only [StatRow.id, List.contains_iff_mem, Bool.or_eq_true, bne_iff_ne]
        grind
  rw [hdeleted]
  grind

theorem find_groups (hnames : (servers.map KetServer.name).Nodup)
    (h : execAll (servers.flatMap plainGroupStmts) db = .ok db') (k : String × String) :
    ((∃ s ∈ servers, k.1 = s.name ∧ k.2 ∈ svcKindsString s) →
      db'.stats.find k = some ((db.stats.find k).getD (unknownStat k.1 k.2))) ∧
    ((∃ s ∈ servers, k.1 = s.name ∧ k.2 ∉ svcKindsString s) → db'.stats.find k = none) ∧
    (k.1 ∉ servers.map KetServer.name → db'.stats.find k = db.stats.find k) := by
  induction servers generalizing db with
  | nil =>
      cases h
      simp
  | cons s rest ih =>
      rw [List.flatMap_cons, execAll_append] at h
      obtain ⟨db₁, hs, hrest⟩ := h
      obtain ⟨hfresh, hnames⟩ := List.nodup_cons.mp hnames
      have hgroup := find_group hs k
      obtain ⟨htracked, hlost, hother⟩ := ih hnames hrest
      by_cases hname : k.1 = s.name
      · have hsame := hother (hname ▸ hfresh)
        have hhead : ∀ s' ∈ rest, k.1 ≠ s'.name := by
          intro s' hs' heq
          exact hfresh (hname ▸ heq ▸ List.mem_map_of_mem hs')
        simp only [List.mem_cons, exists_eq_or_imp, List.map_cons]
        grind
      · simp only [List.mem_cons, exists_eq_or_imp, List.map_cons, hname, false_and, false_or]
        rw [if_neg hname] at hgroup
        rw [hgroup] at htracked hother
        exact ⟨htracked, hlost, hother⟩

theorem find_deleteServers (hintact : Intact db) (names : List String) (k : String × String) :
    (db.stats.retain fun r => !cascades db names r.serverName).find k =
      if k.1 ∈ names then db.stats.find k else none := by
  rw [KeyedTable.find_retain]
  cases hrow : db.stats.find k with
  | none => simp
  | some r =>
      have hid : r.id = k := KeyedTable.key_of_find hrow
      have hserver := hintact k (by rw [hrow]; rfl)
      subst hid
      rw [Option.filter_some, cascades]
      by_cases hmem : r.serverName ∈ names
      · simp [StatRow.id, hmem]
      · have hserver' : (db.servers.find r.serverName).isSome = true := hserver
        simp [StatRow.id, hmem, hserver']

theorem tracked_iff {k : String × String} : Tracked cloud k ↔
    ∃ s ∈ cloud.servers, k.1 = s.name ∧ k.2 ∈ svcKindsString s := by
  simp only [Tracked, svcKindsString, List.mem_map, Prod.ext_iff]
  grind

/-- A successful update keeps the row of a service that the cloud has, or makes one, and no
other row stays. -/
theorem find_update {fault : Nat → Option BoxError} {cloudConfig : Except BoxError String}
    (hintact : Intact db) (hnames : cloud.names.Nodup)
    (h : updateDb F fault cloudConfig cloud db = (db', none)) (k : String × String) :
    (Tracked cloud k →
      db'.stats.find k = some ((db.stats.find k).getD (unknownStat k.1 k.2))) ∧
    (¬ Tracked cloud k → db'.stats.find k = none) := by
  obtain ⟨text, db₁, db₂, db₃, hoptions, hdelete, hupserts, hgroups⟩ := execAll_of_updateDb h
  cases hdelete
  have hdb₁ := (execAll_optionStmts hoptions).1
  have hdb₃ := execAll_upsertServer hupserts
  have hintact₁ : Intact db₁ := by
    rw [hdb₁]
    exact hintact
  have hdeleted := find_deleteServers hintact₁ cloud.names k
  obtain ⟨htracked, hlost, hother⟩ := find_groups hnames hgroups k
  have hstats : db₃.stats.find k = if k.1 ∈ cloud.names then db.stats.find k else none := by
    rw [hdb₃]
    rw [hdb₁] at hdeleted ⊢
    exact hdeleted
  rw [hstats] at htracked hother
  rw [tracked_iff]
  constructor
  · intro hk
    have hmem : k.1 ∈ cloud.names := by
      obtain ⟨s, hs, hname, _⟩ := hk
      exact hname ▸ List.mem_map_of_mem hs
    rw [htracked hk, if_pos hmem]
  · intro hk
    by_cases hmem : k.1 ∈ cloud.names
    · obtain ⟨s, hs, hname⟩ := List.mem_map.mp hmem
      exact hlost ⟨s, hs, hname.symm, fun hsvc => hk ⟨s, hs, hname.symm, hsvc⟩⟩
    · rw [hother hmem, if_neg hmem]

theorem isSome_update_iff {fault : Nat → Option BoxError} {cloudConfig : Except BoxError String}
    (hintact : Intact db) (hnames : cloud.names.Nodup)
    (h : updateDb F fault cloudConfig cloud db = (db', none)) (k : String × String) :
    (db'.stats.find k).isSome = true ↔ Tracked cloud k := by
  obtain ⟨htracked, hother⟩ := find_update hintact hnames h k
  constructor
  · intro hsome
    by_contra hk
    rw [hother hk] at hsome
    cases hsome
  · intro hk
    rw [htracked hk]
    rfl

theorem tracked_kind_iff (hnames : cloud.names.Nodup) (hs : s ∈ cloud.servers) (kind : SvcKind) :
    Tracked cloud (s.name, kind.toText) ↔ kind ∈ svcKinds s := by
  constructor
  · rintro ⟨s', hs', kind', hkind', hk⟩
    obtain ⟨hname, htext⟩ := Prod.mk.inj hk
    rw [List.inj_on_of_nodup_map hnames hs hs' hname, toText_inj htext]
    exact hkind'
  · intro hkind
    exact ⟨s, hs, kind, hkind, rfl⟩

theorem follows_update {fault : Nat → Option BoxError} {cloudConfig : Except BoxError String}
    (hintact : Intact db) (hnames : cloud.names.Nodup)
    (h : updateDb F fault cloudConfig cloud db = (db', none)) : Follows cloud db db' where
  rows := isSome_update_iff hintact hnames h
  kinds s hs kind := by
    rw [isSome_update_iff hintact hnames h, tracked_kind_iff hnames hs]
  kept k r hk hr := by
    rw [(find_update hintact hnames h k).1 hk, hr]
    rfl
  fresh k hk hnone := by
    rw [(find_update hintact hnames h k).1 hk, hnone]
    rfl

/-- The engine lets no row of a service stay or come without its server's. -/
theorem intact_exec {stmt : Stmt} (hintact : Intact db) (h : exec stmt db = .ok db') :
    Intact db' := by
  intro k hk
  cases stmt with
  | setOption key value =>
      cases h
      exact hintact k hk
  | deleteServersNotIn names =>
      cases h
      rw [find_deleteServers hintact] at hk
      split at hk
      · rename_i hmem
        obtain ⟨row, hrow⟩ := Option.isSome_iff_exists.mp (hintact k hk)
        have hname : row.name = k.1 := KeyedTable.key_of_find hrow
        rw [KeyedTable.find_retain, hrow, Option.filter_some, if_pos (by simpa [hname] using hmem)]
        rfl
      · cases hk
  | upsertServer row =>
      rw [exec_upsertServer h] at hk ⊢
      rw [KeyedTable.find_upsert]
      split
      · rfl
      · exact hintact k hk
  | deleteInboundsNotIn server names =>
      cases h
      exact hintact k hk
  | upsertInbound row =>
      rw [exec_upsertInbound h] at hk ⊢
      exact hintact k hk
  | deleteStatsNotIn server services =>
      cases h
      obtain ⟨r, hr⟩ := Option.isSome_iff_exists.mp hk
      have hfind := (KeyedTable.find_of_find_retain hr).1
      exact hintact k (by rw [hfind]; rfl)
  | insertStat server service =>
      have hserver : (db.servers.find server).isSome = true := by
        simp only [exec, checkForeignKey, ensure_bind_eq_ok_iff] at h
        exact h.1
      rw [exec_insertStat h] at hk ⊢
      rw [KeyedTable.find_insertIgnore] at hk
      split at hk
      · rename_i hkey
        rw [hkey]
        exact hserver
      · exact hintact k hk

theorem intact_updateDb {fault : Nat → Option BoxError} {cloudConfig : Except BoxError String}
    (hintact : Intact db) : Intact (updateDb F fault cloudConfig cloud db).1 :=
  updateDb_preserves (fun _ _ _ _ => intact_exec) fault cloudConfig hintact

end Effects

section Writes

variable {db db' : Db} {fault : Nat → Option BoxError} {entries : List SvcEntry} {i : Nat}
  {k : String × String}

theorem writeStatusData_servers :
    (writeStatusData fault entries i db).servers = db.servers := by
  induction entries generalizing i db with
  | nil => rfl
  | cons e rest ih =>
      rw [writeStatusData]
      cases fault i with
      | some err => rfl
      | none => exact ih

/-- What is written to a row depends on that row only, and makes or removes none. -/
theorem find_writeStatusData_congr (h : db'.stats.find k = db.stats.find k) :
    (writeStatusData fault entries i db').stats.find k =
      (writeStatusData fault entries i db).stats.find k := by
  induction entries generalizing i db db' with
  | nil => exact h
  | cons e rest ih =>
      rw [writeStatusData, writeStatusData]
      cases fault i with
      | some err => exact h
      | none =>
          apply ih
          rw [find_storeEntry, find_storeEntry, h]

theorem isSome_writeStatusData : ((writeStatusData fault entries i db).stats.find k).isSome =
    (db.stats.find k).isSome := by
  induction entries generalizing i db with
  | nil => rfl
  | cons e rest ih =>
      rw [writeStatusData]
      cases fault i with
      | some err => rfl
      | none =>
          rw [ih, find_storeEntry]
          split
          · exact Option.isSome_map
          · rfl

theorem intact_write (h : Intact db) : Intact (writeStatusData fault entries i db) := by
  intro k hk
  rw [writeStatusData_servers]
  rw [isSome_writeStatusData] at hk
  exact h k hk

end Writes

section Runs

variable {F : Forms} {db db' : Db} {e : Event} {events : List Event} {k : String × String}

theorem update_eq_of_succeeds {fault : Nat → Option BoxError}
    {cloudConfig : Except BoxError String} {cloud : Cloud}
    (h : Succeeds F db (.update fault cloudConfig cloud)) : cloud.names.Nodup ∧
      updateDb F fault cloudConfig cloud db =
        (step F db (.update fault cloudConfig cloud), none) :=
  ⟨h.1, Prod.ext rfl h.2⟩

theorem intact_step (e : Event) (hintact : Intact db) : Intact (step F db e) := by
  cases e with
  | update fault cloudConfig cloud => exact intact_updateDb hintact
  | write fault entries => exact intact_write hintact

/-- Whatever the updates and the writes come to, the rows refer to servers. -/
theorem intact_run (events : List Event) (hintact : Intact db) :
    Intact (run (step F) db events) :=
  run_preserves_always (fun _ e => intact_step e) hintact

/-- A row that every update retains is what the writes alone would have made of it. -/
theorem run_keeps_history (hintact : Intact db) (h : Along (step F) (Succeeds F) db events)
    (hretained : ∀ e ∈ events, Retained k e) (hsome : (db.stats.find k).isSome = true)
    (hsame : db'.stats.find k = db.stats.find k) :
    (run (step F) db events).stats.find k =
      (run (step F) db' (events.filter isWrite)).stats.find k := by
  induction events generalizing db db' with
  | nil => exact hsame.symm
  | cons e events ih =>
      obtain ⟨he, hevents⟩ := List.forall_mem_cons.mp hretained
      have hnext := intact_step (F := F) e hintact
      cases e with
      | update fault cloudConfig cloud =>
          obtain ⟨hnames, hupdate⟩ := update_eq_of_succeeds h.1
          obtain ⟨r, hr⟩ := Option.isSome_iff_exists.mp hsome
          have hkept := (follows_update hintact hnames hupdate).kept k r he hr
          rw [List.filter_cons_of_neg (by simp [isWrite])]
          refine ih hnext h.2 hevents ?_ ?_
          · rw [hkept]
            rfl
          · rw [hkept, hsame, hr]
      | write fault entries =>
          rw [List.filter_cons_of_pos rfl]
          refine ih hnext h.2 hevents ?_ (find_writeStatusData_congr hsame)
          exact isSome_writeStatusData.trans hsome

theorem run_isSome_of_writes (h : ∀ e ∈ events, isWrite e = true) :
    ((run (step F) db events).stats.find k).isSome = (db.stats.find k).isSome := by
  induction events generalizing db with
  | nil => rfl
  | cons e events ih =>
      obtain ⟨he, hevents⟩ := List.forall_mem_cons.mp h
      cases e with
      | update fault cloudConfig cloud => cases he
      | write fault entries => exact (ih hevents).trans isSome_writeStatusData

/-- Until the next update every service of the cloud that was stored last has its row. -/
theorem run_misses_none {fault : Nat → Option BoxError} {cloudConfig : Except BoxError String}
    {cloud : Cloud} {before after : List Event} (hintact : Intact db)
    (h : Along (step F) (Succeeds F) db (before ++ .update fault cloudConfig cloud :: after))
    (hafter : ∀ e ∈ after, isWrite e = true) (hk : Tracked cloud k) :
    ((run (step F) db (before ++ .update fault cloudConfig cloud :: after)).stats.find k).isSome =
      true := by
  obtain ⟨-, hlast, -⟩ := along_append_iff.mp h
  have hintact' := intact_run (F := F) before hintact
  obtain ⟨hnames, hupdate⟩ := update_eq_of_succeeds hlast
  rw [run, List.foldl_append, List.foldl_cons, ← run, ← run, run_isSome_of_writes hafter]
  exact (isSome_update_iff hintact' hnames hupdate k).mpr hk

/-- Every successful update leaves exactly the rows of the cloud's services, the old ones
unchanged and the new ones unknown; along any number of updates a retained row is as the
writes made it, and each service of the cloud that was stored last is read from a row. -/
theorem statuses_follow_cloud (F : Forms) (db : Db) (hintact : Intact db) :
    (∀ fault cloudConfig cloud db', cloud.names.Nodup →
      updateDb F fault cloudConfig cloud db = (db', none) → Follows cloud db db') ∧
    (∀ events, Along (step F) (Succeeds F) db events → ∀ k, (∀ e ∈ events, Retained k e) →
      (db.stats.find k).isSome = true → (run (step F) db events).stats.find k =
        (run (step F) db (events.filter isWrite)).stats.find k) ∧
    ∀ before fault cloudConfig cloud after,
      Along (step F) (Succeeds F) db (before ++ .update fault cloudConfig cloud :: after) →
      (∀ e ∈ after, isWrite e = true) → ∀ s ∈ cloud.servers, ∀ kind ∈ svcKinds s,
        ∃ r, (run (step F) db
            (before ++ .update fault cloudConfig cloud :: after)).stats.find
              (s.name, kind.toText) = some r ∧
          readStatusData (run (step F) db
            (before ++ .update fault cloudConfig cloud :: after)) s.name kind = statusOf r := by
  refine ⟨fun _ _ _ _ hnames h => follows_update hintact hnames h, ?_, ?_⟩
  · intro events h k hretained hsome
    exact run_keeps_history hintact h hretained hsome rfl
  · intro before fault cloudConfig cloud after h hafter s hs kind hkind
    have hfound := run_misses_none hintact h hafter ⟨s, hs, kind, hkind, rfl⟩
    obtain ⟨r, hr⟩ := Option.isSome_iff_exists.mp hfound
    refine ⟨r, hr, ?_⟩
    rw [readStatusData, hr]
    rfl

end Runs

section Instances

open Xcplane.Specimen

def monitoredDb : Db :=
  (updateDb forms (fun _ => none) (.ok "") (cloud [alpha]) (createDb .empty)).1

theorem intact_empty : Intact (createDb .empty) := by
  intro k hk
  cases hk

/-- A server joins one whose services have their rows. -/
theorem statuses_follow_cloud_joined :
    ∃ db', updateDb forms (fun _ => none) (.ok "") (cloud [alpha, beta]) monitoredDb =
        (db', none) ∧ Follows (cloud [alpha, beta]) monitoredDb db' := by
  have hupdate : updateDb forms (fun _ => none) (.ok "") (cloud [alpha, beta]) monitoredDb =
      ((updateDb forms (fun _ => none) (.ok "") (cloud [alpha, beta]) monitoredDb).1, none) :=
    Prod.ext rfl (by rfl)
  refine ⟨_, hupdate, ?_⟩
  have hfollows := (statuses_follow_cloud forms monitoredDb (intact_updateDb intact_empty)).1
  exact hfollows _ _ _ _ (by decide) hupdate

end Instances

end Xcplane.StatsHistory
