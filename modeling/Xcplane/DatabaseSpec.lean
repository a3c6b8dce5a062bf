import Xcplane.Database
import Xcplane.Lib.Related

/-!
What the statements of an update do to the tables: each statement by the lookups
after it, and a successful update by the lookups after all of them.
-/

namespace Xcplane.DatabaseSpec

open Xcplane.Types
open Xcplane.Lib
open Xcplane.Database

section Runs

def execAll (stmts : List Stmt) (db : Db) : Except BoxError Db :=
  stmts.foldlM (fun db stmt => exec stmt db) db

theorem execAll_cons {stmt : Stmt} {stmts : List Stmt} {db db' : Db} :
    execAll (stmt :: stmts) db = .ok db' ↔
      ∃ db₁, exec stmt db = .ok db₁ ∧ execAll stmts db₁ = .ok db' := by
  rw [execAll, List.foldlM_cons, bind_eq_ok_iff]
  rfl

theorem execAll_append {l l' : List Stmt} {db db' : Db} :
    execAll (l ++ l') db = .ok db' ↔
      ∃ db₁, execAll l db = .ok db₁ ∧ execAll l' db₁ = .ok db' := by
  rw [execAll, List.foldlM_append, bind_eq_ok_iff]
  rfl

/-- A sequence that ended without an error executed every statement. -/
theorem execAll_of_runStmts {fault : Nat → Option BoxError} {stmts : List Stmt} {i : Nat}
    {db db' : Db} (h : runStmts fault (stmts.map .ok) i db = (db', none)) :
    execAll stmts db = .ok db' := by
  induction stmts generalizing i db with
  | nil =>
      cases h
      rfl
  | cons stmt rest ih =>
      rw [List.map_cons, runStmts] at h
      split at h
      · cases h
      · split at h
        · cases h
        · rename_i db₁ hdb₁
          exact execAll_cons.mpr ⟨db₁, hdb₁, ih h⟩

theorem runStmts_preserves {P : Db → Prop} {fault : Nat → Option BoxError}
    {stmts : List (Except BoxError Stmt)} {i : Nat} {db : Db} (hdb : P db)
    (hstep : ∀ stmt, .ok stmt ∈ stmts → ∀ db db', P db → exec stmt db = .ok db' → P db') :
    P (runStmts fault stmts i db).1 := by
  induction stmts generalizing i db with
  | nil => exact hdb
  | cons x rest ih =>
      cases x with
      | error e => exact hdb
      | ok stmt =>
          rw [runStmts]
          split
          · exact hdb
          · split
            · exact hdb
            · rename_i db₁ hdb₁
              exact ih (hstep stmt List.mem_cons_self db db₁ hdb hdb₁)
                fun s hs => hstep s (List.mem_cons_of_mem _ hs)

end Runs

inductive Writes (F : Forms) (cloud : Cloud) : Stmt → Prop
  | setOption (key value : String) : Writes F cloud (.setOption key value)
  | deleteServers : Writes F cloud (.deleteServersNotIn cloud.names)
  | server (s : KetServer) (hs : s ∈ cloud.servers) : Writes F cloud (.upsertServer (serverRow F s))
  | deleteInbounds (server : String) (names : List String) :
      Writes F cloud (.deleteInboundsNotIn server names)
  | inbound (s : KetServer) (hs : s ∈ cloud.servers) (inb : Inbound) (hinb : inb ∈ s.inbounds)
      (subid : String) (hsubid : s.secrets.motherSubid inb.name = some subid) :
      Writes F cloud (.upsertInbound (inboundRow s.name inb subid))
  | deleteStats (server : String) (services : List String) :
      Writes F cloud (.deleteStatsNotIn server services)
  | stat (server service : String) : Writes F cloud (.insertStat server service)

theorem writes_of_mem_groupStmts {F : Forms} {cloud : Cloud} {s : KetServer} {stmt : Stmt}
    (hs : s ∈ cloud.servers) (h : .ok stmt ∈ groupStmts s) : Writes F cloud stmt := by
  rw [groupStmts, List.cons_append, List.mem_cons, List.mem_append, List.mem_cons] at h
  rcases h with h | h | h | h
  · cases h
    exact .deleteInbounds _ _
  · obtain ⟨inb, hinb, h⟩ := List.mem_map.mp h
    obtain ⟨subid, hsubid, h⟩ := bind_eq_ok_iff.mp h
    cases h
    exact .inbound s hs inb hinb subid (okOr_eq_ok_iff.mp hsubid)
  · cases h
    exact .deleteStats _ _
  · obtain ⟨svc, _, h⟩ := List.mem_map.mp h
    cases h
    exact .stat _ _

theorem mem_optionStmts {F : Forms} {cloudConfig : String} {settings : CloudSettings}
    {stmt : Stmt} (h : stmt ∈ optionStmts F cloudConfig settings) :
    ∃ key value, stmt = .setOption key value := by
  simp only [optionStmts, List.mem_cons, List.not_mem_nil, or_false] at h
  rcases h with rfl | rfl | rfl | rfl | rfl <;> exact ⟨_, _, rfl⟩

theorem writes_of_mem {F : Forms} {cloud : Cloud} {cloudConfig : Except BoxError String}
    {stmt : Stmt} (h : .ok stmt ∈ updateStmts F cloudConfig cloud) : Writes F cloud stmt := by
  cases cloudConfig with
  | error e => simp [updateStmts] at h
  | ok cloudConfig =>
      simp only [updateStmts] at h
      rw [List.mem_append, List.mem_append, List.mem_cons] at h
      rcases h with (h | h | h) | h
      · obtain ⟨option, hoption, h⟩ := List.mem_map.mp h
        cases h
        obtain ⟨key, value, rfl⟩ := mem_optionStmts hoption
        exact .setOption key value
      · cases h
        exact .deleteServers
      · obtain ⟨s, hs, h⟩ := List.mem_map.mp h
        cases h
        exact .server s hs
      · obtain ⟨s, hs, h⟩ := List.mem_flatMap.mp h
        exact writes_of_mem_groupStmts hs h

theorem updateDb_preserves {F : Forms} {P : Db → Prop} {cloud : Cloud}
    (hstep : ∀ stmt db db', Writes F cloud stmt → P db → exec stmt db = .ok db' → P db')
    (fault : Nat → Option BoxError) (cloudConfig : Except BoxError String) {db : Db}
    (hdb : P db) : P (updateDb F fault cloudConfig cloud db).1 :=
  runStmts_preserves hdb fun stmt hmem db db' => hstep stmt db db' (writes_of_mem hmem)

/-- Only a cloud with all its mother sub-IDs can be written as a whole. -/
theorem hasSubids_of_updateDb {F : Forms} {fault : Nat → Option BoxError} {cloud : Cloud}
    {cloudConfig : Except BoxError String} {db db' : Db}
    (h : updateDb F fault cloudConfig cloud db = (db', none)) : cloud.HasSubids := by
  have hrun : ∀ (stmts : List (Except BoxError Stmt)) (i : Nat) (db : Db),
      runStmts fault stmts i db = (db', none) → ∀ x ∈ stmts, ∃ stmt, x = .ok stmt := by
    intro stmts
    induction stmts with
    | nil => simp
    | cons x rest ih =>
        intro i db hx
        cases x with
        | error e => cases hx
        | ok stmt =>
            rw [runStmts] at hx
            split at hx
            · cases hx
            · split at hx
              · cases hx
              · rw [List.forall_mem_cons]
                exact ⟨⟨stmt, rfl⟩, ih _ _ hx⟩
  cases cloudConfig with
  | error e => cases h
  | ok cloudConfig =>
      intro s hs inb hinb
      have hmem : inboundStmt s inb ∈ updateStmts F (.ok cloudConfig) cloud := by
        simp only [updateStmts]
        rw [List.mem_append, List.mem_flatMap]
        refine .inr ⟨s, hs, ?_⟩
        rw [groupStmts, List.cons_append, List.mem_cons, List.mem_append]
        exact .inr (.inl (List.mem_map_of_mem hinb))
      obtain ⟨stmt, hstmt⟩ := hrun _ _ _ h _ hmem
      obtain ⟨subid, hsubid, _⟩ := bind_eq_ok_iff.mp hstmt
      rw [okOr_eq_ok_iff.mp hsubid]
      rfl

section Writing

variable {db db' : Db}

theorem exec_upsertServer {row : ServerRow} (h : exec (.upsertServer row) db = .ok db') :
    db' = { db with servers := db.servers.upsert row } := by
  simp only [exec, checkFlag, ensure_bind_eq_ok_iff] at h
  obtain ⟨_, _, h⟩ := h
  exact (Except.ok.inj h).symm

theorem exec_upsertInbound {row : InboundRow} (h : exec (.upsertInbound row) db = .ok db') :
    db' = { db with inbounds := db.inbounds.upsert row } := by
  simp only [exec, checkForeignKey, ensure_bind_eq_ok_iff] at h
  obtain ⟨_, h⟩ := h
  exact (Except.ok.inj h).symm

def unknownStat (server service : String) : StatRow := ⟨server, service, "Unknown", 0, 0, 0⟩

theorem exec_insertStat {server service : String}
    (h : exec (.insertStat server service) db = .ok db') :
    db' = { db with stats := db.stats.insertIgnore (unknownStat server service) } := by
  simp only [exec, checkForeignKey, ensure_bind_eq_ok_iff] at h
  obtain ⟨_, h⟩ := h
  exact (Except.ok.inj h).symm

end Writing

section Segments

variable {db db' : Db}

theorem execAll_upsertServer {rows : List ServerRow}
    (h : execAll (rows.map .upsertServer) db = .ok db') :
    db' = { db with servers := rows.foldl KeyedTable.upsert db.servers } := by
  induction rows generalizing db with
  | nil =>
      cases h
      rfl
  | cons row rest ih =>
      obtain ⟨db₁, hrow, hrest⟩ := execAll_cons.mp h
      rw [exec_upsertServer hrow] at hrest
      exact ih hrest

theorem execAll_upsertInbound {rows : List InboundRow}
    (h : execAll (rows.map .upsertInbound) db = .ok db') :
    db' = { db with inbounds := rows.foldl KeyedTable.upsert db.inbounds } := by
  induction rows generalizing db with
  | nil =>
      cases h
      rfl
  | cons row rest ih =>
      obtain ⟨db₁, hrow, hrest⟩ := execAll_cons.mp h
      rw [exec_upsertInbound hrow] at hrest
      exact ih hrest

theorem execAll_insertStat {server : String} {services : List String}
    (h : execAll (services.map (.insertStat server)) db = .ok db') :
    db' = { db with stats := db'.stats } := by
  induction services generalizing db with
  | nil =>
      cases h
      rfl
  | cons svc rest ih =>
      obtain ⟨db₁, hsvc, hrest⟩ := execAll_cons.mp h
      rw [exec_insertStat hsvc] at hrest
      rw [ih hrest]

theorem execAll_optionStmts {F : Forms} {cloudConfig : String} {settings : CloudSettings}
    (h : execAll (optionStmts F cloudConfig settings) db = .ok db') :
    db' = { db with options := db'.options } ∧
      ∀ key value, .setOption key value ∈ optionStmts F cloudConfig settings →
        (db.options.find key).isSome = true → db'.options.find key = some ⟨key, value⟩ := by
  simp only [optionStmts, execAll_cons, exec, Except.ok.injEq] at h
  obtain ⟨db₁, rfl, db₂, rfl, db₃, rfl, db₄, rfl, db₅, rfl, h⟩ := h
  cases h
  refine ⟨rfl, ?_⟩
  intro key value hmem hkey
  obtain ⟨row, hrow⟩ := Option.isSome_iff_exists.mp hkey
  have hrowKey : row.key = key := KeyedTable.key_of_find hrow
  simp only [optionStmts, List.mem_cons, List.not_mem_nil, or_false, Stmt.setOption.injEq] at hmem
  rcases hmem with ⟨rfl, rfl⟩ | ⟨rfl, rfl⟩ | ⟨rfl, rfl⟩ | ⟨rfl, rfl⟩ | ⟨rfl, rfl⟩ <;>
    simp [KeyedTable.find_modify, hrow, hrowKey]

end Segments

section Update

variable {F : Forms}

/-- The rows of the inbounds of a server that has a mother sub-ID for each. -/
def inboundRowsOf (s : KetServer) : List InboundRow :=
  s.inbounds.map fun inb => inboundRow s.name inb ((s.secrets.motherSubid inb.name).getD "")

def plainGroupStmts (s : KetServer) : List Stmt :=
  .deleteInboundsNotIn s.name s.inboundNames :: (inboundRowsOf s).map .upsertInbound ++
    .deleteStatsNotIn s.name (Server.svcKindsString s) ::
      (Server.svcKindsString s).map (.insertStat s.name)

def plainStmts (F : Forms) (cloudConfig : String) (cloud : Cloud) : List Stmt :=
  optionStmts F cloudConfig cloud.settings ++
    .deleteServersNotIn cloud.names ::
      (cloud.servers.map (serverRow F)).map .upsertServer ++
    cloud.servers.flatMap plainGroupStmts

theorem groupStmts_eq {s : KetServer} (h : s.HasSubids) :
    groupStmts s = (plainGroupStmts s).map .ok := by
  have hinbounds : s.inbounds.map (inboundStmt s) =
      ((inboundRowsOf s).map Stmt.upsertInbound).map .ok := by
    rw [inboundRowsOf, List.map_map, List.map_map]
    apply List.map_congr_left
    intro inb hinb
    obtain ⟨subid, hsubid⟩ := Option.isSome_iff_exists.mp (h inb hinb)
    simp only [inboundStmt, hsubid, Function.comp_apply, Option.getD_some]
    rfl
  rw [groupStmts, plainGroupStmts, hinbounds]
  simp

theorem updateStmts_eq {cloud : Cloud} (h : cloud.HasSubids) (cloudConfig : String) :
    updateStmts F (.ok cloudConfig) cloud = (plainStmts F cloudConfig cloud).map .ok := by
  have hgroups : cloud.servers.flatMap groupStmts =
      (cloud.servers.flatMap plainGroupStmts).map .ok := by
    rw [List.map_flatMap]
    apply List.flatMap_congr
    intro s hs
    exact groupStmts_eq (h s hs)
  simp only [updateStmts, plainStmts, hgroups, List.map_append, List.map_cons, List.map_map]
  rfl

/-- The statements of one server, by what they do. -/
theorem execAll_plainGroupStmts_iff {s : KetServer} {db db' : Db} :
    execAll (plainGroupStmts s) db = .ok db' ↔ ∃ db₁ db₂ db₃,
      exec (.deleteInboundsNotIn s.name s.inboundNames) db = .ok db₁ ∧
      execAll ((inboundRowsOf s).map .upsertInbound) db₁ = .ok db₂ ∧
      exec (.deleteStatsNotIn s.name (Server.svcKindsString s)) db₂ = .ok db₃ ∧
      execAll ((Server.svcKindsString s).map (.insertStat s.name)) db₃ = .ok db' := by
  rw [plainGroupStmts, List.cons_append, execAll_cons]
  simp only [execAll_append, execAll_cons, exists_and_left]

/-- The statements of a successful update, by what they do. -/
theorem execAll_of_updateDb {cloud : Cloud} {fault : Nat → Option BoxError}
    {cloudConfig : Except BoxError String} {db db' : Db}
    (h : updateDb F fault cloudConfig cloud db = (db', none)) : ∃ text db₁ db₂ db₃,
      execAll (optionStmts F text cloud.settings) db = .ok db₁ ∧
      exec (.deleteServersNotIn cloud.names) db₁ = .ok db₂ ∧
      execAll ((cloud.servers.map (serverRow F)).map .upsertServer) db₂ = .ok db₃ ∧
      execAll (cloud.servers.flatMap plainGroupStmts) db₃ = .ok db' := by
  have hsubids := hasSubids_of_updateDb h
  cases cloudConfig with
  | error e => cases h
  | ok text =>
      rw [updateDb, updateStmts_eq hsubids] at h
      have hexec := execAll_of_runStmts h
      rw [plainStmts, List.append_assoc, execAll_append] at hexec
      obtain ⟨db₁, hoptions, hexec⟩ := hexec
      obtain ⟨db₃, hservers, hgroups⟩ := execAll_append.mp hexec
      obtain ⟨db₂, hdelete, hupserts⟩ := execAll_cons.mp hservers
      exact ⟨text, db₁, db₂, db₃, hoptions, hdelete, hupserts, hgroups⟩

theorem mem_inboundRowsOf_key {s : KetServer} {r : InboundRow} (h : r ∈ inboundRowsOf s) :
    r.serverName = s.name ∧ r.inboundGroup ∈ s.inboundNames := by
  obtain ⟨inb, hinb, rfl⟩ := List.mem_map.mp h
  exact ⟨rfl, List.mem_map_of_mem hinb⟩

theorem inboundRowsOf_keys_nodup {s : KetServer} (h : s.inboundNames.Nodup) :
    ((inboundRowsOf s).map InboundRow.id).Nodup := by
  have hkeys : (inboundRowsOf s).map InboundRow.id = s.inboundNames.map (Prod.mk s.name) := by
    simp [inboundRowsOf, KetServer.inboundNames, InboundRow.id, inboundRow]
  rw [hkeys]
  exact h.map fun _ _ heq => (Prod.mk.inj heq).2

/-- The inbound rows of the server are those of its inbounds. -/
structure StoresInbounds (s : KetServer) (db : Db) : Prop where
  rows : ∀ g r, db.inbounds.find (s.name, g) = some r → r ∈ inboundRowsOf s
  found : ∀ r ∈ inboundRowsOf s, (db.inbounds.find r.id).isSome = true

theorem StoresInbounds.find {s : KetServer} {db : Db} (h : StoresInbounds s db)
    (hs : s.inboundNames.Nodup) :
    (∀ r ∈ inboundRowsOf s, db.inbounds.find r.id = some r) ∧
      ∀ g, g ∉ s.inboundNames → db.inbounds.find (s.name, g) = none := by
  constructor
  · intro r hr
    obtain ⟨r', hr'⟩ := Option.isSome_iff_exists.mp (h.found r hr)
    have hid : r.id = (s.name, r.inboundGroup) := Prod.ext (mem_inboundRowsOf_key hr).1 rfl
    have hmem : r' ∈ inboundRowsOf s := h.rows r.inboundGroup r' (hid ▸ hr')
    rw [hr', List.inj_on_of_nodup_map (inboundRowsOf_keys_nodup hs) hmem hr
      (KeyedTable.key_of_find hr')]
  · intro g hg
    cases hfind : db.inbounds.find (s.name, g) with
    | none => rfl
    | some r =>
        have hid : r.id = (s.name, g) := KeyedTable.key_of_find hfind
        have hgroup : r.inboundGroup = g := congrArg Prod.snd hid
        exact absurd (hgroup ▸ (mem_inboundRowsOf_key (h.rows g r hfind)).2) hg

theorem StoresInbounds.congr {s : KetServer} {db db' : Db} (h : StoresInbounds s db)
    (hsame : ∀ g, db'.inbounds.find (s.name, g) = db.inbounds.find (s.name, g)) :
    StoresInbounds s db' where
  rows g r hr := h.rows g r (hsame g ▸ hr)
  found r hr := by
    have hid : r.id = (s.name, r.inboundGroup) := Prod.ext (mem_inboundRowsOf_key hr).1 rfl
    rw [hid, hsame, ← hid]
    exact h.found r hr

/-- The statements of one server replace its inbounds and leave those of the
other servers alone. -/
theorem execAll_plainGroupStmts {s : KetServer} {db db' : Db}
    (h : execAll (plainGroupStmts s) db = .ok db') :
    db'.servers = db.servers ∧ db'.options = db.options ∧ StoresInbounds s db' ∧
      ∀ k, k.1 ≠ s.name → db'.inbounds.find k = db.inbounds.find k := by
  obtain ⟨db₁, db₂, db₃, hdelete, hinbounds, hstats, h⟩ := execAll_plainGroupStmts_iff.mp h
  cases hdelete
  cases hstats
  have hdb₂ := execAll_upsertInbound hinbounds
  have hdb' := execAll_insertStat h
  have hfind : db'.inbounds = db₂.inbounds := by rw [hdb']
  refine ⟨by rw [hdb', hdb₂], by rw [hdb', hdb₂], ⟨?_, ?_⟩, ?_⟩
  · intro g r hr
    rw [hfind, hdb₂] at hr
    by_cases hg : (s.name, g) ∈ (inboundRowsOf s).map InboundRow.id
    · obtain ⟨r', hr', _, hstored⟩ := KeyedTable.exists_find_foldl_upsert _ hg
      rw [hr] at hstored
      cases hstored
      exact hr'
    -- what the deletion left of the server has a group that is upserted
    · rw [KeyedTable.find_foldl_upsert_of_notMem _ hg, KeyedTable.find_retain,
        Option.filter_eq_some_iff] at hr
      obtain ⟨hr, hkeep⟩ := hr
      have hid : r.id = (s.name, g) := KeyedTable.key_of_find hr
      obtain ⟨hserver, hgroup⟩ := Prod.mk.inj hid
      have hmem : g ∈ s.inboundNames := by simpa [hserver, hgroup] using hkeep
      obtain ⟨inb, hinb, rfl⟩ := List.mem_map.mp hmem
      exact absurd (List.mem_map.mpr ⟨_, List.mem_map_of_mem hinb, rfl⟩) hg
  · intro r hr
    rw [hfind, hdb₂]
    obtain ⟨r', _, _, hstored⟩ := KeyedTable.exists_find_foldl_upsert
      (db.inbounds.retain fun r => r.serverName != s.name || s.inboundNames.contains r.inboundGroup)
      (List.mem_map_of_mem hr)
    rw [hstored]
    rfl
  · intro k hk
    have hfresh : k ∉ (inboundRowsOf s).map InboundRow.id := by
      intro hmem
      obtain ⟨r, hr, rfl⟩ := List.mem_map.mp hmem
      exact hk (mem_inboundRowsOf_key hr).1
    rw [hfind, hdb₂, KeyedTable.find_foldl_upsert_of_notMem _ hfresh]
    apply KeyedTable.find_retain_of_keep
    intro r hr
    have hid : r.id = k := KeyedTable.key_of_find hr
    have hserver : r.serverName ≠ s.name := by
      rw [← hid] at hk
      exact hk
    simp [hserver]

theorem execAll_groups {servers : List KetServer} {db db' : Db}
    (hnames : (servers.map KetServer.name).Nodup)
    (h : execAll (servers.flatMap plainGroupStmts) db = .ok db') :
    db'.servers = db.servers ∧ db'.options = db.options ∧
      (∀ s ∈ servers, StoresInbounds s db') ∧
      ∀ k, k.1 ∉ servers.map KetServer.name → db'.inbounds.find k = db.inbounds.find k := by
  induction servers generalizing db with
  | nil =>
      cases h
      simp
  | cons s rest ih =>
      rw [List.flatMap_cons, execAll_append] at h
      obtain ⟨db₁, hs, hrest⟩ := h
      obtain ⟨hfresh, hnames⟩ := List.nodup_cons.mp hnames
      obtain ⟨hservers₁, hoptions₁, hstores₁, hothers₁⟩ := execAll_plainGroupStmts hs
      obtain ⟨hservers, hoptions, hstores, hothers⟩ := ih hnames hrest
      refine ⟨hservers.trans hservers₁, hoptions.trans hoptions₁, ?_, ?_⟩
      · intro x hx
        rcases List.mem_cons.mp hx with rfl | hx
        · exact hstores₁.congr fun g => hothers (x.name, g) hfresh
        · exact hstores x hx
      · intro k hk
        rw [List.map_cons, List.mem_cons, not_or] at hk
        rw [hothers k hk.2, hothers₁ k hk.1]

/-- The server and inbound rows after a successful update are those of the cloud. -/
structure Stored (F : Forms) (cloud : Cloud) (db : Db) : Prop where
  servers : db.servers.rows.Perm (cloud.servers.map (serverRow F))
  inbounds : ∀ s ∈ cloud.servers, StoresInbounds s db

/-- The tables after a successful update hold the cloud and no other server. -/
structure Holds (F : Forms) (cloud : Cloud) (db : Db) : Prop where
  servers : db.servers.rows.Perm (cloud.servers.map (serverRow F))
  inbounds : ∀ s ∈ cloud.servers, (∀ r ∈ inboundRowsOf s, db.inbounds.find r.id = some r) ∧
    ∀ g, g ∉ s.inboundNames → db.inbounds.find (s.name, g) = none
  options : ∀ key value, ∀ cloudConfig,
    .setOption key value ∈ optionStmts F cloudConfig cloud.settings → key ≠ "cloud_config" →
    db.options.find key = some ⟨key, value⟩

theorem createDb_options_isSome {db : Db} {key : String}
    (h : key ∈ defaultOptions.map OptionRow.key) :
    ((createDb db).options.find key).isSome = true := by
  have hinsert : ∀ (l : List OptionRow) (t : KeyedTable OptionRow.key),
      (key ∈ l.map OptionRow.key ∨ (t.find key).isSome = true) →
        ((l.foldl KeyedTable.insertIgnore t).find key).isSome = true := by
    intro l
    induction l with
    | nil =>
        intro t ht
        simpa using ht
    | cons r rest ih =>
        intro t ht
        apply ih
        rw [KeyedTable.find_insertIgnore]
        rcases eq_or_ne key r.key with heq | hne
        · exact .inr (by simp [heq])
        · rw [if_neg hne]
          rcases ht with hmem | hfound
          · rw [List.map_cons, List.mem_cons] at hmem
            exact .inl (hmem.resolve_left hne)
          · exact .inr hfound
  exact hinsert defaultOptions db.options (.inl h)

theorem updateDb_stored {cloud : Cloud} {fault : Nat → Option BoxError}
    {cloudConfig : Except BoxError String} {db db' : Db} (hnames : cloud.names.Nodup)
    (h : updateDb F fault cloudConfig cloud db = (db', none)) :
    Stored F cloud db' ∧
      ∃ text db₁, execAll (optionStmts F text cloud.settings) db = .ok db₁ ∧
        db'.options = db₁.options := by
  obtain ⟨text, db₁, db₂, db₃, hoptions, hdelete, hupserts, hgroups⟩ := execAll_of_updateDb h
  cases hdelete
  have hdb₃ := execAll_upsertServer hupserts
  obtain ⟨hservers', hoptions', hstores, _⟩ := execAll_groups hnames hgroups
  have hkeys : (cloud.servers.map (serverRow F)).map ServerRow.name = cloud.names := by
    rw [List.map_map]
    rfl
  refine ⟨⟨?_, hstores⟩, text, db₁, hoptions, ?_⟩
  · rw [hservers', hdb₃]
    apply KeyedTable.foldl_upsert_perm (hkeys ▸ hnames)
    intro row hrow
    rw [hkeys]
    simpa using (KeyedTable.mem_retain.mp hrow).2
  · rw [hoptions', hdb₃]

theorem updateDb_holds {cloud : Cloud} {fault : Nat → Option BoxError}
    {cloudConfig : Except BoxError String} {db db' : Db} (hnames : cloud.names.Nodup)
    (hinb : ∀ s ∈ cloud.servers, s.inboundNames.Nodup)
    (h : updateDb F fault cloudConfig cloud (createDb db) = (db', none)) :
    Holds F cloud db' := by
  obtain ⟨hstored, text, db₁, hexec, hoptions⟩ := updateDb_stored hnames h
  obtain ⟨_, hset⟩ := execAll_optionStmts hexec
  refine ⟨hstored.servers, fun s hs => (hstored.inbounds s hs).find (hinb s hs), ?_⟩
  intro key value cloudConfig' hmem hkey
  rw [hoptions]
  apply hset
  · simp only [optionStmts, List.mem_cons, List.not_mem_nil, or_false] at hmem ⊢
    rcases hmem with heq | hmem
    · cases heq
      exact absurd rfl hkey
    · exact .inr hmem
  · apply createDb_options_isSome
    simp only [optionStmts, List.mem_cons, List.not_mem_nil, or_false,
      Stmt.setOption.injEq] at hmem
    rcases hmem with ⟨rfl, _⟩ | ⟨rfl, _⟩ | ⟨rfl, _⟩ | ⟨rfl, _⟩ | ⟨rfl, _⟩ <;> decide

end Update

/-- What a server that was loaded from a row is known to be. -/
structure LoadedFrom (db : Db) (r : ServerRow) (s : KetServer) : Prop where
  name : s.name = r.name
  state : ServerState.ofText r.state = some s.state
  inbounds : (inboundRows db r.name).mapM loadInbound = .ok s.inbounds
  secrets : s.secrets = loadSecrets r (inboundRows db r.name)

theorem loadServer_ok {F : Forms} {db : Db} {r : ServerRow} {s : KetServer}
    (h : loadServer F db r = .ok s) : LoadedFrom db r s := by
  simp only [loadServer, bind_eq_ok_iff, okOr_eq_ok_iff] at h
  obtain ⟨_, _, _, _, _, _, state, hstate, _, _, inbounds, hinbounds, h⟩ := h
  cases h
  exact ⟨rfl, hstate, hinbounds, rfl⟩

/-- A loaded server has a connection, and no Cloudflare state yet. -/
theorem loadServer_fresh {F : Forms} {db : Db} {r : ServerRow} {s : KetServer}
    (h : loadServer F db r = .ok s) : s.ansibleConn = some (loadConn r) ∧ s.cfstate = none := by
  simp only [loadServer, bind_eq_ok_iff, okOr_eq_ok_iff] at h
  obtain ⟨_, _, _, _, _, _, _, _, _, _, _, _, h⟩ := h
  cases h
  exact ⟨rfl, rfl⟩

theorem mem_loadCloud {F : Forms} {db : Db} {c : Cloud} (h : loadCloud F db = .ok c)
    {s : KetServer} (hs : s ∈ c.servers) : ∃ r ∈ db.servers.rows, loadServer F db r = .ok s := by
  obtain ⟨servers, hservers, h⟩ := bind_eq_ok_iff.mp h
  obtain ⟨settings, _, h⟩ := bind_eq_ok_iff.mp h
  cases h
  exact exists_left_of_mem (mapM_eq_ok_iff.mp hservers) hs

theorem loadCloud_ok {F : Forms} {db : Db} {c : Cloud} (h : loadCloud F db = .ok c) :
    List.Forall₂ (LoadedFrom db) db.servers.rows c.servers := by
  obtain ⟨servers, hservers, h⟩ := bind_eq_ok_iff.mp h
  obtain ⟨settings, _, h⟩ := bind_eq_ok_iff.mp h
  cases h
  exact (mapM_eq_ok_iff.mp hservers).imp fun _ _ => loadServer_ok

section LoadedInbounds

variable {db : Db} {n i : String}

theorem find?_inboundRows :
    ((inboundRows db n).find? fun r => r.inboundGroup == i) = db.inbounds.find (n, i) := by
  rw [inboundRows, List.find?_filter, KeyedTable.find]
  congr 1
  funext r
  rw [Bool.eq_iff_iff]
  simp [InboundRow.id]

theorem motherSubid_loadSecrets (r : ServerRow) :
    (loadSecrets r (inboundRows db n)).motherSubid i =
      (db.inbounds.find (n, i)).map InboundRow.motherSubid := by
  change (orInsertAll [] _).lookup i = _
  rw [lookup_orInsertAll, List.lookup_nil, Option.none_or, lookup_map_eq_find?,
    find?_inboundRows]

theorem LoadedFrom.inboundNames_eq {r : ServerRow} {s : KetServer} (h : LoadedFrom db r s) :
    s.inboundNames = (inboundRows db r.name).map InboundRow.inboundGroup := by
  symm
  refine map_eq_of_forall₂ (mapM_eq_ok_iff.mp h.inbounds) ?_
  intro row inb hrow
  obtain ⟨kind, _, hrow⟩ := bind_eq_ok_iff.mp hrow
  cases hrow
  rfl

theorem LoadedFrom.mem_inboundNames_iff {r : ServerRow} {s : KetServer} (h : LoadedFrom db r s) :
    i ∈ s.inboundNames ↔ ∃ row, db.inbounds.find (r.name, i) = some row := by
  rw [h.inboundNames_eq, ← Option.isSome_iff_exists, ← find?_inboundRows, List.find?_isSome]
  simp

theorem LoadedFrom.inboundNames_nodup {r : ServerRow} {s : KetServer} (h : LoadedFrom db r s) :
    s.inboundNames.Nodup := by
  rw [h.inboundNames_eq]
  refine List.Nodup.map_on ?_ (db.inbounds.keys_nodup.of_map.filter _)
  intro x hx y hy hgroup
  rw [inboundRows, List.mem_filter, beq_iff_eq] at hx hy
  refine List.inj_on_of_nodup_map db.inbounds.keys_nodup hx.1 hy.1 ?_
  exact Prod.ext (hx.2.trans hy.2.symm) hgroup

end LoadedInbounds

end Xcplane.DatabaseSpec
