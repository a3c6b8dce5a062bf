import Xcplane.DatabaseSpec
import Xcplane.Specimen
import Xcplane.Lib.Settling

/-!
What a failed update leaves of the database. The statements run outside a
transaction, so those before the failing one stay executed.
-/

namespace Xcplane.UpdateAtomicity

open Xcplane.Types
open Xcplane.Lib
open Xcplane.Database
open Xcplane.DatabaseSpec

/-- The two databases answer every lookup alike. -/
structure SameTables (db db' : Db) : Prop where
  options : ∀ k, db'.options.find k = db.options.find k
  servers : ∀ k, db'.servers.find k = db.servers.find k
  inbounds : ∀ k, db'.inbounds.find k = db.inbounds.find k
  stats : ∀ k, db'.stats.find k = db.stats.find k

/-- The tables already have what the statement is for. -/
def Settled (stmt : Stmt) (db : Db) : Prop :=
  match stmt with
  | .setOption key value => ∀ r, db.options.find key = some r → r.value = value
  | .deleteServersNotIn names => ∀ n r, db.servers.find n = some r → n ∈ names
  | .upsertServer row => db.servers.find row.name = some row
  | .deleteInboundsNotIn server names =>
      ∀ g r, db.inbounds.find (server, g) = some r → g ∈ names
  | .upsertInbound row => db.inbounds.find row.id = some row
  | .deleteStatsNotIn server services =>
      ∀ v r, db.stats.find (server, v) = some r → v ∈ services
  | .insertStat server service => (db.stats.find (server, service)).isSome = true

/-- The statements before the one that fails, or before the one whose parameters
are missing. -/
def performed (fault : Nat → Option BoxError) : List (Except BoxError Stmt) → Nat → List Stmt
  | [], _ => []
  | .error _ :: _, _ => []
  | .ok stmt :: rest, i =>
      match fault i with
      | some _ => []
      | none => stmt :: performed fault rest (i + 1)

section Statements

variable {db db' : Db}

theorem sameTables_equivalence : Equivalence SameTables where
  refl _ := ⟨fun _ => rfl, fun _ => rfl, fun _ => rfl, fun _ => rfl⟩
  symm h := ⟨fun k => (h.options k).symm, fun k => (h.servers k).symm,
    fun k => (h.inbounds k).symm, fun k => (h.stats k).symm⟩
  trans h h' := ⟨fun k => (h'.options k).trans (h.options k),
    fun k => (h'.servers k).trans (h.servers k),
    fun k => (h'.inbounds k).trans (h.inbounds k), fun k => (h'.stats k).trans (h.stats k)⟩

theorem settled_congr (stmt : Stmt) (h : SameTables db db') (hs : Settled stmt db') :
    Settled stmt db := by
  cases stmt with
  | setOption key value => exact fun r hr => hs r ((h.options key).trans hr)
  | deleteServersNotIn names => exact fun n r hr => hs n r ((h.servers n).trans hr)
  | upsertServer row => exact (h.servers row.name).symm.trans hs
  | deleteInboundsNotIn server names => exact fun g r hr => hs g r ((h.inbounds _).trans hr)
  | upsertInbound row => exact (h.inbounds row.id).symm.trans hs
  | deleteStatsNotIn server services => exact fun v r hr => hs v r ((h.stats _).trans hr)
  | insertStat server service =>
      rw [Settled, ← h.stats]
      exact hs

theorem exec_settled (stmt : Stmt) (db db' : Db) (h : exec stmt db = .ok db') :
    Settled stmt db' := by
  cases stmt with
  | setOption key value =>
      cases h
      intro r hr
      rw [KeyedTable.find_modify, if_pos rfl, Option.map_eq_some_iff] at hr
      obtain ⟨r, _, rfl⟩ := hr
      rfl
  | deleteServersNotIn names =>
      cases h
      intro n r hr
      have hname : r.name = n := KeyedTable.key_of_find hr
      rw [KeyedTable.find_retain, Option.filter_eq_some_iff] at hr
      rw [← hname]
      simpa using hr.2
  | upsertServer row =>
      rw [exec_upsertServer h]
      exact KeyedTable.find_upsert_self _ _
  | deleteInboundsNotIn server names =>
      cases h
      intro g r hr
      have hid : r.id = (server, g) := KeyedTable.key_of_find hr
      obtain ⟨hserver, hgroup⟩ := Prod.mk.inj hid
      rw [KeyedTable.find_retain, Option.filter_eq_some_iff] at hr
      simpa [hserver, hgroup] using hr.2
  | upsertInbound row =>
      rw [exec_upsertInbound h]
      exact KeyedTable.find_upsert_self _ _
  | deleteStatsNotIn server services =>
      cases h
      intro v r hr
      have hid : r.id = (server, v) := KeyedTable.key_of_find hr
      obtain ⟨hserver, hservice⟩ := Prod.mk.inj hid
      rw [KeyedTable.find_retain, Option.filter_eq_some_iff] at hr
      simpa [hserver, hservice] using hr.2
  | insertStat server service =>
      rw [exec_insertStat h, Settled, KeyedTable.find_insertIgnore]
      simp [unknownStat, StatRow.id]

theorem exec_of_settled (stmt : Stmt) (db db' : Db) (hs : Settled stmt db)
    (h : exec stmt db = .ok db') : SameTables db db' := by
  cases stmt with
  | setOption key value =>
      cases h
      refine ⟨fun k => ?_, fun _ => rfl, fun _ => rfl, fun _ => rfl⟩
      rw [KeyedTable.find_modify]
      split
      · rename_i hk
        subst hk
        cases hr : db.options.find k with
        | none => rfl
        | some r =>
            have hvalue : r.value = value := hs r hr
            rw [Option.map_some, ← hvalue]
      · rfl
  | deleteServersNotIn names =>
      cases h
      have hkept : ∀ server, cascades db names server = false := by
        intro server
        cases hr : db.servers.find server with
        | none => simp [cascades, hr]
        | some r => simp [cascades, hs server r hr]
      refine ⟨fun _ => rfl, fun k => ?_, fun k => ?_, fun k => ?_⟩
      · apply KeyedTable.find_retain_of_keep
        intro r hr
        have hname : r.name = k := KeyedTable.key_of_find hr
        simpa [hname] using hs k r hr
      · apply KeyedTable.find_retain_of_keep
        intro r _
        simp [hkept]
      · apply KeyedTable.find_retain_of_keep
        intro r _
        simp [hkept]
  | upsertServer row =>
      rw [exec_upsertServer h]
      exact ⟨fun _ => rfl, KeyedTable.find_upsert_of_find hs, fun _ => rfl, fun _ => rfl⟩
  | deleteInboundsNotIn server names =>
      cases h
      refine ⟨fun _ => rfl, fun _ => rfl, fun k => ?_, fun _ => rfl⟩
      apply KeyedTable.find_retain_of_keep
      intro r hr
      have hid : r.id = k := KeyedTable.key_of_find hr
      by_cases hserver : r.serverName = server
      · have hk : k = (server, r.inboundGroup) := by rw [← hid, ← hserver]; rfl
        simp [hs r.inboundGroup r (hk ▸ hr)]
      · simp [hserver]
  | upsertInbound row =>
      rw [exec_upsertInbound h]
      exact ⟨fun _ => rfl, fun _ => rfl, KeyedTable.find_upsert_of_find hs, fun _ => rfl⟩
  | deleteStatsNotIn server services =>
      cases h
      refine ⟨fun _ => rfl, fun _ => rfl, fun _ => rfl, fun k => ?_⟩
      apply KeyedTable.find_retain_of_keep
      intro r hr
      have hid : r.id = k := KeyedTable.key_of_find hr
      by_cases hserver : r.serverName = server
      · have hk : k = (server, r.service) := by rw [← hid, ← hserver]; rfl
        simp [hs r.service r (hk ▸ hr)]
      · simp [hserver]
  | insertStat server service =>
      rw [exec_insertStat h]
      refine ⟨fun _ => rfl, fun _ => rfl, fun _ => rfl, fun k => ?_⟩
      have hfound : (db.stats.find (unknownStat server service).id).isSome = true := hs
      rw [KeyedTable.insertIgnore, if_pos hfound]

theorem stmt_settling : Settling exec Settled SameTables where
  equivalence := sameTables_equivalence
  congr stmt _ _ := settled_congr stmt
  establishes := exec_settled
  unchanged := exec_of_settled

/-- Executing the second statement does not undo the first one. -/
def Spares : Stmt → Stmt → Prop
  | .setOption key _, .setOption key' _ => key' ≠ key
  | .deleteServersNotIn names, .upsertServer row => row.name ∈ names
  | .upsertServer row, .upsertServer row' => row'.name ≠ row.name
  | .deleteInboundsNotIn server names, .upsertInbound row =>
      row.serverName = server → row.inboundGroup ∈ names
  | .upsertInbound row, .upsertInbound row' => row'.id ≠ row.id
  | .upsertInbound row, .deleteInboundsNotIn server names =>
      row.serverName = server → row.inboundGroup ∈ names
  | .deleteStatsNotIn server services, .insertStat server' service =>
      server' = server → service ∈ services
  | .insertStat server service, .deleteStatsNotIn server' services =>
      server = server' → service ∈ services
  | .setOption _ _, .deleteServersNotIn _ => True
  | _, .deleteServersNotIn _ => False
  | _, _ => True

theorem leaves_of_spares (stmt stmt' : Stmt) (hspares : Spares stmt stmt') :
    Leaves exec Settled stmt stmt' := by
  intro db db' hs h
  cases stmt' with
  | setOption key' value' =>
      cases h
      cases stmt with
      | setOption key value =>
          intro r hr
          rw [KeyedTable.find_modify, if_neg (Ne.symm hspares)] at hr
          exact hs r hr
      | _ => exact hs
  | deleteServersNotIn names =>
      cases h
      cases stmt with
      | setOption key value => exact hs
      | _ => exact hspares.elim
  | upsertServer row' =>
      rw [exec_upsertServer h]
      cases stmt with
      | deleteServersNotIn names =>
          intro n r hr
          rcases KeyedTable.find_of_find_upsert hr with rfl | hr
          · exact hspares
          · exact hs n r hr
      | upsertServer row => exact (KeyedTable.find_upsert_of_ne _ (Ne.symm hspares)).trans hs
      | _ => exact hs
  | deleteInboundsNotIn server' names' =>
      cases h
      cases stmt with
      | deleteInboundsNotIn server names =>
          exact fun g r hr => hs g r (KeyedTable.find_of_find_retain hr).1
      | upsertInbound row =>
          refine (KeyedTable.find_retain_of_keep ?_).trans hs
          intro r hr
          have hrow : row = r := Option.some.inj (hs.symm.trans hr)
          subst hrow
          by_cases hserver : row.serverName = server'
          · simp [hspares hserver]
          · simp [hserver]
      | _ => exact hs
  | upsertInbound row' =>
      rw [exec_upsertInbound h]
      cases stmt with
      | deleteInboundsNotIn server names =>
          intro g r hr
          rcases KeyedTable.find_of_find_upsert hr with hid | hr
          · obtain ⟨hserver, hgroup⟩ := Prod.mk.inj hid
            exact hgroup ▸ hspares hserver.symm
          · exact hs g r hr
      | upsertInbound row => exact (KeyedTable.find_upsert_of_ne _ (Ne.symm hspares)).trans hs
      | _ => exact hs
  | deleteStatsNotIn server' services' =>
      cases h
      cases stmt with
      | deleteStatsNotIn server services =>
          exact fun v r hr => hs v r (KeyedTable.find_of_find_retain hr).1
      | insertStat server service =>
          obtain ⟨r, hr⟩ := Option.isSome_iff_exists.mp hs
          refine Option.isSome_iff_exists.mpr ⟨r, (KeyedTable.find_retain_of_keep ?_).trans hr⟩
          intro r' hr'
          have hid : r'.id = (server, service) := KeyedTable.key_of_find hr'
          obtain ⟨hserver, hservice⟩ := Prod.mk.inj hid
          by_cases hsame : server = server'
          · simp [hservice, hspares hsame]
          · simp [hserver, hsame]
      | _ => exact hs
  | insertStat server' service' =>
      rw [exec_insertStat h]
      cases stmt with
      | deleteStatsNotIn server services =>
          intro v r hr
          rw [KeyedTable.find_insertIgnore] at hr
          split at hr
          · rename_i hv
            obtain ⟨hserver, hservice⟩ := Prod.mk.inj hv
            exact hservice ▸ hspares hserver.symm
          · exact hs v r hr
      | insertStat server service =>
          obtain ⟨r, hr⟩ := Option.isSome_iff_exists.mp hs
          rw [Settled, KeyedTable.find_insertIgnore, hr]
          split <;> rfl
      | _ => exact hs

end Statements

section Sequences

variable {F : Forms} {cloud : Cloud} {fault : Nat → Option BoxError}

/-- The statements that need a server row come after the one that writes it. -/
def Grounded : List String → List (Except BoxError Stmt) → Prop
  | _, [] => True
  | _, .error _ :: _ => True
  | known, .ok (.upsertServer row) :: rest =>
      (row.enabled = 0 ∨ row.enabled = 1) ∧
        (row.cloudflareProxied = 0 ∨ row.cloudflareProxied = 1) ∧
        Grounded (row.name :: known) rest
  | known, .ok (.upsertInbound row) :: rest => row.serverName ∈ known ∧ Grounded known rest
  | known, .ok (.insertStat server _) :: rest => server ∈ known ∧ Grounded known rest
  | _, .ok (.deleteServersNotIn _) :: rest => Grounded [] rest
  | known, .ok _ :: rest => Grounded known rest

/-- The statements after a grounded one are grounded in the server rows that it leaves. -/
theorem exec_grounded {known : List String} {stmt : Stmt} {rest : List (Except BoxError Stmt)}
    {db : Db} (h : Grounded known (.ok stmt :: rest))
    (hknown : ∀ n ∈ known, (db.servers.find n).isSome = true) :
    ∃ known' db', exec stmt db = .ok db' ∧ Grounded known' rest ∧
      ∀ n ∈ known', (db'.servers.find n).isSome = true := by
  cases stmt with
  | setOption key value => exact ⟨known, _, rfl, h, hknown⟩
  | deleteServersNotIn names => exact ⟨[], _, rfl, h, by simp⟩
  | upsertServer row =>
      obtain ⟨henabled, hproxied, hrest⟩ := h
      have hexec : exec (.upsertServer row) db =
          .ok { db with servers := db.servers.upsert row } := by
        simp [exec, checkFlag, ensure, henabled, hproxied, bind, Except.bind]
      refine ⟨row.name :: known, _, hexec, hrest, ?_⟩
      intro n hn
      rw [KeyedTable.find_upsert]
      split
      · rfl
      · rename_i hne
        exact hknown n ((List.mem_cons.mp hn).resolve_left hne)
  | deleteInboundsNotIn server names => exact ⟨known, _, rfl, h, hknown⟩
  | upsertInbound row =>
      have hexec : exec (.upsertInbound row) db =
          .ok { db with inbounds := db.inbounds.upsert row } := by
        simp [exec, checkForeignKey, ensure, hknown _ h.1, bind, Except.bind]
      exact ⟨known, _, hexec, h.2, hknown⟩
  | deleteStatsNotIn server services => exact ⟨known, _, rfl, h, hknown⟩
  | insertStat server service =>
      have hexec : exec (.insertStat server service) db =
          .ok { db with stats := db.stats.insertIgnore (unknownStat server service) } := by
        simp [exec, checkForeignKey, ensure, hknown _ h.1, bind, Except.bind, unknownStat]
      exact ⟨known, _, hexec, h.2, hknown⟩

/-- The engine executes a grounded sequence up to the statement that fails from
outside. -/
theorem execAll_performed {known : List String} {stmts : List (Except BoxError Stmt)}
    (h : Grounded known stmts) {i : Nat} {db : Db}
    (hknown : ∀ n ∈ known, (db.servers.find n).isSome = true) :
    execAll (performed fault stmts i) db = .ok (runStmts fault stmts i db).1 := by
  induction stmts generalizing known i db with
  | nil => rfl
  | cons x rest ih =>
      cases x with
      | error e => rfl
      | ok stmt =>
          rw [performed, runStmts]
          cases fault i with
          | some e => rfl
          | none =>
              obtain ⟨known', db₁, hdb₁, hrest, hknown'⟩ := exec_grounded h hknown
              rw [hdb₁]
              simp only
              exact execAll_cons.mpr ⟨db₁, hdb₁, ih hrest hknown'⟩

theorem flag_cases (b : Bool) : flag b = 0 ∨ flag b = 1 := by
  cases b
  · exact .inl rfl
  · exact .inr rfl

theorem grounded_group {known : List String} {s : KetServer}
    {rest : List (Except BoxError Stmt)} (hs : s.name ∈ known) (hrest : Grounded known rest) :
    Grounded known (groupStmts s ++ rest) := by
  have hstats : ∀ services : List String,
      Grounded known ((services.map fun svc => .ok (.insertStat s.name svc)) ++ rest) := by
    intro services
    induction services with
    | nil => exact hrest
    | cons svc services ih => exact ⟨hs, ih⟩
  have hinbounds : ∀ inbounds : List Inbound, Grounded known (inbounds.map (inboundStmt s) ++
      (.ok (.deleteStatsNotIn s.name (Server.svcKindsString s)) ::
        ((Server.svcKindsString s).map fun svc => .ok (.insertStat s.name svc)) ++ rest)) := by
    intro inbounds
    induction inbounds with
    | nil => exact hstats _
    | cons inb inbounds ih =>
        rw [List.map_cons, List.cons_append, inboundStmt]
        cases s.secrets.motherSubid inb.name with
        | none => trivial
        | some subid => exact ⟨hs, ih⟩
  have hgroup := hinbounds s.inbounds
  rw [← List.append_assoc] at hgroup
  exact hgroup

theorem grounded_groups {known : List String} {servers : List KetServer}
    (h : ∀ s ∈ servers, s.name ∈ known) : Grounded known (servers.flatMap groupStmts) := by
  induction servers with
  | nil => trivial
  | cons s rest ih =>
      rw [List.forall_mem_cons] at h
      exact grounded_group h.1 (ih h.2)

theorem grounded_servers {known : List String} {servers : List KetServer}
    {rest : List (Except BoxError Stmt)}
    (h : ∀ known', known ⊆ known' → (∀ s ∈ servers, s.name ∈ known') → Grounded known' rest) :
    Grounded known (servers.map (fun s => .ok (.upsertServer (serverRow F s))) ++ rest) := by
  induction servers generalizing known with
  | nil => exact h known (List.Subset.refl _) (by simp)
  | cons s servers ih =>
      refine ⟨flag_cases _, flag_cases _, ih ?_⟩
      intro known' hsubset hservers
      refine h known' (fun n hn => hsubset (List.mem_cons_of_mem _ hn)) ?_
      rw [List.forall_mem_cons]
      exact ⟨hsubset List.mem_cons_self, hservers⟩

theorem grounded_updateStmts (cloudConfig : Except BoxError String) :
    Grounded [] (updateStmts F cloudConfig cloud) := by
  cases cloudConfig with
  | error e => trivial
  | ok text =>
      simp only [updateStmts]
      rw [List.append_assoc]
      exact grounded_servers fun known _ hknown => grounded_groups hknown

end Sequences

section Order

variable {F : Forms} {cloud : Cloud} {fault : Nat → Option BoxError} {s : KetServer}

def SparesOk (x y : Except BoxError Stmt) : Prop :=
  ∀ stmt stmt', x = .ok stmt → y = .ok stmt' → Spares stmt stmt'

/-- The statement is about the inbounds or the stats of the server. -/
def OwnedBy (server : String) : Stmt → Prop
  | .deleteInboundsNotIn server' _ => server' = server
  | .upsertInbound row => row.serverName = server
  | .deleteStatsNotIn server' _ => server' = server
  | .insertStat server' _ => server' = server
  | _ => False

theorem mem_performed {stmts : List (Except BoxError Stmt)} {i : Nat} {stmt : Stmt}
    (h : stmt ∈ performed fault stmts i) : .ok stmt ∈ stmts := by
  induction stmts generalizing i with
  | nil => simp [performed] at h
  | cons x rest ih =>
      cases x with
      | error e => simp [performed] at h
      | ok stmt' =>
          rw [performed] at h
          cases hfault : fault i with
          | some e => simp [hfault] at h
          | none =>
              rw [hfault] at h
              rcases List.mem_cons.mp h with rfl | h
              · exact List.mem_cons_self
              · exact List.mem_cons_of_mem _ (ih h)

theorem performed_pairwise {stmts : List (Except BoxError Stmt)} {i : Nat}
    (h : stmts.Pairwise SparesOk) : (performed fault stmts i).Pairwise Spares := by
  induction stmts generalizing i with
  | nil => exact .nil
  | cons x rest ih =>
      rw [List.pairwise_cons] at h
      cases x with
      | error e => exact .nil
      | ok stmt =>
          rw [performed]
          cases fault i with
          | some e => exact .nil
          | none =>
              refine .cons ?_ (ih h.2)
              intro stmt' hstmt'
              exact h.1 _ (mem_performed hstmt') stmt stmt' rfl rfl

theorem inboundStmt_ok {inb : Inbound} {stmt : Stmt} (h : inboundStmt s inb = .ok stmt) :
    ∃ subid, stmt = .upsertInbound (inboundRow s.name inb subid) := by
  obtain ⟨subid, _, h⟩ := bind_eq_ok_iff.mp h
  exact ⟨subid, (Except.ok.inj h).symm⟩

theorem ownedBy_of_mem {stmt : Stmt} (h : .ok stmt ∈ groupStmts s) : OwnedBy s.name stmt := by
  rw [groupStmts, List.cons_append, List.mem_cons, List.mem_append, List.mem_cons] at h
  rcases h with h | h | h | h
  · cases h
    rfl
  · obtain ⟨inb, _, h⟩ := List.mem_map.mp h
    obtain ⟨subid, rfl⟩ := inboundStmt_ok h
    rfl
  · cases h
    rfl
  · obtain ⟨svc, _, h⟩ := List.mem_map.mp h
    cases h
    rfl

/-- The statements of different servers leave each other alone. -/
theorem spares_of_ownedBy {n n' : String} {stmt stmt' : Stmt} (hne : n ≠ n')
    (h : OwnedBy n stmt) (h' : OwnedBy n' stmt') : Spares stmt stmt' := by
  cases stmt with
  | setOption => exact h.elim
  | deleteServersNotIn => exact h.elim
  | upsertServer => exact h.elim
  | deleteInboundsNotIn server names =>
      cases stmt' with
      | upsertInbound row => exact fun heq => absurd (h.symm.trans (heq.symm.trans h')) hne
      | deleteServersNotIn => exact h'.elim
      | _ => trivial
  | upsertInbound row =>
      cases stmt' with
      | deleteInboundsNotIn server names =>
          exact fun heq => absurd (h.symm.trans (heq.trans h')) hne
      | upsertInbound row' =>
          intro hid
          exact hne (h.symm.trans ((congrArg Prod.fst hid).symm.trans h'))
      | deleteServersNotIn => exact h'.elim
      | _ => trivial
  | deleteStatsNotIn server services =>
      cases stmt' with
      | insertStat server' service => exact fun heq => absurd (h.symm.trans (heq.symm.trans h')) hne
      | deleteServersNotIn => exact h'.elim
      | _ => trivial
  | insertStat server service =>
      cases stmt' with
      | deleteStatsNotIn server' services =>
          exact fun heq => absurd (h.symm.trans (heq.trans h')) hne
      | deleteServersNotIn => exact h'.elim
      | _ => trivial

theorem inboundStmts_pairwise (hs : s.inboundNames.Nodup) :
    (s.inbounds.map (inboundStmt s)).Pairwise SparesOk := by
  rw [List.pairwise_map]
  refine (List.pairwise_map.mp hs).imp ?_
  intro inb inb' hne stmt stmt' h h'
  obtain ⟨subid, rfl⟩ := inboundStmt_ok h
  obtain ⟨subid', rfl⟩ := inboundStmt_ok h'
  exact fun hid => hne (congrArg Prod.snd hid).symm

theorem insertStats_pairwise (server : String) (services : List String) :
    (services.map fun svc =>
      (.ok (.insertStat server svc) : Except BoxError Stmt)).Pairwise SparesOk := by
  rw [List.pairwise_map]
  refine List.pairwise_of_forall fun svc svc' stmt stmt' h h' => ?_
  cases h
  cases h'
  trivial

theorem groupStmts_pairwise (hs : s.inboundNames.Nodup) : (groupStmts s).Pairwise SparesOk := by
  rw [groupStmts, List.pairwise_append, List.pairwise_cons, List.pairwise_cons]
  refine ⟨⟨?_, inboundStmts_pairwise hs⟩, ⟨?_, insertStats_pairwise _ _⟩, ?_⟩
  · intro x hx stmt stmt' h h'
    obtain ⟨inb, hinb, rfl⟩ := List.mem_map.mp hx
    obtain ⟨subid, rfl⟩ := inboundStmt_ok h'
    cases h
    exact fun _ => List.mem_map_of_mem hinb
  · intro x hx stmt stmt' h h'
    obtain ⟨svc, hsvc, rfl⟩ := List.mem_map.mp hx
    cases h
    cases h'
    exact fun _ => hsvc
  · -- a statement on the inbounds, then one on the stats
    intro x hx y hy stmt stmt' h h'
    have hfirst : (∃ names, stmt = .deleteInboundsNotIn s.name names) ∨
        ∃ row, stmt = .upsertInbound row := by
      rcases List.mem_cons.mp hx with rfl | hx
      · exact .inl ⟨_, (Except.ok.inj h).symm⟩
      · obtain ⟨inb, _, rfl⟩ := List.mem_map.mp hx
        obtain ⟨subid, rfl⟩ := inboundStmt_ok h
        exact .inr ⟨_, rfl⟩
    have hsecond : (∃ services, stmt' = .deleteStatsNotIn s.name services) ∨
        ∃ svc, stmt' = .insertStat s.name svc := by
      rcases List.mem_cons.mp hy with rfl | hy
      · exact .inl ⟨_, (Except.ok.inj h').symm⟩
      · obtain ⟨svc, _, rfl⟩ := List.mem_map.mp hy
        exact .inr ⟨svc, (Except.ok.inj h').symm⟩
    rcases hfirst with ⟨_, rfl⟩ | ⟨_, rfl⟩ <;> rcases hsecond with ⟨_, rfl⟩ | ⟨_, rfl⟩ <;> trivial

theorem groups_pairwise {servers : List KetServer} (hnames : (servers.map KetServer.name).Nodup)
    (hinb : ∀ s ∈ servers, s.inboundNames.Nodup) :
    (servers.flatMap groupStmts).Pairwise SparesOk := by
  rw [List.pairwise_flatMap]
  refine ⟨fun s hs => groupStmts_pairwise (hinb s hs), ?_⟩
  refine (List.pairwise_map.mp hnames).imp ?_
  intro s s' hne x hx y hy stmt stmt' h h'
  subst h
  subst h'
  exact spares_of_ownedBy hne (ownedBy_of_mem hx) (ownedBy_of_mem hy)

theorem optionStmts_pairwise (text : String) (settings : CloudSettings) :
    (optionStmts F text settings).Pairwise Spares := by
  simp [optionStmts, Spares]

/-- The statements up to the groups of the servers. -/
inductive Leading (F : Forms) (cloud : Cloud) : Stmt → Prop
  | option (key value : String) : Leading F cloud (.setOption key value)
  | delete : Leading F cloud (.deleteServersNotIn cloud.names)
  | server (s : KetServer) (hs : s ∈ cloud.servers) :
      Leading F cloud (.upsertServer (serverRow F s))

theorem Leading.spares {stmt stmt' : Stmt} {server : String} (h : Leading F cloud stmt)
    (h' : OwnedBy server stmt') : Spares stmt stmt' := by
  cases h <;> cases stmt' <;> trivial

theorem leading_of_mem {text : String} {stmt : Stmt}
    (h : .ok stmt ∈ (optionStmts F text cloud.settings).map Except.ok ++
      .ok (.deleteServersNotIn cloud.names) ::
        cloud.servers.map (fun s => (.ok (.upsertServer (serverRow F s)) : Except BoxError Stmt))) :
    Leading F cloud stmt := by
  rw [List.mem_append, List.mem_cons] at h
  rcases h with h | h | h
  · obtain ⟨option, hoption, heq⟩ := List.mem_map.mp h
    cases heq
    obtain ⟨key, value, rfl⟩ := mem_optionStmts hoption
    exact .option key value
  · cases h
    exact .delete
  · obtain ⟨s, hs, heq⟩ := List.mem_map.mp h
    cases heq
    exact .server s hs

theorem serverStmts_pairwise (hnames : cloud.names.Nodup) :
    (cloud.servers.map fun s =>
      (.ok (.upsertServer (serverRow F s)) : Except BoxError Stmt)).Pairwise SparesOk := by
  rw [List.pairwise_map]
  refine (List.pairwise_map.mp hnames).imp ?_
  intro s s' hne stmt stmt' h h'
  cases h
  cases h'
  exact Ne.symm hne

theorem updateStmts_pairwise (hnames : cloud.names.Nodup)
    (hinb : ∀ s ∈ cloud.servers, s.inboundNames.Nodup) (cloudConfig : Except BoxError String) :
    (updateStmts F cloudConfig cloud).Pairwise SparesOk := by
  cases cloudConfig with
  | error e => exact .cons (by simp) .nil
  | ok text =>
      have hoptions : ((optionStmts F text cloud.settings).map Except.ok).Pairwise SparesOk := by
        rw [List.pairwise_map]
        refine (optionStmts_pairwise text cloud.settings).imp ?_
        rintro a b hab stmt stmt' ⟨⟩ ⟨⟩
        exact hab
      rw [updateStmts, List.pairwise_append, List.pairwise_append, List.pairwise_cons]
      refine ⟨⟨hoptions, ⟨?_, serverStmts_pairwise hnames⟩, ?_⟩, groups_pairwise hnames hinb, ?_⟩
      · intro x hx stmt stmt' h h'
        obtain ⟨s, hs, rfl⟩ := List.mem_map.mp hx
        cases h
        cases h'
        exact Cloud.mem_names hs
      · intro x hx y hy stmt stmt' h h'
        obtain ⟨option, hoption, rfl⟩ := List.mem_map.mp hx
        cases h
        obtain ⟨key, value, rfl⟩ := mem_optionStmts hoption
        rcases List.mem_cons.mp hy with rfl | hy
        · cases h'
          trivial
        · obtain ⟨s, _, rfl⟩ := List.mem_map.mp hy
          cases h'
          trivial
      · intro x hx y hy stmt stmt' h h'
        subst h
        subst h'
        obtain ⟨s, _, hs⟩ := List.mem_flatMap.mp hy
        exact (leading_of_mem hx).spares (ownedBy_of_mem hs)

end Order

section Update

variable {F : Forms} {cloud : Cloud}

/-- An update that fails leaves the tables as they were exactly when every
statement before the failing one found them settled. -/
theorem updateDb_unchanged_iff (hnames : cloud.names.Nodup)
    (hinb : ∀ s ∈ cloud.servers, s.inboundNames.Nodup) (fault : Nat → Option BoxError)
    (cloudConfig : Except BoxError String) (db db' : Db) (e : BoxError)
    (h : updateDb F fault cloudConfig cloud db = (db', some e)) :
    SameTables db db' ↔
      ∀ stmt ∈ performed fault (updateStmts F cloudConfig cloud) 0, Settled stmt db := by
  have hexec : execAll (performed fault (updateStmts F cloudConfig cloud) 0) db =
      .ok (runStmts fault (updateStmts F cloudConfig cloud) 0 db).1 :=
    execAll_performed (grounded_updateStmts cloudConfig) (by simp)
  have hdb' : (runStmts fault (updateStmts F cloudConfig cloud) 0 db).1 = db' :=
    congrArg Prod.fst h
  rw [hdb'] at hexec
  exact stmt_settling.same_iff
    ((performed_pairwise (updateStmts_pairwise hnames hinb cloudConfig)).imp
      fun {stmt stmt'} => leaves_of_spares stmt stmt') hexec

end Update

section Instances

open Xcplane.Specimen

/-- `alpha` with an inbound that it has no mother sub-ID for. -/
def unsubscribed : Cloud :=
  cloud [{ alpha with inbounds := [direct, proxied, Inbound.superInbound] }]

def stopped : Db :=
  (updateDb forms (fun _ => none) (.ok "") unsubscribed (createDb .empty)).1

theorem updateDb_unsubscribed :
    updateDb forms (fun _ => none) (.ok "") unsubscribed (createDb .empty) =
      (stopped, some "Missing mother_subid for inbound proxied in server alpha") :=
  Prod.ext rfl (by rfl)

theorem updateDb_unchanged_iff_unsubscribed :
    SameTables (createDb .empty) stopped ↔
      ∀ stmt ∈ performed (fun _ => none) (updateStmts forms (.ok "") unsubscribed) 0,
        Settled stmt (createDb .empty) :=
  updateDb_unchanged_iff (by decide) (by decide) _ _ _ _ _ updateDb_unsubscribed

/-- The update fails for the missing mother sub-ID, with `alpha` already stored. -/
theorem updateDb_unsubscribed_changed :
    updateDb forms (fun _ => none) (.ok "") unsubscribed (createDb .empty) =
        (stopped, some "Missing mother_subid for inbound proxied in server alpha") ∧
      ¬ SameTables (createDb .empty) stopped := by
  refine ⟨updateDb_unsubscribed, fun hsame => ?_⟩
  have hstored : (stopped.servers.find "alpha").isSome = true := by decide +kernel
  rw [hsame.servers] at hstored
  cases hstored

end Instances

end Xcplane.UpdateAtomicity
