import Xcplane.DatabaseSpec
import Xcplane.Specimen
import Xcplane.Lib.Related

/-!
Writing a cloud to the database and loading it back.
-/

namespace Xcplane.RoundTrip

open Xcplane.Types
open Xcplane.Lib
open Xcplane.Database
open Xcplane.DatabaseSpec

/-- The loaded server is the original one in every field that is persisted. -/
structure SamePersisted (s s' : KetServer) : Prop where
  fields : s' = { s with
    inbounds := s'.inbounds
    ansibleConn := s'.ansibleConn
    secrets := s'.secrets
    cfstate := s'.cfstate }
  inbounds : s'.inbounds.Perm s.inbounds
  secrets : s'.secrets = { s.secrets with motherSubids := s'.secrets.motherSubids }
  motherSubids : ∀ n, s'.secrets.motherSubid n =
    if n ∈ s.inboundNames then s.secrets.motherSubid n else none

/-- The loaded cloud has the same settings and, by name, the same servers. -/
structure SameCloud (c c' : Cloud) : Prop where
  settings : c'.settings = c.settings
  names : c'.names.Perm c.names
  servers : ∀ s ∈ c.servers, ∀ s' ∈ c'.servers, s'.name = s.name → SamePersisted s s'

section Columns

theorem ofInt_toNat_uint16 (x : UInt16) : UInt16.ofInt x.toNat = x := by
  have hlt : x.toNat < 2 ^ 16 := x.toNat_lt
  have hmod : ((x.toNat : Int) % 2 ^ 16).toNat = x.toNat := by omega
  rw [UInt16.ofInt, hmod]
  exact UInt16.ofNat_toNat

theorem ofInt_toNat_uint32 (x : UInt32) : UInt32.ofInt x.toNat = x := by
  have hlt : x.toNat < 2 ^ 32 := x.toNat_lt
  have hmod : ((x.toNat : Int) % 2 ^ 32).toNat = x.toNat := by omega
  rw [UInt32.ofInt, hmod]
  exact UInt32.ofNat_toNat

theorem flag_eq_one (b : Bool) : (flag b == 1) = b := by
  cases b <;> rfl

theorem parseBool_boolText (b : Bool) : parseBool (boolText b) = some b := by
  cases b <;> rfl

theorem stripPlus_of_digits {cs : List Char} (h : ∀ c ∈ cs, c.isDigit = true) :
    stripPlus cs = cs := by
  cases cs with
  | nil => rfl
  | cons c rest =>
      rw [stripPlus, if_neg]
      rintro rfl
      have hdigit := h '+' List.mem_cons_self
      cases hdigit

theorem parseU64_repr (x : UInt64) : parseU64 x.toNat.repr = some x := by
  have hdigits : x.toNat.repr.toList = Nat.toDigits 10 x.toNat := by
    rw [Nat.repr_eq_ofList_toDigits, String.toList_ofList]
  have hall : ∀ c ∈ Nat.toDigits 10 x.toNat, c.isDigit = true := fun c hc =>
    Nat.isDigit_of_mem_toDigits (by decide) (by decide) hc
  have hne : Nat.toDigits 10 x.toNat ≠ [] := Nat.toDigits_ne_nil
  have hlt : x.toNat < 2 ^ 64 := x.toNat_lt
  simp only [parseU64, hdigits, stripPlus_of_digits hall, Nat.ofDigitChars_ten_toDigits]
  rw [if_neg]
  · rw [UInt64.ofNat_toNat]
  · simp only [Bool.or_eq_true, Bool.not_eq_true', decide_eq_true_eq, List.isEmpty_iff,
      List.all_eq_false]
    rintro ((hnil | ⟨c, hc, hdigit⟩) | hle)
    · exact hne hnil
    · exact hdigit (hall c hc)
    · omega

theorem loadInbound_inboundRow (server subid : String) (inb : Inbound) :
    loadInbound (inboundRow server inb subid) = .ok inb := by
  simp [loadInbound, inboundRow, okOr, ofInt_toNat_uint16, ofInt_toNat_uint32, bind, Except.bind]

end Columns

section Loading

variable {F : Forms} {cloud : Cloud} {db : Db} {s : KetServer}

theorem inboundRows_perm (h : Holds F cloud db) (hs : s ∈ cloud.servers)
    (hinb : s.inboundNames.Nodup) : (inboundRows db s.name).Perm (inboundRowsOf s) := by
  obtain ⟨hrows, hgone⟩ := h.inbounds s hs
  have hnodup : (inboundRowsOf s).Nodup := (inboundRowsOf_keys_nodup hinb).of_map
  rw [inboundRows, List.perm_ext_iff_of_nodup (db.inbounds.keys_nodup.of_map.filter _) hnodup]
  intro r
  rw [List.mem_filter, KeyedTable.mem_rows_iff, beq_iff_eq]
  constructor
  · rintro ⟨hr, hserver⟩
    have hid : r.id = (s.name, r.inboundGroup) := Prod.ext hserver rfl
    rcases Classical.em (r.inboundGroup ∈ s.inboundNames) with hgroup | hgroup
    · obtain ⟨inb, hinb, hname⟩ := List.mem_map.mp hgroup
      have hmem : inboundRow s.name inb ((s.secrets.motherSubid inb.name).getD "") ∈
          inboundRowsOf s := List.mem_map_of_mem hinb
      have hfind := hrows _ hmem
      have hsame : (inboundRow s.name inb ((s.secrets.motherSubid inb.name).getD "")).id =
          r.id := by
        rw [hid, ← hname]
        rfl
      rw [hsame, hr, Option.some.injEq] at hfind
      rw [hfind]
      exact hmem
    · rw [hid, hgone r.inboundGroup hgroup] at hr
      cases hr
  · intro hr
    exact ⟨hrows r hr, (mem_inboundRowsOf_key hr).1⟩

theorem mapM_loadInbound_perm (h : (inboundRows db s.name).Perm (inboundRowsOf s)) :
    ∃ inbounds, (inboundRows db s.name).mapM loadInbound = .ok inbounds ∧
      inbounds.Perm s.inbounds := by
  have hrow : ∀ r ∈ inboundRows db s.name, ∃ inb, loadInbound r = .ok inb := by
    intro r hr
    obtain ⟨inb, _, rfl⟩ := List.mem_map.mp (h.mem_iff.mp hr)
    exact ⟨inb, loadInbound_inboundRow _ _ _⟩
  obtain ⟨inbounds, hload⟩ := exists_mapM_eq_ok hrow
  have hmap : (inboundRows db s.name).map loadInbound = inbounds.map .ok :=
    map_eq_of_forall₂ (mapM_eq_ok_iff.mp hload) fun _ _ hr => hr
  have hdeclared : (inboundRowsOf s).map loadInbound = s.inbounds.map .ok := by
    rw [inboundRowsOf, List.map_map]
    apply List.map_congr_left
    intro inb _
    exact loadInbound_inboundRow _ _ _
  refine ⟨inbounds, hload, ?_⟩
  have hperm : (inbounds.map (Except.ok : Inbound → Except BoxError Inbound)).Perm
      (s.inbounds.map .ok) := by
    rw [← hmap, ← hdeclared]
    exact h.map loadInbound
  exact (List.map_perm_map_iff fun _ _ heq => Except.ok.inj heq).mp hperm

theorem loadSecrets_motherSubid (h : Holds F cloud db) (hs : s ∈ cloud.servers)
    (hsubids : s.HasSubids) (n : String) :
    (loadSecrets (serverRow F s) (inboundRows db s.name)).motherSubid n =
      if n ∈ s.inboundNames then s.secrets.motherSubid n else none := by
  obtain ⟨hrows, hgone⟩ := h.inbounds s hs
  rw [motherSubid_loadSecrets]
  split
  · rename_i hn
    obtain ⟨inb, hinb, rfl⟩ := List.mem_map.mp hn
    obtain ⟨subid, hsubid⟩ := Option.isSome_iff_exists.mp (hsubids inb hinb)
    have hrow : db.inbounds.find (s.name, inb.name) = some (inboundRow s.name inb subid) := by
      have hfind := hrows _ (List.mem_map_of_mem hinb)
      rwa [hsubid] at hfind
    rw [hrow, hsubid]
    rfl
  · rename_i hn
    rw [hgone n hn]
    rfl

theorem loadServer_serverRow (h : Holds F cloud db) (hs : s ∈ cloud.servers)
    (hF : F.RoundTripsOn s) (hinb : s.inboundNames.Nodup) (hsubids : s.HasSubids) :
    ∃ s', loadServer F db (serverRow F s) = .ok s' ∧ s'.name = s.name ∧ SamePersisted s s' := by
  have hperm := inboundRows_perm h hs hinb
  obtain ⟨inbounds, hload, hinbounds⟩ := mapM_loadInbound_perm hperm
  refine ⟨{ s with
      inbounds := inbounds
      ansibleConn := some (loadConn (serverRow F s))
      secrets := loadSecrets (serverRow F s) (inboundRows db s.name)
      cfstate := none }, ?_, rfl, rfl, hinbounds, rfl, ?_⟩
  · have hname : (serverRow F s).name = s.name := rfl
    rw [loadServer, hname, hload]
    simp [serverRow, okOr, hF.ip, hF.domain, hF.region, hF.outboundBlock, ofInt_toNat_uint16,
      flag_eq_one, bind, Except.bind]
  · exact loadSecrets_motherSubid h hs hsubids

theorem loadSettings_holds (h : Holds F cloud db) (hF : F.RoundTrips cloud) :
    loadSettings F db = .ok cloud.settings := by
  have hset := fun key value => h.options key value ""
  have hinboundSet := hset "inbound_set" (F.inboundsJson cloud.settings.inboundSet)
    (by simp [optionStmts]) (by decide)
  have hautoFix := hset "auto_fix" (boolText cloud.settings.autoFix)
    (by simp [optionStmts]) (by decide)
  have hfixThreshold := hset "fix_threshold" (toString cloud.settings.fixThreshold.toNat)
    (by simp [optionStmts]) (by decide)
  have hinterval := hset "monitor_interval" (toString cloud.settings.monitorInterval.toNat)
    (by simp [optionStmts]) (by decide)
  simp [loadSettings, getOption, okOr, hinboundSet, hautoFix, hfixThreshold, hinterval,
    hF.inboundSet, parseBool_boolText, parseU64_repr, bind, Except.bind]

end Loading

/-- After an update that ended well, loading gives the cloud back in every
persisted field, whatever the database held before. -/
theorem loadCloud_updateDb {F : Forms} {cloud : Cloud} (hF : F.RoundTrips cloud)
    (hnames : cloud.names.Nodup) (hinb : ∀ s ∈ cloud.servers, s.inboundNames.Nodup)
    (hsubids : cloud.HasSubids) (fault : Nat → Option BoxError)
    (cloudConfig : Except BoxError String) (db db' : Db)
    (h : updateDb F fault cloudConfig cloud (createDb db) = (db', none)) :
    ∃ c', loadCloud F db' = .ok c' ∧ SameCloud cloud c' := by
  have hholds := updateDb_holds hnames hinb h
  have hrow : ∀ r ∈ db'.servers.rows, ∃ s', loadServer F db' r = .ok s' := by
    intro r hr
    obtain ⟨s, hs, rfl⟩ := List.mem_map.mp (hholds.servers.mem_iff.mp hr)
    obtain ⟨s', hload, _⟩ :=
      loadServer_serverRow hholds hs (hF.servers s hs) (hinb s hs) (hsubids s hs)
    exact ⟨s', hload⟩
  obtain ⟨servers, hservers⟩ := exists_mapM_eq_ok hrow
  have hloaded : List.Forall₂ (fun r s' => loadServer F db' r = .ok s') db'.servers.rows servers :=
    mapM_eq_ok_iff.mp hservers
  have horigin : ∀ r ∈ db'.servers.rows, ∀ s', loadServer F db' r = .ok s' →
      ∃ s ∈ cloud.servers, r = serverRow F s ∧ s'.name = s.name ∧ SamePersisted s s' := by
    intro r hr s' hs'
    obtain ⟨s, hs, rfl⟩ := List.mem_map.mp (hholds.servers.mem_iff.mp hr)
    obtain ⟨t, ht, hname, hsame⟩ :=
      loadServer_serverRow hholds hs (hF.servers s hs) (hinb s hs) (hsubids s hs)
    rw [ht, Except.ok.injEq] at hs'
    subst hs'
    exact ⟨s, hs, rfl, hname, hsame⟩
  refine ⟨{ servers, settings := cloud.settings }, ?_, rfl, ?_, ?_⟩
  · rw [loadCloud, hservers, loadSettings_holds hholds hF]
    rfl
  · have hnamesLoaded : servers.map KetServer.name = db'.servers.rows.map ServerRow.name := by
      symm
      exact map_eq_of_forall₂ hloaded fun r s' hload => (loadServer_ok hload).name.symm
    have hrows := hholds.servers.map ServerRow.name
    rw [List.map_map] at hrows
    change (servers.map KetServer.name).Perm cloud.names
    rw [hnamesLoaded]
    exact hrows
  · intro s hs s' hs' hname
    obtain ⟨r, hr, hload⟩ := exists_left_of_mem hloaded hs'
    obtain ⟨t, ht, _, htname, hsame⟩ := horigin r hr s' hload
    have hst : s = t := List.inj_on_of_nodup_map hnames hs ht (hname.symm.trans htname)
    rw [hst]
    exact hsame

section Instances

open Xcplane.Specimen

def usedDb : Db :=
  (updateDb forms (fun _ => none) (.ok "")
    (cloud [{ alpha with inbounds := [Inbound.superInbound] },
      { beta with name := "gamma" }]) (createDb .empty)).1

theorem loadCloud_updateDb_used :
    ∃ db' c', updateDb forms (fun _ => none) (.ok "") (cloud [alpha, beta]) (createDb usedDb) =
        (db', none) ∧
      loadCloud forms db' = .ok c' ∧ SameCloud (cloud [alpha, beta]) c' := by
  have hF : forms.RoundTrips (cloud [alpha, beta]) :=
    { servers := by
        intro s hs
        rcases List.mem_pair.mp hs with rfl | rfl
        · exact forms_roundTripsOn_alpha
        · exact forms_roundTripsOn_beta
      inboundSet := forms_inboundSet }
  have hinb : ∀ s ∈ (cloud [alpha, beta]).servers, s.inboundNames.Nodup := by
    decide
  have hsubids : (cloud [alpha, beta]).HasSubids := by
    unfold Cloud.HasSubids KetServer.HasSubids
    decide
  have hupdate : updateDb forms (fun _ => none) (.ok "") (cloud [alpha, beta])
      (createDb usedDb) =
        ((updateDb forms (fun _ => none) (.ok "") (cloud [alpha, beta]) (createDb usedDb)).1,
          none) := Prod.ext rfl (by rfl)
  obtain ⟨c', hload, hsame⟩ := loadCloud_updateDb hF (by decide) hinb hsubids _ _ _ _ hupdate
  exact ⟨_, c', hupdate, hload, hsame⟩

end Instances

end Xcplane.RoundTrip
