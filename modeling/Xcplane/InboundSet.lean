import Xcplane.DatabaseSpec
import Xcplane.ReconcileSpec
import Xcplane.RoundTrip
import Xcplane.WellFormedConfig

/-!
Whether the inbounds of a reconciled cloud lie in its inbound-set. The settings
always come from the new cloud, while several merges keep the inbounds of the old
server.
-/

namespace Xcplane.InboundSet

open Xcplane.Types
open Xcplane.Lib
open Xcplane.Merge
open Xcplane.Reconcile
open Xcplane.ReconcileSpec
open Xcplane.CloudConfig
open Xcplane.Database
open Xcplane.DatabaseSpec

variable {δ : Type}

def InSet (inboundSet : List Inbound) (inb : Inbound) : Prop :=
  ∃ set ∈ inboundSet, set.name = inb.name ∧ set.port = inb.port

def Covered (inboundSet : List Inbound) (s : KetServer) : Prop :=
  ∀ inb ∈ s.inbounds, inb.name ≠ SvcKind.superName → InSet inboundSet inb

def CloudCovered (c : Cloud) : Prop :=
  ∀ s ∈ c.servers, Covered c.settings.inboundSet s

/-- What the daemon holds after it applied a cloud: the cloud, or what it loads
from the database that the cloud was written to. -/
inductive HeldAfter (F : Forms) (c : Cloud) : Cloud → Prop
  | applied : HeldAfter F c c
  | loaded (fault : Nat → Option BoxError) (cloudConfig : Except BoxError String)
      (db db' : Db) (held : Cloud) (hupdate : updateDb F fault cloudConfig c db = (db', none))
      (hload : loadCloud F (createDb db') = .ok held) : HeldAfter F c held

/-- The merge of a Reload accepts the configuration again, for every server of
what the daemon holds. -/
def NeverRefused (F : Forms) (t : TCloud) (c : Cloud) : Prop :=
  ∀ draws again held, parseCloudConfig F draws t = .ok again → HeldAfter F c held →
    ∀ n o s, held.collected n = some o → again.collected n = some s →
      ∃ m, reloadMerge again.settings.inboundSet o s = .ok m

/-- A Rebase only keeps the inbounds of a disabled server when the inbound-set of
the new cloud has them. -/
def DisabledCovered (mode : ReconMode) (old new : Cloud) : Prop :=
  mode = .Rebase → ∀ n o s, old.collected n = some o → new.collected n = some s →
    s.enabled = false → o.state = .Production → s.state = .Production →
      Covered new.settings.inboundSet o

section Coverage

variable {inboundSet : List Inbound}

theorem coveredBy_iff {inbounds : List Inbound} :
    coveredBy inboundSet inbounds = true ↔ ∀ inb ∈ inbounds, InSet inboundSet inb := by
  simp [coveredBy, InSet]

theorem coveredBy_filter_iff {s : KetServer} :
    coveredBy inboundSet (s.inbounds.filter fun inb => inb.name != SvcKind.superName) = true ↔
      Covered inboundSet s := by
  rw [coveredBy_iff]
  constructor
  · intro h inb hinb hname
    exact h inb (List.mem_filter.mpr ⟨hinb, by simpa using hname⟩)
  · intro h inb hinb
    obtain ⟨hinb, hname⟩ := List.mem_filter.mp hinb
    exact h inb hinb (by simpa using hname)

theorem covered_congr {s s' : KetServer} (h : s'.inbounds = s.inbounds) :
    Covered inboundSet s' ↔ Covered inboundSet s := by
  rw [Covered, h]
  rfl

/-- What a Reload checks before it keeps an old server. -/
theorem reloadMerge_kept_covered {old new m : KetServer}
    (h : reloadMerge inboundSet old new = .ok m) :
    (old.state = .Offgrid ∧ new.state = .Offgrid) ∨ Covered inboundSet old := by
  unfold reloadMerge at h
  split at h
  · rename_i hold hnew
    exact .inl ⟨hold, hnew⟩
  · obtain ⟨hcovered, _⟩ := ensure_bind_eq_ok_iff.mp h
    exact .inr (coveredBy_filter_iff.mp hcovered)

theorem reloadMerge_of_covered {old new : KetServer} (h : Covered inboundSet old) :
    ∃ m, reloadMerge inboundSet old new = .ok m := by
  unfold reloadMerge
  split
  · exact ⟨new, rfl⟩
  · refine ⟨{ old with enabled := new.enabled }, ?_⟩
    rw [ensure_bind_eq_ok_iff]
    exact ⟨coveredBy_filter_iff.mpr h, rfl⟩

end Coverage

section Parsing

variable {F : Forms} {draws : Nat → Server.SecretDraw} {t : TCloud} {c : Cloud}

theorem parseCloudConfig_inboundSet (h : parseCloudConfig F draws t = .ok c) :
    c.settings.inboundSet = t.settings.inboundSet := by
  rw [parseCloudConfig_settings h]

/-- The super inbound apart, the servers of an accepted configuration only have
inbounds of the inbound-set. -/
theorem parseCloudConfig_covered (h : parseCloudConfig F draws t = .ok c) : CloudCovered c := by
  intro s hs inb hinb hname
  rw [parseCloudConfig_inboundSet h]
  obtain ⟨p, rfl, hsound⟩ := WellFormedConfig.sound_of_parse h hs
  rcases List.mem_append.mp hinb with hinb | hinb
  · exact hsound.covered inb hinb
  · rw [List.mem_singleton] at hinb
    exact absurd (congrArg Inbound.name hinb) hname

end Parsing

section Held

variable {F : Forms} {c held : Cloud}

/-- The inbounds of what the daemon holds are those it applied. -/
theorem heldAfter_inbounds (hnames : c.names.Nodup) (h : HeldAfter F c held) {o : KetServer}
    (ho : o ∈ held.servers) : ∃ s ∈ c.servers, o.inbounds ⊆ s.inbounds := by
  cases h with
  | applied => exact ⟨o, ho, List.Subset.refl _⟩
  | loaded fault cloudConfig db db' held hupdate hload =>
      obtain ⟨hstored, _⟩ := updateDb_stored hnames hupdate
      obtain ⟨r, hr, hloaded⟩ := exists_left_of_mem (loadCloud_ok hload) ho
      obtain ⟨s, hs, rfl⟩ := List.mem_map.mp (hstored.servers.mem_iff.mp hr)
      refine ⟨s, hs, ?_⟩
      intro inb hinb
      obtain ⟨row, hrow, hload⟩ := exists_left_of_mem (mapM_eq_ok_iff.mp hloaded.inbounds) hinb
      obtain ⟨hrow, hserver⟩ := List.mem_filter.mp hrow
      have hfind : db'.inbounds.find (s.name, row.inboundGroup) = some row :=
        KeyedTable.find_eq_some_iff.mpr ⟨hrow, Prod.ext (beq_iff_eq.mp hserver) rfl⟩
      obtain ⟨inb', hinb', rfl⟩ := List.mem_map.mp ((hstored.inbounds s hs).rows _ _ hfind)
      rw [RoundTrip.loadInbound_inboundRow, Except.ok.injEq] at hload
      exact hload ▸ hinb'

theorem heldAfter_covered (hnames : c.names.Nodup) (hcovered : CloudCovered c)
    (h : HeldAfter F c held) {o : KetServer} (ho : o ∈ held.servers) :
    Covered c.settings.inboundSet o := by
  obtain ⟨s, hs, hsubset⟩ := heldAfter_inbounds hnames h ho
  intro inb hinb hname
  exact hcovered s hs inb (hsubset hinb) hname

end Held

section Reconciliation

variable {F : Forms} {draws : Nat → Server.SecretDraw} {t : TCloud} {env : ReconEnv δ}
  {old new c : Cloud} {mode : ReconMode}
  {rebaseData : Option (List (String × RebaseDiff.RebaseData))} {ord : MergeOrder old new}
  {dirs : Dirs δ}

theorem merged_covered {inboundSet : List Inbound} {o s m : KetServer}
    (h : Merged mode o s m) (hmerge : ∃ m', mergeServer mode inboundSet o s = .ok m')
    (hnew : Covered inboundSet s)
    (hold : mode = .Rebase → s.enabled = false → o.state = .Production →
      s.state = .Production → Covered inboundSet o) : Covered inboundSet m := by
  cases h with
  | replaced => exact hnew
  | kept hkeeps =>
      obtain ⟨m', hm'⟩ := hmerge
      refine (covered_congr rfl).mpr ?_
      cases mode with
      | Reload =>
          rcases reloadMerge_kept_covered hm' with ⟨ho, hs⟩ | hcovered
          · simp [keepsOld, ho, hs] at hkeeps
          · exact hcovered
      | Remap => cases hkeeps
      | Rebase =>
          obtain ⟨henabled, ho, hs⟩ := keepsOld_rebase_iff.mp hkeeps
          exact hold rfl henabled ho hs
  | remapped => exact hnew
  | rebased => exact hnew

theorem neverRefused_of_covered (hparse : parseCloudConfig F draws t = .ok new)
    (hsettings : c.settings = new.settings) (hnames : c.names.Nodup) (h : CloudCovered c) :
    NeverRefused F t c := by
  intro draws' again held hagain hheld n o s ho _
  rw [parseCloudConfig_inboundSet hagain, ← parseCloudConfig_inboundSet hparse, ← hsettings]
  exact reloadMerge_of_covered
    (heldAfter_covered hnames h hheld (Cloud.collected_eq_some ho).1)

/-- A reconciliation with a parsed configuration only returns inbounds of the
inbound-set, and the configuration is accepted again afterwards, exactly when the
inbounds that a Rebase keeps for disabled servers are in the inbound-set. -/
theorem reconcileCloud_covered_iff (hparse : parseCloudConfig F draws t = .ok new)
    (h : (reconcileCloud env old new mode rebaseData ord dirs).result = .ok c) :
    CloudCovered c ∧ NeverRefused F t c ↔ DisabledCovered mode old new := by
  have hrec := reconcileCloud_ok (parseCloudConfig_distinct hparse).names h
  constructor
  · rintro ⟨hcovered, _⟩ rfl n o s ho hs henabled hold hnew
    obtain ⟨x, hx, _, m, hm, hmx⟩ := hrec.common ho hs
    have hx' := hcovered x hx
    have hkeeps : keepsOld .Rebase o s = true := by simp [keepsOld, henabled, hold, hnew]
    rw [covered_congr hmx.inbounds, hrec.settings, hm.eq_of_keepsOld hkeeps] at hx'
    exact hx'
  · intro hdisabled
    have hcovered : CloudCovered c := by
      intro x hx
      obtain ⟨m, hm, hmx⟩ := hrec.servers x hx
      rw [covered_congr hmx.inbounds, hrec.settings]
      cases hm with
      | added _ _ hs => exact parseCloudConfig_covered hparse m (Cloud.collected_eq_some hs).1
      | common o s _ ho hs hmerged =>
          exact merged_covered hmerged (reconcileCloud_merges h ho hs)
            (parseCloudConfig_covered hparse s (Cloud.collected_eq_some hs).1)
            fun hmode => hdisabled hmode _ o s ho hs
    exact ⟨hcovered, neverRefused_of_covered hparse hrec.settings hrec.names_nodup hcovered⟩

end Reconciliation

section Instances

open Xcplane.RebaseDiff
open Xcplane.Specimen

/-- `alpha` is declared disabled, and `direct` leaves the inbound-set. -/
def narrowed : TCloud where
  servers := [{ alpha with enabled := false, inbounds := [proxied] }]
  settings := { settings with inboundSet := [proxied] }

def narrowedCloud : Cloud where
  servers :=
    [{ alpha with
        enabled := false
        inbounds := [proxied, Inbound.superInbound]
        secrets :=
          { healthPath := alpha.secrets.healthPath
            dohEndpoint := "doh2"
            xuiUsername := "user2"
            xuiPassword := "password2"
            xuiToken := none
            xuiWebpath := "web2"
            xuiSubpath := "sub2"
            xuiJsubpath := "json2"
            motherSubids := [("proxied", "id2"), ("super", "super")] } }]
  settings := { settings with inboundSet := [proxied] }

theorem parseCloudConfig_narrowed : parseCloudConfig forms draws narrowed = .ok narrowedCloud :=
  rfl

def narrowedData : List (String × RebaseData) :=
  [("alpha", ⟨[proxied], [direct], ⟨none, none, none, none⟩⟩)]

theorem createRebaseData_narrowed :
    createRebaseData forms ⟨true⟩ inboundOrder (cloud [alpha]) narrowedCloud (iteration _) =
      .ok narrowedData := rfl

theorem reconcileCloud_covered_iff_narrowed :
    ∃ c, (reconcileCloud env (cloud [alpha]) narrowedCloud .Rebase (some narrowedData) (order _ _)
        dirs).result = .ok c ∧
      (CloudCovered c ∧ NeverRefused forms narrowed c ↔
        DisabledCovered .Rebase (cloud [alpha]) narrowedCloud) := by
  obtain ⟨c, hc⟩ : ∃ c, (reconcileCloud env (cloud [alpha]) narrowedCloud .Rebase
      (some narrowedData) (order _ _) dirs).result = .ok c := ⟨_, rfl⟩
  exact ⟨c, hc, reconcileCloud_covered_iff parseCloudConfig_narrowed hc⟩

/-- The Rebase keeps `direct` for the disabled `alpha`, and a Reload of the same
configuration refuses the server. -/
theorem reconcileCloud_narrowed_refused :
    parseCloudConfig forms draws narrowed = .ok narrowedCloud ∧
      createRebaseData forms ⟨true⟩ inboundOrder (cloud [alpha]) narrowedCloud (iteration _) =
        .ok narrowedData ∧
      ∃ c, (reconcileCloud env (cloud [alpha]) narrowedCloud .Rebase (some narrowedData)
          (order _ _) dirs).result = .ok c ∧
        ¬ CloudCovered c ∧
        ∃ e, (reconcileCloud env c narrowedCloud .Reload none (order _ _) dirs).result =
          .error e := by
  refine ⟨parseCloudConfig_narrowed, createRebaseData_narrowed, _, rfl, ?_, _, rfl⟩
  unfold CloudCovered Covered InSet
  decide

end Instances

end Xcplane.InboundSet
