import Xcplane.CloudConfig
import Xcplane.Database
import Xcplane.ReconcileSpec
import Xcplane.Specimen

/-!
Whether every inbound of a reconciled cloud has a mother sub-ID. A Rebase extends
the map of the old server by the new inbounds, a Remap takes it as it is.
-/

namespace Xcplane.MotherSubids

open Xcplane.Types
open Xcplane.Lib
open Xcplane.Merge
open Xcplane.Reconcile
open Xcplane.ReconcileSpec
open Xcplane.CloudConfig
open Xcplane.Database

variable {δ : Type}

/-- No statement of an update lacks a mother sub-ID, and building a subscription
link can only fail when the link is parsed. -/
structure NoSubidErrors (F : Forms) (c : Cloud) : Prop where
  updateDb : ∀ cloudConfig e, .error e ∉ updateStmts F (.ok cloudConfig) c
  getJsub : ∀ parseUrl, ∀ s ∈ c.servers, ∀ inb ∈ s.inbounds,
    ∃ url, Server.getJsub F parseUrl inb s = parseUrl url

/-- Every server whose new declaration is taken with its old secrets only has
inbounds that the old secrets have a mother sub-ID for. -/
def RemapsCovered (mode : ReconMode) (old new : Cloud) : Prop :=
  ∀ n o s, old.collected n = some o → new.collected n = some s → remaps mode s = true →
    ∀ inb ∈ s.inbounds, (o.secrets.motherSubid inb.name).isSome = true

theorem noSubidErrors_of_hasSubids {F : Forms} {c : Cloud} (h : c.HasSubids) :
    NoSubidErrors F c where
  updateDb cloudConfig e hmem := by
    simp only [updateStmts, groupStmts, List.mem_append, List.mem_cons, List.mem_map,
      List.mem_flatMap, reduceCtorEq, and_false, exists_false, false_or, or_false] at hmem
    obtain ⟨s, hs, inb, hinb, herror⟩ := hmem
    obtain ⟨subid, hsubid⟩ := Option.isSome_iff_exists.mp (h s hs inb hinb)
    simp [inboundStmt, hsubid, okOr, bind, Except.bind] at herror
  getJsub parseUrl s hs inb hinb := by
    obtain ⟨subid, hsubid⟩ := Option.isSome_iff_exists.mp (h s hs inb hinb)
    refine ⟨"https://" ++ Server.subhostname F s ++ "/" ++ s.secrets.xuiJsubpath ++ "/" ++
      subid, ?_⟩
    rw [Server.getJsub, hsubid]
    rfl

section Merge

variable {mode : ReconMode} {o s m : KetServer}

theorem merged_hasSubids (h : Merged mode o s m) (hold : o.HasSubids) (hnew : s.HasSubids)
    (hremap : remaps mode s = true →
      ∀ inb ∈ s.inbounds, (o.secrets.motherSubid inb.name).isSome = true) : m.HasSubids := by
  cases h with
  | replaced => exact hnew
  | kept => exact hold
  | remapped h => exact hremap h
  | rebased =>
      intro inb hinb
      change ((rebasedSecrets o s).motherSubid inb.name).isSome = true
      rw [rebasedSecrets_motherSubid, Option.isSome_or, hnew inb hinb, Bool.or_true]

end Merge

section Reconciliation

variable {F : Forms} {draws : Nat → Server.SecretDraw} {t : TCloud} {env : ReconEnv δ}
  {old new c : Cloud} {mode : ReconMode}
  {rebaseData : Option (List (String × RebaseDiff.RebaseData))} {ord : MergeOrder old new}
  {dirs : Dirs δ}

theorem hasSubids_of_final {m s : KetServer} (h : Final m s) : s.HasSubids ↔ m.HasSubids := by
  unfold KetServer.HasSubids
  rw [h.inbounds, h.secrets]

/-- After a successful reconciliation with a parsed configuration, every inbound
has a mother sub-ID, and no error for a missing one can occur, exactly when every
remapped server only has inbounds that its old secrets know. -/
theorem reconcileCloud_hasSubids_iff (hold : old.HasSubids)
    (hparse : parseCloudConfig F draws t = .ok new)
    (h : (reconcileCloud env old new mode rebaseData ord dirs).result = .ok c) :
    c.HasSubids ∧ NoSubidErrors F c ↔ RemapsCovered mode old new := by
  have hnew := parseCloudConfig_hasSubids hparse
  have hrec := reconcileCloud_ok (parseCloudConfig_distinct hparse).names h
  constructor
  · rintro ⟨hsubids, _⟩ n o s ho hs hremap inb hinb
    obtain ⟨x, hx, _, m, hm, hmx⟩ := hrec.common ho hs
    have hmsubids := (hasSubids_of_final hmx).mp (hsubids x hx)
    rw [hm.eq_of_remaps hremap] at hmsubids
    exact hmsubids inb hinb
  · intro hcovered
    have hsubids : c.HasSubids := by
      intro x hx
      obtain ⟨m, hm, hmx⟩ := hrec.servers x hx
      rw [hasSubids_of_final hmx]
      cases hm with
      | added _ _ hs => exact hnew m (Cloud.collected_eq_some hs).1
      | common o s _ ho hs hmerged =>
          exact merged_hasSubids hmerged (hold o (Cloud.collected_eq_some ho).1)
            (hnew s (Cloud.collected_eq_some hs).1) fun hremap => hcovered _ o s ho hs hremap
    exact ⟨hsubids, noSubidErrors_of_hasSubids hsubids⟩

end Reconciliation

section Instances

open Xcplane.Specimen

theorem alpha_hasSubids : (cloud [alpha]).HasSubids := by
  unfold Cloud.HasSubids KetServer.HasSubids
  decide

def extended : Cloud :=
  cloud
    [{ alpha with
        inbounds := [direct, proxied, Inbound.superInbound]
        secrets :=
          { healthPath := alpha.secrets.healthPath
            dohEndpoint := "doh2"
            xuiUsername := "user2"
            xuiPassword := "password2"
            xuiToken := none
            xuiWebpath := "web2"
            xuiSubpath := "sub2"
            xuiJsubpath := "json2"
            motherSubids := [("direct", "id2"), ("proxied", "id3"), ("super", "super")] }
        cfstate := alpha.cfstate }]

theorem parseCloudConfig_extended :
    parseCloudConfig forms draws (declared [{ alpha with inbounds := [direct, proxied] }]) =
      .ok extended := rfl

theorem reconcileCloud_hasSubids_iff_rebase :
    ∃ c, (reconcileCloud env (cloud [alpha]) extended .Rebase (some []) (order _ _) dirs).result =
        .ok c ∧
      (c.HasSubids ∧ NoSubidErrors forms c ↔ RemapsCovered .Rebase (cloud [alpha]) extended) := by
  obtain ⟨c, hc⟩ : ∃ c, (reconcileCloud env (cloud [alpha]) extended .Rebase (some []) (order _ _)
      dirs).result = .ok c := ⟨_, rfl⟩
  exact ⟨c, hc, reconcileCloud_hasSubids_iff alpha_hasSubids parseCloudConfig_extended hc⟩

/-- After a Remap that adds an inbound, the inbound has no mother sub-ID and the
update of the database stops with an error. -/
theorem reconcileCloud_remap_missing :
    (cloud [alpha]).HasSubids ∧
      parseCloudConfig forms draws (declared [{ alpha with inbounds := [direct, proxied] }]) =
        .ok extended ∧
      ∃ c, (reconcileCloud env (cloud [alpha]) extended .Remap none (order _ _) dirs).result =
          .ok c ∧
        ¬ c.HasSubids ∧
        (updateDb forms (fun _ => none) (.ok "") c (createDb .empty)).2 =
          some "Missing mother_subid for inbound proxied in server alpha" := by
  refine ⟨alpha_hasSubids, parseCloudConfig_extended, _, rfl, ?_, rfl⟩
  unfold Cloud.HasSubids KetServer.HasSubids
  decide

end Instances

end Xcplane.MotherSubids
