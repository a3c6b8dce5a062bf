import Xcplane.CloudConfig
import Xcplane.Database
import Xcplane.ReconcileSpec
import Xcplane.Specimen

/-!
Whether the panel client of every monitored server can be built after a
reconciliation. Tokens only come from provisioning, while the state of a server
that is added or remapped comes from its declaration.
-/

namespace Xcplane.XuiTokens

open Xcplane.Types
open Xcplane.Lib
open Xcplane.Merge
open Xcplane.Reconcile
open Xcplane.ReconcileSpec
open Xcplane.CloudConfig
open Xcplane.Database

variable {δ : Type}

/-- Prepares the clients for the panel of a production server, the building of
the clients themselves being `build`. -/
def newXuiClient (build : String → Except BoxError Unit) (s : KetServer) :
    Except BoxError Unit := do
  let xuiToken ← okOr s.secrets.xuiToken
    ("'xui_token' is absent from secrets container of production server '" ++ s.name ++ "'")
  build xuiToken

/-- The servers that are monitored. -/
def prodServers (c : Cloud) : List KetServer :=
  c.servers.filter fun s => s.state = .Production && s.enabled

/-- Every production server has an initialised token. -/
def Provisioned (c : Cloud) : Prop :=
  ∀ s ∈ c.servers, s.state = .Production → s.secrets.xuiToken.isSome = true

/-- Every monitored server has an initialised token, and preparing its clients
can only fail when they are built. -/
structure ClientsPrepared (c : Cloud) : Prop where
  tokens : ∀ s ∈ prodServers c, s.secrets.xuiToken.isSome = true
  newXuiClient : ∀ build, ∀ s ∈ prodServers c, ∃ token, newXuiClient build s = build token

/-- Every enabled server that is declared in production was in the old cloud, and
a Remap finds it there with a token. -/
def DeclaredProvisioned (mode : ReconMode) (old new : Cloud) : Prop :=
  ∀ n s, new.collected n = some s → s.enabled = true → s.state = .Production →
    ∃ o, old.collected n = some o ∧ (mode = .Remap → o.secrets.xuiToken.isSome = true)

section Tokens

variable {c : Cloud} {s : KetServer}

theorem mem_prodServers :
    s ∈ prodServers c ↔ s ∈ c.servers ∧ s.state = .Production ∧ s.enabled = true := by
  simp [prodServers]

theorem clientsPrepared_of_tokens
    (h : ∀ s ∈ prodServers c, s.secrets.xuiToken.isSome = true) : ClientsPrepared c where
  tokens := h
  newXuiClient build s hs := by
    obtain ⟨token, htoken⟩ := Option.isSome_iff_exists.mp (h s hs)
    refine ⟨token, ?_⟩
    rw [newXuiClient, htoken]
    rfl

/-- Parsing draws the secrets of a server anew, and leaves the token out. -/
theorem parseCloudConfig_xuiToken {F : Forms} {draws : Nat → Server.SecretDraw} {t : TCloud}
    (h : parseCloudConfig F draws t = .ok c) (hs : s ∈ c.servers) : s.secrets.xuiToken = none := by
  obtain ⟨p, _, draw, rfl⟩ := mem_parseCloudConfig h hs
  rfl

end Tokens

section Merge

variable {mode : ReconMode} {o s m : KetServer}

/-- The token of the server after a merge, when it is in production. -/
theorem merged_xuiToken (h : Merged mode o s m) (hm : m.state = .Production)
    (ho : o.state = .Production → o.secrets.xuiToken.isSome = true)
    (hremap : mode = .Remap → s.state = .Production → o.secrets.xuiToken.isSome = true) :
    m.secrets.xuiToken.isSome = true := by
  cases h with
  | replaced _ _ hnew =>
      rw [hnew] at hm
      cases hm
  | kept => exact ho hm
  | remapped hremaps =>
      rcases remaps_iff.mp hremaps with hmode | ⟨_, hstate⟩
      · exact hremap hmode hm
      · have hm' : s.state = .Production := hm
        rw [hstate] at hm'
        cases hm'
  | rebased hrebases => exact ho (rebases_iff.mp hrebases).2.2.1

end Merge

section Reconciliation

variable {F : Forms} {draws : Nat → Server.SecretDraw} {t : TCloud} {env : ReconEnv δ}
  {old new c : Cloud} {mode : ReconMode}
  {rebaseData : Option (List (String × RebaseDiff.RebaseData))} {ord : MergeOrder old new}
  {dirs : Dirs δ}

/-- After a successful reconciliation with a parsed configuration, the clients of
every monitored server can be prepared exactly when the enabled servers that are
declared in production were provisioned before. -/
theorem reconcileCloud_clientsPrepared_iff (hold : Provisioned old)
    (hparse : parseCloudConfig F draws t = .ok new)
    (h : (reconcileCloud env old new mode rebaseData ord dirs).result = .ok c) :
    ClientsPrepared c ↔ DeclaredProvisioned mode old new := by
  have hrec := reconcileCloud_ok (parseCloudConfig_distinct hparse).names h
  constructor
  · intro hclients n s hs henabled hstate
    cases ho : old.collected n with
    | none =>
        obtain ⟨x, hx, _, hfinal⟩ := hrec.added ho hs
        have htoken := hclients.tokens x (mem_prodServers.mpr
          ⟨hx, by rw [hfinal.state_eq, hstate], by rw [hfinal.enabled, henabled]⟩)
        rw [hfinal.secrets, parseCloudConfig_xuiToken hparse (Cloud.collected_eq_some hs).1]
          at htoken
        cases htoken
    | some o =>
        refine ⟨o, rfl, ?_⟩
        rintro rfl
        obtain ⟨x, hx, _, m, hm, hfinal⟩ := hrec.common ho hs
        have hm := hm.eq_of_remaps rfl
        subst hm
        have htoken := hclients.tokens x (mem_prodServers.mpr
          ⟨hx, by rw [hfinal.state_eq]; exact hstate, by rw [hfinal.enabled]; exact henabled⟩)
        rw [hfinal.secrets] at htoken
        exact htoken
  · intro hdeclared
    apply clientsPrepared_of_tokens
    intro x hx
    obtain ⟨hx, hstate, henabled⟩ := mem_prodServers.mp hx
    obtain ⟨m, hentry, hfinal⟩ := hrec.servers x hx
    rw [hfinal.state_eq] at hstate
    rw [hfinal.enabled] at henabled
    rw [hfinal.secrets]
    cases hentry with
    | added _ ho hs =>
        obtain ⟨o, ho', _⟩ := hdeclared _ m hs henabled hstate
        rw [ho] at ho'
        cases ho'
    | common o s _ ho hs hmerged =>
        refine merged_xuiToken hmerged hstate (hold o (Cloud.collected_eq_some ho).1) ?_
        rintro rfl hdeclaredState
        have hm := hmerged.eq_of_remaps rfl
        subst hm
        obtain ⟨o', ho', htoken⟩ := hdeclared _ s hs henabled hdeclaredState
        rw [ho, Option.some.injEq] at ho'
        exact ho' ▸ htoken rfl

end Reconciliation

section Instances

open Xcplane.Specimen

def provisionedAlpha : KetServer :=
  { alpha with secrets := { alpha.secrets with xuiToken := some "token" } }

def declaredAlpha : TCloud :=
  declared [{ alpha with inbounds := [direct] }]

theorem reconcileCloud_clientsPrepared_iff_reload :
    ∃ new c, parseCloudConfig forms draws declaredAlpha = .ok new ∧
      (reconcileCloud env (cloud [provisionedAlpha]) new .Reload none (order _ _) dirs).result =
        .ok c ∧
      (ClientsPrepared c ↔ DeclaredProvisioned .Reload (cloud [provisionedAlpha]) new) := by
  have hold : Provisioned (cloud [provisionedAlpha]) := by
    unfold Provisioned
    decide
  obtain ⟨new, hnew⟩ : ∃ new, parseCloudConfig forms draws declaredAlpha = .ok new := ⟨_, rfl⟩
  obtain ⟨c, hc⟩ : ∃ c, (reconcileCloud env (cloud [provisionedAlpha]) new .Reload none
      (order _ _) dirs).result = .ok c := by
    cases hnew
    exact ⟨_, rfl⟩
  exact ⟨new, c, hnew, hc, reconcileCloud_clientsPrepared_iff hold hnew hc⟩

set_option maxRecDepth 20000 in
/-- A first start takes the declared state of `alpha` as it is. The server has no
token, neither now nor after a restart from the database. -/
theorem reconcileCloud_first_start_tokenless :
    Provisioned (cloud []) ∧
      ∃ new c db held c', parseCloudConfig forms draws declaredAlpha = .ok new ∧
        (reconcileCloud env (cloud []) new .Reload none (order _ _) dirs).result = .ok c ∧
        (∀ build, ∃ s ∈ prodServers c, newXuiClient build s = .error
          "'xui_token' is absent from secrets container of production server 'alpha'") ∧
        updateDb forms (fun _ => none) (.ok "") c (createDb .empty) = (db, none) ∧
        loadCloud forms (createDb db) = .ok held ∧
        (reconcileCloud env held new .Reload none (order _ _) dirs).result = .ok c' ∧
        ∀ build, ∃ s ∈ prodServers c', newXuiClient build s = .error
          "'xui_token' is absent from secrets container of production server 'alpha'" := by
  refine ⟨by simp [Provisioned, cloud], _, _, _, _, _, rfl, rfl, ?_, Prod.ext rfl (by rfl), rfl,
    rfl, ?_⟩
  · intro build
    exact ⟨_, List.mem_cons_self, rfl⟩
  · intro build
    exact ⟨_, List.mem_cons_self, rfl⟩

end Instances

end Xcplane.XuiTokens
