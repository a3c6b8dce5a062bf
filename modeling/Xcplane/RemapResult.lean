import Xcplane.Acceptance
import Xcplane.CloudConfig

/-!
What a Remap makes of the two clouds: the declarations of the new one under the
secrets of the old one. It refuses an added server for an address that an old server
had, also when that server gives the address up in the same change.
-/

namespace Xcplane.RemapResult

open Xcplane.Types
open Xcplane.Lib
open Xcplane.CloudConfig
open Xcplane.Cloudflare
open Xcplane.Merge
open Xcplane.Reconcile
open Xcplane.ReconcileSpec
open Xcplane.JoinedRuns
open Xcplane.Uniqueness
open Xcplane.Acceptance

variable {δ : Type}

/-- The calls to Cloudflare and the directory removals succeed. -/
structure Succeeds (env : ReconEnv δ) : Prop where
  list : ∀ cloud, ∃ id, env.cf.list cloud = .ok id
  zone : ∀ s, ∃ zone, env.cf.zone s = .ok zone
  ruleset : ∀ s zoneId, ∃ id, env.cf.ruleset s zoneId = .ok id
  rule : ∀ s zoneId rulesetId, ∃ id, env.cf.rule s zoneId rulesetId = .ok id
  removal : ∀ n d, env.removeDirAll n d = .ok ()

/-- The secrets of the server of that name before the change, if there was one. -/
def keptSecrets (old : Cloud) (s : KetServer) : Secrets :=
  match old.collected s.name with
  | some o => o.secrets
  | none => s.secrets

/-- Each declaration of the new cloud once, under the secrets it had before. -/
structure RemapsTo (old new c : Cloud) : Prop where
  settings : c.settings = new.settings
  names_nodup : c.names.Nodup
  mem_names : ∀ n, n ∈ c.names ↔ n ∈ new.names
  servers : ∀ s' ∈ c.servers, ∃ s, new.collected s'.name = some s ∧
    s' = { s with secrets := keptSecrets old s, cfstate := s'.cfstate }

/-- No added server has a domain or an IP that a remaining server had before. -/
def FreshAddresses (old new : Cloud) : Prop :=
  ∀ n s, old.collected n = none → new.collected n = some s →
    ∀ n' o t, old.collected n' = some o → new.collected n' = some t →
      o.domain ≠ s.domain ∧ o.ip ≠ s.ip

section Addresses

variable {old new : Cloud}

/-- The servers that the deletion round drops, among those of the names. -/
def dropped (old new : Cloud) (names : List String) : List KetServer :=
  names.filterMap fun n => if (new.collected n).isNone then old.collected n else none

theorem mem_dropped {names : List String} {s : KetServer} : s ∈ dropped old new names ↔
    ∃ n ∈ names, new.collected n = none ∧ old.collected n = some s := by
  simp [dropped, List.mem_filterMap]

theorem takenAfterDeletion_eq (names : List String) (taken : Taken) :
    takenAfterDeletion old new names taken =
      { domains := taken.domains.filter fun d => (dropped old new names).all (d ≠ ·.domain)
        ips := taken.ips.filter fun ip => (dropped old new names).all (ip ≠ ·.ip) } := by
  induction names generalizing taken with
  | nil => simp [takenAfterDeletion, dropped]
  | cons n rest ih =>
      rw [takenAfterDeletion]
      cases hold : old.collected n with
      | none =>
          have hskip : dropped old new (n :: rest) = dropped old new rest :=
            List.filterMap_cons_none (by simp [hold])
          rw [hskip, ← ih]
      | some s =>
          cases hnew : new.collected n with
          | some t =>
              have hskip : dropped old new (n :: rest) = dropped old new rest :=
                List.filterMap_cons_none (by simp [hnew])
              rw [hskip, ← ih]
          | none =>
              have htake : dropped old new (n :: rest) = s :: dropped old new rest :=
                List.filterMap_cons_some (by simp [hnew, hold])
              simp only [ih, htake, List.all_cons, List.filter_filter]
              congr 1
              · apply List.filter_congr
                intro d _
                rw [Bool.and_comm]
              · apply List.filter_congr
                intro ip _
                rw [Bool.and_comm]

/-- The addresses that an added server is compared with are those that the servers of
both clouds had before. -/
theorem fresh_of_takenAtMerge {ord : MergeOrder old new} (hold : old.Distinct) {s : KetServer} :
    (s.domain ∉ (takenAtMerge ord).domains ∧ s.ip ∉ (takenAtMerge ord).ips) ↔
      ∀ n o t, old.collected n = some o → new.collected n = some t →
        o.domain ≠ s.domain ∧ o.ip ≠ s.ip := by
  constructor
  · rintro ⟨hdomain, hip⟩ n o t ho ht
    have hstays : ∀ k d, old.collected k = some d → new.collected k = none →
        o.domain ≠ d.domain ∧ o.ip ≠ d.ip := by
      intro k d hd hgone
      refine address_ne hold ho hd ?_
      rintro rfl
      rw [ht] at hgone
      cases hgone
    have homem := (Cloud.collected_eq_some ho).1
    obtain ⟨hodomain, hoip⟩ := mem_takenAfterDeletion ord.names (takenBy old) hstays
      (List.mem_map_of_mem homem) (List.mem_map_of_mem homem)
    exact ⟨fun heq => hdomain (heq ▸ hodomain), fun heq => hip (heq ▸ hoip)⟩
  · intro h
    have hremains : ∀ o ∈ old.servers, o ∉ dropped old new ord.names →
        o.domain ≠ s.domain ∧ o.ip ≠ s.ip := by
      intro o ho hkept
      have hcollected := Cloud.collected_of_mem hold.names ho
      cases ht : new.collected o.name with
      | some t => exact h o.name o t hcollected ht
      | none =>
          refine absurd (mem_dropped.mpr ⟨o.name, ?_, ht, hcollected⟩) hkept
          exact (ord.enumerates.mem_iff o.name).mpr (.inl (Cloud.mem_names ho))
    rw [takenAtMerge, takenAfterDeletion_eq]
    constructor
    · intro hmem
      simp only [takenBy, List.mem_filter, List.mem_map, List.all_eq_true,
        decide_eq_true_eq] at hmem
      obtain ⟨⟨o, ho, hdomain⟩, hkept⟩ := hmem
      have hnotDropped : o ∉ dropped old new ord.names := fun hd => hkept o hd hdomain.symm
      exact (hremains o ho hnotDropped).1 hdomain
    · intro hmem
      simp only [takenBy, List.mem_filter, List.mem_map, List.all_eq_true,
        decide_eq_true_eq] at hmem
      obtain ⟨⟨o, ho, hip⟩, hkept⟩ := hmem
      have hnotDropped : o ∉ dropped old new ord.names := fun hd => hkept o hd hip.symm
      exact (hremains o ho hnotDropped).2 hip

end Addresses

section Remap

variable {env : ReconEnv δ} {old new : Cloud} {ord : MergeOrder old new} {dirs : Dirs δ}
  {rebaseData : Option (List (String × RebaseDiff.RebaseData))}

theorem answered_of_succeeds (henv : Succeeds env) (cloud : Cloud) : Answered env cloud := by
  intro s hs
  obtain ⟨zone, hzone⟩ := henv.zone s
  have hlist : ∃ data,
      cfListData env.cf (sharedList env.cf env.cfList cloud) s zone = .ok data := by
    rw [cfListData]
    split
    · rename_i hproxied
      obtain ⟨rulesetId, hruleset⟩ := henv.ruleset s zone.id
      obtain ⟨ruleId, hrule⟩ := henv.rule s zone.id rulesetId
      obtain ⟨listId, hid⟩ := henv.list cloud
      have hshared : sharedList env.cf env.cfList cloud = some listId := by
        rw [sharedList, if_pos (List.any_eq_true.mpr ⟨s, hs, hproxied⟩), hid]
      simp only [bind_eq_ok_iff, hruleset, hrule, hshared, Except.ok.injEq, exists_eq_left']
      exact ⟨_, rfl⟩
    · exact ⟨none, rfl⟩
  obtain ⟨data, hdata⟩ := hlist
  exact ⟨_, bind_eq_ok_iff.mpr ⟨zone, hzone, bind_eq_ok_iff.mpr ⟨data, hdata, rfl⟩⟩⟩

/-- A Remap that ended well made of the two clouds what it should. -/
theorem reconcileCloud_remapsTo (hnew : new.names.Nodup) {c : Cloud}
    (h : (reconcileCloud env old new .Remap rebaseData ord dirs).result = .ok c) :
    RemapsTo old new c := by
  have hrec := reconcileCloud_ok hnew h
  refine ⟨hrec.settings, hrec.names_nodup, hrec.mem_names, ?_⟩
  intro x hx
  obtain ⟨m, hentry, hsame⟩ := reconcileCloud_local_entry (by decide) hnew h hx
  cases hentry with
  | added _ hold hnew =>
      refine ⟨m, hnew, ?_⟩
      have hkept : keptSecrets old m = m.secrets := by
        rw [keptSecrets, (Cloud.collected_eq_some hnew).2, hold]
      rw [hkept]
      exact hsame
  | common o s _ hold hnew hmerged =>
      refine ⟨s, hnew, ?_⟩
      have hkept : keptSecrets old s = o.secrets := by
        rw [keptSecrets, (Cloud.collected_eq_some hnew).2, hold]
      have hremap : m = remapMerge o s := hmerged.eq_of_remaps rfl
      rw [hkept]
      rw [hremap] at hsame
      exact hsame

/-- A Remap of distinct servers, with nothing failing around it, ends well exactly when
no added server has an address of a server that remains. -/
theorem reconcileCloud_remap_iff {F : Forms} {draws : Nat → Server.SecretDraw} {t : TCloud}
    (hold : old.Distinct) (hparse : parseCloudConfig F draws t = .ok new) (henv : Succeeds env) :
    (∃ c, (reconcileCloud env old new .Remap rebaseData ord dirs).result = .ok c ∧
      RemapsTo old new c) ↔ FreshAddresses old new := by
  have hnew := parseCloudConfig_distinct hparse
  have hmerges : (∀ n, Mergeable .Remap old new (takenAtMerge ord) n) ↔
      FreshAddresses old new := by
    constructor
    · intro h n s ho hs
      exact (fresh_of_takenAtMerge hold).mp ((h n).added s ho hs)
    · intro h n
      exact ⟨fun o s _ _ => ⟨remapMerge o s, rfl⟩,
        fun s ho hs => (fresh_of_takenAtMerge hold).mpr (h n s ho hs)⟩
  rw [← hmerges]
  constructor
  · rintro ⟨c, h, _⟩
    cases (reconcileCloud_local_ok_iff (by decide) hnew).mp ⟨c, h⟩ with
    | first hempty _ =>
        rw [hmerges]
        intro n s _ _ n' o t ho
        rw [collected_eq_none_of_isEmpty (List.isEmpty_iff.mpr hempty)] at ho
        cases ho
    | merged _ _ hmergeable _ => exact hmergeable
  · intro hmergeable
    have hacceptable : Acceptable env .Remap old new ord dirs := by
      by_cases hempty : old.servers = []
      · exact .first hempty (answered_of_succeeds henv new)
      · exact .merged hempty (fun n d _ _ => henv.removal n d) hmergeable
          fun servers pairs _ => answered_of_succeeds henv _
    obtain ⟨c, hc⟩ := (reconcileCloud_local_ok_iff (by decide) hnew).mpr hacceptable
    exact ⟨c, hc, reconcileCloud_remapsTo hnew.names hc⟩

end Remap

section Instances

open Xcplane.Specimen

theorem env_succeeds : Succeeds env where
  list _ := ⟨_, rfl⟩
  zone _ := ⟨_, rfl⟩
  ruleset _ _ := ⟨_, rfl⟩
  rule _ _ _ := ⟨_, rfl⟩
  removal _ _ := rfl

def parsed (servers : List KetServer) : Cloud :=
  match parseCloudConfig forms draws (declared servers) with
  | .ok c => c
  | .error _ => cloud []

/-- `alpha` moves to another address, and `beta` is added. -/
def moved : List KetServer :=
  [{ alpha with ip := quadNine, domain := .domain "c.example.org", inbounds := [direct] },
    { beta with inbounds := [direct] }]

theorem parsed_of_isOk {servers : List KetServer}
    (h : (parseCloudConfig forms draws (declared servers)).isOk = true) :
    parseCloudConfig forms draws (declared servers) = .ok (parsed servers) := by
  obtain ⟨c, hc⟩ := isOk_iff.mp h
  rw [parsed, hc]

theorem parse_moved : parseCloudConfig forms draws (declared moved) = .ok (parsed moved) :=
  parsed_of_isOk (by decide +kernel)

theorem moved_fresh : FreshAddresses (cloud [alpha]) (parsed moved) := by
  have hall : ∀ s ∈ (parsed moved).servers, s.name ≠ "alpha" →
      alpha.domain ≠ s.domain ∧ alpha.ip ≠ s.ip := by
    decide +kernel
  intro n s ho hs n' o t ho' _
  obtain ⟨hs, hname⟩ := Cloud.collected_eq_some hs
  have halpha : o = alpha := by
    simpa [cloud] using (Cloud.collected_eq_some ho').1
  rw [halpha]
  refine hall s hs fun hsame => ?_
  rw [← hname, hsame] at ho
  revert ho
  decide

theorem reconcileCloud_remap_iff_moved :
    ∃ c, (reconcileCloud env (cloud [alpha]) (parsed moved) .Remap none
      (order _ _) dirs).result = .ok c ∧ RemapsTo (cloud [alpha]) (parsed moved) c :=
  (reconcileCloud_remap_iff (cloud_distinct (by decide)) parse_moved env_succeeds).mpr moved_fresh

/-- `alpha` moves to another address, and `beta` takes over the one it had. -/
def replaced : List KetServer :=
  [{ alpha with ip := quadNine, domain := .domain "c.example.org", inbounds := [direct] },
    { beta with ip := alpha.ip, domain := alpha.domain, inbounds := [direct] }]

theorem parse_replaced :
    parseCloudConfig forms draws (declared replaced) = .ok (parsed replaced) :=
  parsed_of_isOk (by decide +kernel)

theorem reconcileCloud_replaced_refused :
    (cloud [alpha]).Distinct ∧
      parseCloudConfig forms draws (declared replaced) = .ok (parsed replaced) ∧
      Succeeds env ∧ (parsed replaced).Distinct ∧
      (reconcileCloud env (cloud [alpha]) (parsed replaced) .Remap none (order _ _) dirs).result =
        .error
          "[ Remap ] The new server 'beta' has the same domain used in the current cloud." := by
  refine ⟨cloud_distinct (by decide), parse_replaced, env_succeeds,
    parseCloudConfig_distinct parse_replaced, ?_⟩
  decide +kernel

end Instances

end Xcplane.RemapResult
