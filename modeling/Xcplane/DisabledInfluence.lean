import Xcplane.RebaseAcceptance
import Xcplane.Specimen

/-!
What the answers of Cloudflare about one server do to a reconciliation. The states of all
servers are computed anew, those of disabled ones too, and the block list is looked up
through the first server.
-/

namespace Xcplane.DisabledInfluence

open Xcplane.Types
open Xcplane.Lib
open Xcplane.Cloudflare
open Xcplane.Merge
open Xcplane.RebaseDiff
open Xcplane.Deploy
open Xcplane.Reconcile
open Xcplane.ReconcileSpec
open Xcplane.Acceptance
open Xcplane.RebaseAcceptance

variable {δ : Type}

section Calls

/-- The calls to the API: the zone of a server's domain, the block list of an account,
the ruleset of a zone and the rule of a ruleset. -/
structure CfCalls where
  zone : KetServer → Except BoxError CFZone
  blockList : String → Except BoxError String
  ruleset : KetServer → String → Except BoxError String
  rule : KetServer → String → String → Except BoxError String

/-- The account is that of the first server's zone. It is only asked for when some server
is proxied. -/
def prepareCfList (calls : CfCalls) (cloud : Cloud) : Except BoxError String :=
  match cloud.servers with
  | [] => .error "index out of bounds"
  | s :: _ => do
      let cfZone ← calls.zone s
      calls.blockList cfZone.accountId

def CfCalls.answers (calls : CfCalls) : CfAnswers where
  list := prepareCfList calls
  zone := calls.zone
  ruleset := calls.ruleset
  rule := calls.rule

def asking (env : ReconEnv δ) (calls : CfCalls) : ReconEnv δ :=
  { env with cf := calls.answers }

/-- Two answers that do not contradict each other: each may also be an error. -/
def SameOrFails {α : Type} (a b : Except BoxError α) : Prop :=
  ∀ x y, a = .ok x → b = .ok y → x = y

/-- Only whether the calls about the server of that name succeed is different. -/
structure ChangedAbout (n : String) (calls calls' : CfCalls) : Prop where
  blockList : calls.blockList = calls'.blockList
  zone : ∀ s, SameOrFails (calls.zone s) (calls'.zone s)
  ruleset : ∀ s zoneId, SameOrFails (calls.ruleset s zoneId) (calls'.ruleset s zoneId)
  rule : ∀ s zoneId rulesetId,
    SameOrFails (calls.rule s zoneId rulesetId) (calls'.rule s zoneId rulesetId)
  zone_other : ∀ s, s.name ≠ n → calls.zone s = calls'.zone s
  ruleset_other : ∀ s zoneId, s.name ≠ n → calls.ruleset s zoneId = calls'.ruleset s zoneId
  rule_other : ∀ s zoneId rulesetId, s.name ≠ n →
    calls.rule s zoneId rulesetId = calls'.rule s zoneId rulesetId

end Calls

section Statement

variable (env : ReconEnv δ) (calls : CfCalls) (n : String) (mode : ReconMode) (old new : Cloud)
  (rebaseData : Option (List (String × RebaseData))) (o : MergeOrder old new) (dirs : Dirs δ)

/-- There is a block list: an old one, or that of the account of the first server's zone. -/
def Listed (cloud : Cloud) : Prop :=
  env.cfList.isSome = true ∨ ∃ s rest zone id, cloud.servers = s :: rest ∧
    calls.zone s = .ok zone ∧ calls.blockList zone.accountId = .ok id

/-- Cloudflare answers all that the state of the server needs: its zone, and for a proxied
one the rule and a block list. -/
def AnsweredFor (cloud : Cloud) (s : KetServer) : Prop :=
  ∃ zone, calls.zone s = .ok zone ∧
    (s.cloudflareProxied = true → Listed env calls cloud ∧
      ∃ rulesetId, calls.ruleset s zone.id = .ok rulesetId ∧
        ∃ ruleId, calls.rule s zone.id rulesetId = .ok ruleId)

def AnsweredAbout : Prop :=
  ∀ s ∈ (toPrepare mode old new o).servers, s.name = n →
    AnsweredFor env calls (toPrepare mode old new o) s

/-- Whatever becomes of the server of that name, everything else goes well: the removals and the
merge, the calls about the other servers and the remote runs. -/
structure RestServed : Prop where
  removable : Removable env.removeDirAll old new dirs
  unrefused : old.servers ≠ [] → Unrefused mode old new o.names (takenAtMerge o)
  others : ∀ s ∈ (toPrepare mode old new o).servers, s.name ≠ n →
    AnsweredFor env calls (toPrepare mode old new o) s
  redeployed : Redeployed mode old new (asking env calls) rebaseData o

/-- The server of that name does not influence what becomes of the others. -/
def Uninfluenced (out out' : ReconOutcome δ) : Prop :=
  out.result.isOk = out'.result.isOk ∧
    ∀ c c', out.result = .ok c → out'.result = .ok c' →
      ∀ k, k ≠ n → c.collected k = c'.collected k

end Statement

section States

variable {F : Forms} {env : ReconEnv δ} {calls calls' : CfCalls} {cfList : Option String}
  {s : KetServer} {n : String} {cloud : Cloud}

/-- The same with a block list as it was found. -/
def AnsweredWith (calls : CfCalls) (cfList : Option String) (s : KetServer) : Prop :=
  ∃ zone, calls.zone s = .ok zone ∧
    (s.cloudflareProxied = true → cfList.isSome = true ∧
      ∃ rulesetId, calls.ruleset s zone.id = .ok rulesetId ∧
        ∃ ruleId, calls.rule s zone.id rulesetId = .ok ruleId)

def listFor (env : ReconEnv δ) (calls : CfCalls) (cloud : Cloud) : Option String :=
  sharedList calls.answers env.cfList cloud

theorem isSome_listFor_iff (hs : s ∈ cloud.servers) (hproxied : s.cloudflareProxied = true) :
    (listFor env calls cloud).isSome = true ↔ Listed env calls cloud := by
  have hany : cloud.servers.any KetServer.cloudflareProxied = true :=
    List.any_eq_true.mpr ⟨s, hs, hproxied⟩
  have hlist : (∃ id, prepareCfList calls cloud = .ok id) ↔
      ∃ t rest zone id, cloud.servers = t :: rest ∧ calls.zone t = .ok zone ∧
        calls.blockList zone.accountId = .ok id := by
    rw [prepareCfList]
    cases cloud.servers with
    | nil => simp
    | cons t rest =>
        simp only [bind_eq_ok_iff, List.cons.injEq]
        constructor
        · rintro ⟨id, zone, hzone, hid⟩
          exact ⟨t, rest, zone, id, ⟨rfl, rfl⟩, hzone, hid⟩
        · rintro ⟨_, _, zone, id, ⟨rfl, rfl⟩, hzone, hid⟩
          exact ⟨id, zone, hzone, hid⟩
  have hanswer : calls.answers.list cloud = prepareCfList calls cloud := rfl
  rw [Listed, ← hlist, listFor, sharedList, if_pos hany, hanswer]
  cases prepareCfList calls cloud with
  | ok id => simp
  | error e => simp

theorem answeredFor_iff (hs : s ∈ cloud.servers) :
    AnsweredFor env calls cloud s ↔ AnsweredWith calls (listFor env calls cloud) s := by
  refine exists_congr fun zone => and_congr_right fun _ => ?_
  refine imp_congr_right fun hproxied => ?_
  rw [isSome_listFor_iff hs hproxied]

theorem answered_iff : AnsweredWith calls cfList s ↔
    ∃ st, setCfState F calls.answers cfList s = .ok st := by
  constructor
  · rintro ⟨zone, hzone, hproxied⟩
    have hdata : ∃ listData, cfListData calls.answers cfList s zone = .ok listData := by
      unfold cfListData
      split
      · rename_i h
        obtain ⟨hlist, rulesetId, hruleset, ruleId, hrule⟩ := hproxied h
        obtain ⟨listId, rfl⟩ := Option.isSome_iff_exists.mp hlist
        exact ⟨_, bind_eq_ok_iff.mpr ⟨rulesetId, hruleset, bind_eq_ok_iff.mpr ⟨ruleId, hrule, rfl⟩⟩⟩
      · exact ⟨_, rfl⟩
    obtain ⟨listData, hlistData⟩ := hdata
    exact ⟨_, bind_eq_ok_iff.mpr ⟨zone, hzone, bind_eq_ok_iff.mpr ⟨listData, hlistData, rfl⟩⟩⟩
  · rintro ⟨st, h⟩
    obtain ⟨zone, hzone, h⟩ := bind_eq_ok_iff.mp h
    obtain ⟨listData, hlistData, -⟩ := bind_eq_ok_iff.mp h
    refine ⟨zone, hzone, fun hproxied => ?_⟩
    rw [cfListData, if_pos hproxied] at hlistData
    obtain ⟨rulesetId, hruleset, hlistData⟩ := bind_eq_ok_iff.mp hlistData
    obtain ⟨ruleId, hrule, hlistData⟩ := bind_eq_ok_iff.mp hlistData
    split at hlistData
    · cases hlistData
    · exact ⟨rfl, rulesetId, hruleset, ruleId, hrule⟩

/-- Answers that do not contradict each other give the same state where both are
complete. -/
theorem setCfState_same (h : ChangedAbout n calls calls') (hs : AnsweredWith calls cfList s)
    (hs' : AnsweredWith calls' cfList s) :
    setCfState F calls.answers cfList s = setCfState F calls'.answers cfList s := by
  obtain ⟨zone, hzone, hproxied⟩ := hs
  obtain ⟨zone', hzone', hproxied'⟩ := hs'
  obtain rfl : zone = zone' := h.zone s zone zone' hzone hzone'
  have hdata : cfListData calls.answers cfList s zone =
      cfListData calls'.answers cfList s zone := by
    unfold cfListData
    split
    · rename_i hp
      obtain ⟨-, rulesetId, hruleset, ruleId, hrule⟩ := hproxied hp
      obtain ⟨-, rulesetId', hruleset', ruleId', hrule'⟩ := hproxied' hp
      obtain rfl : rulesetId = rulesetId' := h.ruleset s zone.id _ _ hruleset hruleset'
      obtain rfl : ruleId = ruleId' := h.rule s zone.id rulesetId _ _ hrule hrule'
      simp only [CfCalls.answers, hruleset, hruleset', hrule, hrule', bind, Except.bind]
    · rfl
  have hz : calls.answers.zone s = .ok zone := hzone
  have hz' : calls'.answers.zone s = .ok zone := hzone'
  simp only [setCfState, hz, hz', bind, Except.bind, hdata]

theorem setCfState_other (h : ChangedAbout n calls calls') (hs : s.name ≠ n) :
    setCfState F calls.answers cfList s = setCfState F calls'.answers cfList s := by
  simp only [setCfState, cfListData, CfCalls.answers, h.zone_other s hs, h.ruleset_other s _ hs,
    h.rule_other s _ _ hs]

/-- The block list changes at most where the first server is the one that the calls are
about, and its zone is not found in both cases. -/
theorem sharedList_same (h : ChangedAbout n calls calls')
    (hzone : ∀ s ∈ cloud.servers, s.name = n →
      (∃ z, calls.zone s = .ok z) ∧ ∃ z, calls'.zone s = .ok z) :
    sharedList calls.answers cfList cloud = sharedList calls'.answers cfList cloud := by
  have hlist : prepareCfList calls cloud = prepareCfList calls' cloud := by
    unfold prepareCfList
    split
    · rfl
    · rename_i s rest hservers
      have hsame : calls.zone s = calls'.zone s := by
        by_cases hs : s.name = n
        · obtain ⟨⟨z, hz⟩, z', hz'⟩ := hzone s (by rw [hservers]; exact List.mem_cons_self) hs
          rw [hz, hz', h.zone s z z' hz hz']
        · exact h.zone_other s hs
      rw [hsame, h.blockList]
  simp only [sharedList, CfCalls.answers, hlist]

end States

section Stages

variable {env : ReconEnv δ} {calls calls' : CfCalls} {n : String} {mode : ReconMode}
  {old new : Cloud} {rebaseData : Option (List (String × RebaseData))} {o : MergeOrder old new}
  {dirs : Dirs δ}

theorem answered_asking_iff {cloud : Cloud} : Acceptance.Answered (asking env calls) cloud ↔
    ∀ s ∈ cloud.servers, AnsweredFor env calls cloud s := by
  refine forall₂_congr fun s hs => ?_
  rw [answeredFor_iff hs]
  exact answered_iff.symm

/-- A reconciliation ends well where everything else goes well and Cloudflare answers about
the one server. -/
theorem isOk_iff_served :
    (reconcileCloud (asking env calls) old new mode rebaseData o dirs).result.isOk = true ↔
      RestServed env calls n mode old new rebaseData o dirs ∧
        AnsweredAbout env calls n mode old new o := by
  rw [isOk_iff, reconcileCloud_isOk_iff, answered_asking_iff]
  constructor
  · rintro ⟨hremovable, hunrefused, hanswered, hredeployed⟩
    exact ⟨⟨hremovable, hunrefused, fun s hs _ => hanswered s hs, hredeployed⟩,
      fun s hs _ => hanswered s hs⟩
  · rintro ⟨⟨hremovable, hunrefused, hothers, hredeployed⟩, habout⟩
    refine ⟨hremovable, hunrefused, fun s hs => ?_, hredeployed⟩
    by_cases hname : s.name = n
    · exact habout s hs hname
    · exact hothers s hs hname

theorem zone_of_answered {cloud : Cloud} {s : KetServer} (h : AnsweredFor env calls cloud s) :
    ∃ z, calls.zone s = .ok z := by
  obtain ⟨zone, hzone, -⟩ := h
  exact ⟨zone, hzone⟩

/-- Where Cloudflare answers about the one server in both cases, the states of all servers
are the same. -/
theorem prepare_same (h : ChangedAbout n calls calls')
    (habout : AnsweredAbout env calls n mode old new o)
    (habout' : AnsweredAbout env calls' n mode old new o) :
    prepareCloudflareState env.forms calls.answers env.cfList (toPrepare mode old new o) =
      prepareCloudflareState env.forms calls'.answers env.cfList (toPrepare mode old new o) := by
  unfold AnsweredAbout at habout habout'
  generalize toPrepare mode old new o = cloud at *
  have hlist : listFor env calls cloud = listFor env calls' cloud :=
    sharedList_same h fun s hs hname =>
      ⟨zone_of_answered (habout s hs hname), zone_of_answered (habout' s hs hname)⟩
  have hstates : ∀ s ∈ cloud.servers, setCfState env.forms calls.answers
      (listFor env calls cloud) s =
        setCfState env.forms calls'.answers (listFor env calls cloud) s := by
    intro s hs
    by_cases hname : s.name = n
    · refine setCfState_same h ((answeredFor_iff hs).mp (habout s hs hname)) ?_
      rw [hlist]
      exact (answeredFor_iff hs).mp (habout' s hs hname)
    · exact setCfState_other h hname
  have hservers := mapM_congr (f := fun s => do
      let cfstate ← setCfState env.forms calls.answers (listFor env calls cloud) s
      .ok { s with cfstate := some cfstate }) (g := fun s => do
      let cfstate ← setCfState env.forms calls'.answers (listFor env calls cloud) s
      .ok { s with cfstate := some cfstate }) fun s hs => by rw [hstates s hs]
  unfold listFor at hlist hservers
  rw [prepareCloudflareState, prepareCloudflareState, ← hlist, hservers]

/-- The answers of Cloudflare matter for the states only. -/
theorem reconcileCloud_same
    (h : prepareCloudflareState env.forms calls.answers env.cfList (toPrepare mode old new o) =
      prepareCloudflareState env.forms calls'.answers env.cfList (toPrepare mode old new o)) :
    (reconcileCloud (asking env calls) old new mode rebaseData o dirs).result =
      (reconcileCloud (asking env calls') old new mode rebaseData o dirs).result := by
  by_cases hold : old.servers = []
  · rw [toPrepare, if_pos hold] at h
    rw [reconcileCloud, reconcileCloud, if_pos (List.isEmpty_iff.mpr hold),
      if_pos (List.isEmpty_iff.mpr hold)]
    exact h
  · rw [reconcileCloud, reconcileCloud, if_neg (by simpa using hold), if_neg (by simpa using hold)]
    simp only [asking]
    generalize deletionRound env.removeDirAll old new o.names dirs = round
    obtain ⟨dirs', failed⟩ := round
    cases failed with
    | some e => rfl
    | none =>
        cases hmerge : mergeRound mode old new o.names
            (takenAfterDeletion old new o.names (takenBy old)) with
        | error e => rfl
        | ok merged =>
            rw [toPrepare_of_mergeRound hold hmerge] at h
            simp only [finish, h]

theorem uninfluenced_of_same {out out' : ReconOutcome δ} (h : out.result = out'.result) :
    Uninfluenced n out out' := by
  refine ⟨by rw [h], ?_⟩
  intro c c' hc hc' k _
  rw [h, hc'] at hc
  cases hc
  rfl

theorem uninfluenced_of_failed {out out' : ReconOutcome δ} (h : ¬ out.result.isOk = true)
    (h' : ¬ out'.result.isOk = true) : Uninfluenced n out out' := by
  refine ⟨(Bool.not_eq_true _ ▸ h).trans (Bool.not_eq_true _ ▸ h').symm, ?_⟩
  intro c c' hc
  rw [hc] at h
  exact absurd rfl h

/-- A server does not influence what becomes of the others exactly when Cloudflare answers
about it in both cases or in neither, or something else fails where it does. Whether the server
is disabled plays no part. -/
theorem reconcileCloud_uninfluenced_iff (h : ChangedAbout n calls calls') :
    Uninfluenced n (reconcileCloud (asking env calls) old new mode rebaseData o dirs)
        (reconcileCloud (asking env calls') old new mode rebaseData o dirs) ↔
      (AnsweredAbout env calls n mode old new o ↔ AnsweredAbout env calls' n mode old new o) ∨
      (AnsweredAbout env calls n mode old new o ∧
        ¬ RestServed env calls n mode old new rebaseData o dirs) ∨
      (AnsweredAbout env calls' n mode old new o ∧
        ¬ RestServed env calls' n mode old new rebaseData o dirs) := by
  have hserved : (reconcileCloud (asking env calls) old new mode rebaseData o dirs).result.isOk =
      true ↔ RestServed env calls n mode old new rebaseData o dirs ∧
        AnsweredAbout env calls n mode old new o := isOk_iff_served
  have hserved' : (reconcileCloud (asking env calls') old new mode rebaseData o dirs).result.isOk =
      true ↔ RestServed env calls' n mode old new rebaseData o dirs ∧
        AnsweredAbout env calls' n mode old new o := isOk_iff_served
  by_cases habout : AnsweredAbout env calls n mode old new o
  · by_cases habout' : AnsweredAbout env calls' n mode old new o
    · refine iff_of_true ?_ (.inl (iff_of_true habout habout'))
      exact uninfluenced_of_same (reconcileCloud_same (prepare_same h habout habout'))
    · -- the reconciliation without the answers fails, so the other one has to fail as well
      have hfailed : ¬ _ := fun hok => habout' (hserved'.mp hok).2
      constructor
      · rintro ⟨hsame, _⟩
        refine .inr (.inl ⟨habout, fun hrest => hfailed ?_⟩)
        rw [← hsame]
        exact hserved.mpr ⟨hrest, habout⟩
      · rintro (hiff | ⟨_, hrest⟩ | ⟨habout'', _⟩)
        · exact absurd (hiff.mp habout) habout'
        · exact uninfluenced_of_failed (fun hok => hrest (hserved.mp hok).1) hfailed
        · exact absurd habout'' habout'
  · have hfailed : ¬ _ := fun hok => habout (hserved.mp hok).2
    by_cases habout' : AnsweredAbout env calls' n mode old new o
    · constructor
      · rintro ⟨hsame, _⟩
        refine .inr (.inr ⟨habout', fun hrest => hfailed ?_⟩)
        rw [hsame]
        exact hserved'.mpr ⟨hrest, habout'⟩
      · rintro (hiff | ⟨habout'', _⟩ | ⟨_, hrest⟩)
        · exact absurd (hiff.mpr habout') habout
        · exact absurd habout'' habout
        · exact uninfluenced_of_failed hfailed fun hok => hrest (hserved'.mp hok).1
    · refine iff_of_true (uninfluenced_of_failed hfailed ?_) (.inl (iff_of_false habout habout'))
      exact fun hok => habout' (hserved'.mp hok).2

end Stages

/-- A server that is kept for its data. -/
def retired : KetServer :=
  { Specimen.beta with enabled := false }

def answering : CfCalls where
  zone _ := .ok ⟨"zone", "example.org", "account", "name"⟩
  blockList _ := .ok "list"
  ruleset _ _ := .ok "ruleset"
  rule _ _ _ := .ok "rule"

/-- The token is not allowed to edit the rulesets of the retired server's zone. -/
def withoutRuleset : CfCalls :=
  { answering with
    ruleset := fun s _ => if s.name = retired.name then .error "forbidden" else .ok "ruleset" }

/-- The lookup of the retired server's zone fails. -/
def withoutZone : CfCalls :=
  { answering with
    zone := fun s =>
      if s.name = retired.name then .error "timeout"
      else .ok ⟨"zone", "example.org", "account", "name"⟩ }

theorem changedAbout_withoutRuleset : ChangedAbout retired.name answering withoutRuleset where
  blockList := rfl
  zone s x y hx hy := Except.ok.inj (hx.symm.trans hy)
  ruleset s zoneId x y hx hy := by
    simp only [withoutRuleset] at hy
    split at hy
    · cases hy
    · exact Except.ok.inj (hx.symm.trans hy)
  rule s zoneId rulesetId x y hx hy := Except.ok.inj (hx.symm.trans hy)
  zone_other s hs := rfl
  ruleset_other s zoneId hs := by simp [answering, withoutRuleset, hs]
  rule_other s zoneId rulesetId hs := rfl

theorem changedAbout_withoutZone : ChangedAbout retired.name answering withoutZone where
  blockList := rfl
  zone s x y hx hy := by
    simp only [withoutZone] at hy
    split at hy
    · cases hy
    · exact Except.ok.inj (hx.symm.trans hy)
  ruleset s zoneId x y hx hy := Except.ok.inj (hx.symm.trans hy)
  rule s zoneId rulesetId x y hx hy := Except.ok.inj (hx.symm.trans hy)
  zone_other s hs := by simp [answering, withoutZone, hs]
  ruleset_other s zoneId hs := rfl
  rule_other s zoneId rulesetId hs := rfl

def withRetired : Cloud :=
  Specimen.cloud [Specimen.alpha, retired]

theorem answered_unproxied {env : ReconEnv δ} {calls : CfCalls} {cloud : Cloud} {s : KetServer}
    {z : CFZone} (hzone : calls.zone s = .ok z) (hproxied : s.cloudflareProxied = false) :
    AnsweredFor env calls cloud s :=
  ⟨z, hzone, fun h => absurd (hproxied.symm.trans h) Bool.false_ne_true⟩

/-- The rulesets of a server that is not proxied are not asked for. -/
theorem reconcileCloud_uninfluenced_iff_ruleset :
    Uninfluenced retired.name
      (reconcileCloud (asking Specimen.env answering) (Specimen.cloud []) withRetired .Reload none
        (Specimen.order _ _) Specimen.dirs)
      (reconcileCloud (asking Specimen.env withoutRuleset) (Specimen.cloud []) withRetired .Reload
        none (Specimen.order _ _) Specimen.dirs) := by
  apply (reconcileCloud_uninfluenced_iff changedAbout_withoutRuleset).mpr
  have hproxied : ∀ s ∈ withRetired.servers, s.cloudflareProxied = false := by
    decide
  refine .inl (iff_of_true ?_ ?_)
  · intro s hs _
    exact answered_unproxied rfl (hproxied s hs)
  · intro s hs _
    exact answered_unproxied rfl (hproxied s hs)

/-- A failing lookup of the zone of a disabled server fails the reconciliation of all. -/
theorem reconcileCloud_retired_influences :
    ¬ ∀ (env : ReconEnv (List String)) (calls calls' : CfCalls) (old new : Cloud)
      (mode : ReconMode) (rebaseData : Option (List (String × RebaseData)))
      (o : MergeOrder old new) (dirs : Dirs (List String)) (s : KetServer),
      s ∈ new.servers → s.enabled = false → ChangedAbout s.name calls calls' →
        Uninfluenced s.name (reconcileCloud (asking env calls) old new mode rebaseData o dirs)
          (reconcileCloud (asking env calls') old new mode rebaseData o dirs) := by
  intro h
  have huninfluenced := h Specimen.env answering withoutZone (Specimen.cloud [Specimen.alpha])
    withRetired .Reload none (Specimen.order _ _) Specimen.dirs retired (by decide) rfl
    changedAbout_withoutZone
  exact absurd huninfluenced.1 (by decide +kernel)

end Xcplane.DisabledInfluence
