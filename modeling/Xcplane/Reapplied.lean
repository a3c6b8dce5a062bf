import Xcplane.CloudflareAnswers

/-!
Reconciling what a reconciliation returned with the same declarations once more: every
server is merged again to what it was. Only the choice of the block list depends on
the order in which the servers are gone through.
-/

namespace Xcplane.Reapplied

open Xcplane.Types
open Xcplane.Lib
open Xcplane.Cloudflare
open Xcplane.Merge
open Xcplane.Reconcile
open Xcplane.ReconcileSpec
open Xcplane.Acceptance
open Xcplane.RebasePlan
open Xcplane.CloudflareAnswers

variable {δ : Type}

/-- The servers in the order in which the next reconciliation goes through them. -/
def regone (c : Cloud) (names : List String) : Cloud :=
  { c with servers := names.filterMap c.collected }

/-- The block list of the next reconciliation is that of the last one, if any server
needs it. -/
def ListAgrees (env env' : ReconEnv δ) (c : Cloud) (names : List String) : Prop :=
  (∃ s ∈ c.servers, s.cloudflareProxied = true) →
    sharedList env'.cf env'.cfList (regone c names) = sharedList env.cf env.cfList c

/-- The cloud is what its declarations make of it: they merge with its servers
without changing them, and the states are those that Cloudflare answers. -/
structure Settled (mode : ReconMode) (env : ReconEnv δ) (new c : Cloud) : Prop where
  settings : c.settings = new.settings
  names_nodup : c.names.Nodup
  mem_names : ∀ n, n ∈ c.names ↔ n ∈ new.names
  again : ∀ x ∈ c.servers, ∀ s, new.collected x.name = some s →
    ∃ m, mergeServer mode new.settings.inboundSet x s = .ok m ∧ SameButState x m
  stated : ∀ x ∈ c.servers, ∃ st,
    setCfState env.forms env.cf (sharedList env.cf env.cfList c) x = .ok st ∧ x.cfstate = some st

section Settled

variable {mode : ReconMode} {env env' : ReconEnv δ} {new c : Cloud} {ord : MergeOrder c new}
  {taken : Taken} {servers : List KetServer} {pairs : List (KetServer × KetServer)}

theorem Settled.entry (h : Settled mode env new c) {n : String} {x m : KetServer}
    (hx : c.collected n = some x) (hentry : Entry mode c new n m) : SameButState x m := by
  cases hentry with
  | added _ hnone =>
      rw [hx] at hnone
      cases hnone
  | common x' s _ hx' hs hmerged =>
      rw [hx, Option.some.injEq] at hx'
      subst hx'
      obtain ⟨hmem, hname⟩ := Cloud.collected_eq_some hx
      obtain ⟨m', hm', hsame⟩ := h.again x hmem s (hname ▸ hs)
      rw [hmerged.unique (mergeServer_ok hm')]
      exact hsame

/-- The servers that are merged once more, up to their states. -/
theorem Settled.merged (h : Settled mode env new c)
    (hmerge : mergeRound mode c new ord.names taken = .ok (servers, pairs)) :
    List.Forall₂ SameButState (regone c ord.names).servers servers := by
  have hmem : ∀ n ∈ ord.names, n ∈ c.names := by
    intro n hn
    rcases (ord.enumerates.mem_iff n).mp hn with hc | hnew
    · exact hc
    · exact (h.mem_names n).mpr hnew
  have hfilter : ord.names.filter (· ∈ new.names) = ord.names := by
    apply List.filter_eq_self.mpr
    intro n hn
    simpa using (h.mem_names n).mp (hmem n hn)
  have hentries := mergeRound_ok hmerge
  rw [hfilter] at hentries
  refine forall₂_filterMap hentries fun n hn m hentry => ?_
  obtain ⟨x, hx⟩ := Cloud.exists_collected (hmem n hn)
  exact ⟨x, hx, h.entry hx hentry⟩

theorem Settled.collected_eq_none_iff (h : Settled mode env new c) {n : String} :
    c.collected n = none ↔ new.collected n = none := by
  rw [← Option.not_isSome_iff_eq_none, ← Option.not_isSome_iff_eq_none,
    Cloud.collected_isSome_iff, Cloud.collected_isSome_iff, h.mem_names]

theorem Settled.new_empty (h : Settled mode env new c) (hempty : c.servers = []) :
    new.servers = [] := by
  rw [List.eq_nil_iff_forall_not_mem]
  intro s hs
  have hmem := (h.mem_names s.name).mpr (Cloud.mem_names hs)
  simp [Cloud.names, hempty] at hmem

theorem Settled.removable (h : Settled mode env new c)
    (removeDirAll : String → δ → Except (BoxError × Option δ) Unit) (dirs : Dirs δ) :
    Removable removeDirAll c new dirs := by
  intro n d hdoomed _
  simp only [DataDirs.doomed, Bool.and_eq_true, Option.isNone_iff_eq_none] at hdoomed
  rw [← h.collected_eq_none_iff] at hdoomed
  rw [hdoomed.1.2] at hdoomed
  cases hdoomed.1.1

theorem Settled.mergeable (h : Settled mode env new c) (n : String) :
    Mergeable mode c new taken n := by
  constructor
  · intro x s hx hs
    obtain ⟨hmem, hname⟩ := Cloud.collected_eq_some hx
    obtain ⟨m, hm, _⟩ := h.again x hmem s (hname ▸ hs)
    exact ⟨m, hm⟩
  · intro s hx hs
    rw [h.collected_eq_none_iff, hs] at hx
    cases hx

variable (hcf : Regular env.cf) (hsame : env'.cf = env.cf) (hforms : env'.forms = env.forms)
include hcf hsame

theorem Settled.sharedList_eq (h : Settled mode env new c)
    (hmerge : mergeRound mode c new ord.names taken = .ok (servers, pairs)) :
    sharedList env'.cf env'.cfList (regone c ord.names) =
      sharedList env'.cf env'.cfList { servers, settings := new.settings } :=
  sharedList_congr (hsame ▸ hcf) ((h.merged hmerge).imp fun _ _ hs => hs.questions)

include hforms

/-- Each server is given its state again. -/
theorem Settled.restated (h : Settled mode env new c)
    (hmerge : mergeRound mode c new ord.names taken = .ok (servers, pairs))
    (hlist : ListAgrees env env' c ord.names) {m : KetServer} (hm : m ∈ servers) :
    ∃ x ∈ c.servers, SameButState x m ∧ ∃ st, x.cfstate = some st ∧
      setCfState env'.forms env'.cf
        (sharedList env'.cf env'.cfList { servers, settings := new.settings }) m = .ok st := by
  obtain ⟨x, hx, hxm⟩ := exists_left_of_mem (h.merged hmerge) hm
  obtain ⟨n, _, hxn⟩ := List.mem_filterMap.mp hx
  have hxc := (Cloud.collected_eq_some hxn).1
  obtain ⟨st, hst, hxst⟩ := h.stated x hxc
  refine ⟨x, hxc, hxm, st, hxst, ?_⟩
  rw [hforms, ← h.sharedList_eq hcf hsame hmerge, hsame, ← setCfState_congr hcf hxm.questions,
    ← hst]
  cases hproxied : x.cloudflareProxied with
  | false => exact setCfState_of_not_proxied hproxied
  | true => rw [← hlist ⟨x, hxc, hproxied⟩, hsame]

theorem Settled.answered (h : Settled mode env new c)
    (hmerge : mergeRound mode c new ord.names taken = .ok (servers, pairs))
    (hlist : ListAgrees env env' c ord.names) :
    Answered env' { servers, settings := new.settings } := by
  intro m hm
  obtain ⟨_, _, _, st, _, hst⟩ := h.restated hcf hsame hforms hmerge hlist hm
  exact ⟨st, hst⟩

/-- Under the same block list the servers with their new states are those that were
there, in some order. -/
theorem Settled.prepared_perm (h : Settled mode env new c)
    (hmerge : mergeRound mode c new ord.names taken = .ok (servers, pairs))
    (hlist : ListAgrees env env' c ord.names) {cloud : Cloud}
    (hcloud : prepareCloudflareState env'.forms env'.cf env'.cfList
      { servers, settings := new.settings } = .ok cloud) : cloud.servers.Perm c.servers := by
  have hstated := prepareCloudflareState_stated hcloud
  have hin : ∀ x' ∈ cloud.servers, x' ∈ c.servers := by
    intro x' hx'
    obtain ⟨m, hm, st', hst', rfl⟩ := exists_left_of_mem hstated hx'
    obtain ⟨x, hx, hxm, st, hxst, hst⟩ := h.restated hcf hsame hforms hmerge hlist hm
    rw [hst, Except.ok.injEq] at hst'
    have hxx : { m with cfstate := some st' } = x := by rw [hxm, ← hst', ← hxst]
    rwa [hxx]
  have hnames := merged_names_nodup hmerge hcloud
  refine (List.perm_ext_iff_of_nodup hnames.of_map h.names_nodup.of_map).mpr fun x =>
    ⟨hin x, fun hx => ?_⟩
  have hn : x.name ∈ ord.names.filter (· ∈ new.names) := by
    rw [List.mem_filter, ord.enumerates.mem_iff]
    exact ⟨.inl (Cloud.mem_names hx), by simpa using (h.mem_names x.name).mp (Cloud.mem_names hx)⟩
  obtain ⟨m, hm, hentry⟩ := exists_right_of_mem (mergeRound_ok hmerge) hn
  obtain ⟨x', hx', st', _, hmx'⟩ := exists_right_of_mem hstated hm
  have hname : x'.name = x.name := by rw [hmx', ← hentry.name]
  rwa [← List.inj_on_of_nodup_map h.names_nodup (hin x' hx') hx hname]

omit hforms in
/-- Two proxied servers with the same state were given the same block list. -/
theorem Settled.agrees (h : Settled mode env new c)
    (hmerge : mergeRound mode c new ord.names taken = .ok (servers, pairs)) {cloud : Cloud}
    (hcloud : prepareCloudflareState env'.forms env'.cf env'.cfList
      { servers, settings := new.settings } = .ok cloud)
    (hstates : ∀ x ∈ c.servers, ∃ x' ∈ cloud.servers,
      x'.cloudflareProxied = x.cloudflareProxied ∧ x'.cfstate = x.cfstate) :
    ListAgrees env env' c ord.names := by
  rintro ⟨x, hx, hproxied⟩
  obtain ⟨st, hst, hxst⟩ := h.stated x hx
  obtain ⟨x', hx', hproxied', hstate⟩ := hstates x hx
  obtain ⟨m, _, st', hst', rfl⟩ := exists_left_of_mem (prepareCloudflareState_stated hcloud) hx'
  have hsts : st' = st := by
    rw [hxst] at hstate
    exact Option.some.inj hstate
  have hmproxied : m.cloudflareProxied = true := hproxied'.trans hproxied
  rw [setCfState_list hproxied hst, h.sharedList_eq hcf hsame hmerge,
    setCfState_list hmproxied hst', hsts]

end Settled

section Instances

open Xcplane.Specimen

/-- The cloud of a reconciliation that ended well. -/
def resultOf (out : ReconOutcome (List String)) : Cloud :=
  out.result.toOption.getD (cloud [])

theorem cf_regular : Regular cf where
  zone _ _ _ := rfl
  ruleset _ _ _ := rfl
  rule _ _ _ _ _ := rfl
  list _ _ _ := rfl

def backwards (old new : Cloud) : MergeOrder old new where
  names := (order old new).names.reverse
  enumerates :=
    { nodup := List.nodup_reverse.mpr (order old new).enumerates.nodup
      mem_iff := by
        intro n
        rw [List.mem_reverse]
        exact (order old new).enumerates.mem_iff n }

/-- The zones of two accounts, of which only the first allows a block list. -/
def twoAccounts : CfAnswers :=
  { cf with
    list := fun c =>
      if c.servers.head?.map KetServer.domain = some (.domain "b.example.net") then
        .error "403 Forbidden"
      else .ok "list"
    zone := fun s =>
      if s.domain = .domain "b.example.net" then .ok ⟨"zone2", "example.net", "account2", "name2"⟩
      else .ok ⟨"zone", "example.org", "account", "name"⟩ }

theorem twoAccounts_regular : Regular twoAccounts where
  zone s s' h := by
    simp only [twoAccounts, h]
  ruleset _ _ _ := rfl
  rule _ _ _ _ _ := rfl
  list c c' h := by
    simp only [twoAccounts, h]

def apart : List KetServer :=
  [{ alpha with cloudflareProxied := true, inbounds := [direct] },
    { beta with domain := .domain "b.example.net", inbounds := [direct] }]

end Instances

end Xcplane.Reapplied
