import Mathlib.Algebra.Order.BigOperators.Group.List
import Xcplane.AccountSpecs
import Xcplane.Specimen
import Xcplane.Lib.Trace

/-!
The runs of `prepare_cloudflare_state` on one account: whatever the calls and the failing
requests, nothing is created twice.
-/

namespace Xcplane.CloudflareAccount

open Xcplane.Types
open Xcplane.Lib
open Xcplane.Lib.Utf8
open Xcplane.Cloudflare
open Xcplane.CloudflareZones

section Passes

variable {T : CaseTables} {F : Forms} {ids : IdSource} {allowed : Creation → Prop} {quiet : Prop}
  {accountId : String} {cfList : Option String} {s : KetServer} {servers : List KetServer}
  {servers' : List KetServer} {cloud cloud' : Cloud} {w : World} {st st' : Store} {e : Creation}

/-- The server has the state that the store has the answers for. -/
def Stored (T : CaseTables) (F : Forms) (accountId : String) (st : Store) (s : KetServer) :
    Prop :=
  ∃ cfstate, s.cfstate = some cfstate ∧ settledState T F accountId st s = some cfstate

/-- The servers with the states that the store has the answers for, up to one that is in no zone,
where every pass stops. -/
inductive Settles (T : CaseTables) (F : Forms) (accountId : String) (st : Store) :
    List KetServer → List KetServer → Prop
  | nil : Settles T F accountId st [] []
  | stuck {s : KetServer} {rest : List KetServer} :
      Zoneless T F s st → Settles T F accountId st (s :: rest) (s :: rest)
  | cons {s : KetServer} {rest rest' : List KetServer} {cfstate : CFState} :
      settledState T F accountId st s = some cfstate → Settles T F accountId st rest rest' →
        Settles T F accountId st (s :: rest) ({ s with cfstate := some cfstate } :: rest')

/-- Nothing is left to create for the first cloud, and the second one has its states. -/
structure Settled (T : CaseTables) (F : Forms) (accountId : String) (st : Store)
    (cloud cloud' : Cloud) : Prop where
  same : cloud' = { cloud with servers := cloud'.servers }
  servers : Settles T F accountId st cloud.servers cloud'.servers
  list : ∀ s rest, cloud.servers = s :: rest →
    cloud.servers.any KetServer.cloudflareProxied = true →
      Zoneless T F s st ∨ (ourList st accountId).isSome = true

theorem Made.stored (h : Made allowed st e st') (hst : Stored T F accountId st s) :
    Stored T F accountId st' s := by
  obtain ⟨cfstate, hs, hsettled⟩ := hst
  exact ⟨cfstate, hs, h.settledState hsettled⟩

theorem Made.settles (h : Made allowed st e st')
    (hst : Settles T F accountId st servers servers') :
    Settles T F accountId st' servers servers' := by
  induction hst with
  | nil => exact .nil
  | stuck hzone => exact .stuck (h.zoneless hzone)
  | cons hsettled _ ih => exact .cons (h.settledState hsettled) ih

theorem Made.settled (h : Made allowed st e st') (hst : Settled T F accountId st cloud cloud') :
    Settled T F accountId st' cloud cloud' where
  same := hst.same
  servers := h.settles hst.servers
  list s rest hservers hproxied := by
    rcases hst.list s rest hservers hproxied with hzone | hlist
    · exact .inl (h.zoneless hzone)
    · have hpresent : present st (.list accountId) = true := hlist
      exact .inr (h.keeps hpresent)

theorem makes_zones {es : List Creation} (h : Makes (Made allowed) st es st') :
    st'.zones = st.zones := by
  induction h with
  | nil st => rfl
  | cons hmade _ ih => rw [ih, hmade.zones]

theorem makes_ready {es : List Creation} (h : Makes (Made allowed) st es st')
    (hst : ∀ zone, InZone T F s zone st → Ready allowed s zone st) (zone : CFZone)
    (hzone : InZone T F s zone st') : Ready allowed s zone st' := by
  intro hproxied
  rw [InZone, makes_zones h] at hzone
  obtain ⟨hruleset, hrule⟩ := hst zone hzone hproxied
  exact ⟨h.preserves (fun _ _ _ => Made.provided) hruleset,
    h.preserves (fun _ _ _ => Made.provided) hrule⟩

theorem list_of_settledState {cfstate : CFState} (hproxied : s.cloudflareProxied = true)
    (h : settledState T F accountId st s = some cfstate) :
    (ourList st accountId).isSome = true := by
  rw [settledState] at h
  split at h
  · obtain ⟨data, hdata, _⟩ := Option.map_eq_some_iff.mp h
    rw [settledData, if_pos hproxied] at hdata
    obtain ⟨_, _, hdata⟩ := Option.bind_eq_some_iff.mp hdata
    obtain ⟨_, _, hdata⟩ := Option.bind_eq_some_iff.mp hdata
    obtain ⟨list, hlist, _⟩ := Option.bind_eq_some_iff.mp hdata
    exact Option.isSome_of_eq_some hlist
  · cases h

variable (T F ids cfList) in
/-- Whatever of a server is not its state is left as it is. -/
theorem map_setStates {α : Type} {g : KetServer → α}
    (hg : ∀ (s : KetServer) cfstate, g { s with cfstate } = g s) (servers : List KetServer)
    (w : World) : (setStates T F ids cfList servers w).2.1.map g = servers.map g := by
  induction servers generalizing w with
  | nil => rfl
  | cons s rest ih =>
      rw [setStates]
      split
      · rfl
      · rename_i cfstate w' _
        rw [List.map_cons, List.map_cons, hg]
        exact congrArg (g s :: ·) (ih w')

/-- What a pass over the servers comes to. -/
structure Passed (T : CaseTables) (F : Forms) (allowed : Creation → Prop) (quiet : Prop)
    (accountId : String) (st : Store) (servers : List KetServer)
    (r : Except BoxError Unit × List KetServer × World) : Prop where
  makes : ∃ es, Makes (Made allowed) st es r.2.2.store
  settles : quiet ∨ r.1 = .ok () → Settles T F accountId r.2.2.store servers r.2.1
  stored : r.1 = .ok () → ∀ s ∈ r.2.1, Stored T F accountId r.2.2.store s

variable (T F ids) in
theorem setStates_passed (hquiet : Quiet quiet w)
    (hready : ∀ s ∈ servers, ∀ zone, InZone T F s zone w.store → Ready allowed s zone w.store)
    (hlist : ListKnown accountId cfList w.store)
    (hknown : quiet → ∀ s ∈ servers, s.cloudflareProxied = true → cfList ≠ none) :
    Passed T F allowed quiet accountId w.store servers (setStates T F ids cfList servers w) := by
  induction servers generalizing w with
  | nil => exact ⟨⟨[], .nil _⟩, fun _ => .nil, fun _ => List.forall_mem_nil _⟩
  | cons s rest ih =>
      obtain ⟨hreadyS, hreadyRest⟩ := List.forall_mem_cons.mp hready
      rcases Does.run (m := setCfState T F ids cfList s) (setCfState_does accountId cfList s)
          hquiet ⟨hreadyS, hlist⟩ with
        ⟨cfstate, w', hw', ⟨es, hes⟩, hquiet', hsettled⟩ | ⟨e, w', hw', hes, _, hstop⟩
      · obtain ⟨⟨es', hes'⟩, hsettles, hstored⟩ := ih hquiet'
          (fun t ht => makes_ready hes (hreadyRest t ht))
          (hes.preserves (fun _ _ _ => Made.listKnown) hlist)
          (fun hq t ht => hknown hq t (List.mem_cons_of_mem s ht))
        have hnow : Stored T F accountId w'.store { s with cfstate := some cfstate } :=
          ⟨cfstate, rfl, hsettled⟩
        have hs := hes'.preserves (P := fun st => Stored T F accountId st _)
          (fun _ _ _ => Made.stored) hnow
        have hstill := hes'.preserves (P := fun st => settledState T F accountId st s = _)
          (fun _ _ _ => Made.settledState) hsettled
        simp only [setStates, hw']
        exact ⟨⟨es ++ es', hes.append hes'⟩, fun h => .cons hstill (hsettles h),
          fun h => List.forall_mem_cons.mpr ⟨hs, hstored h⟩⟩
      · simp only [setStates, hw']
        refine ⟨hes, ?_, nofun⟩
        rintro (hq | hok)
        · rcases hstop hq with hzone | ⟨hproxied, hnone⟩
          · exact .stuck hzone
          · exact absurd hnone (hknown hq s List.mem_cons_self hproxied)
        · cases hok

theorem any_proxied_setStates :
    (setStates T F ids cfList servers w).2.1.any KetServer.cloudflareProxied =
      servers.any KetServer.cloudflareProxied := by
  have hmap := map_setStates T F ids cfList (g := KetServer.cloudflareProxied)
    (fun _ _ => rfl) servers w
  have hid := congrArg (fun l : List Bool => l.any id) hmap
  rwa [List.any_map, List.any_map] at hid

theorem not_made_nothing (st : Store) (e : Creation) (st' : Store) :
    ¬ Made (fun _ => False) st e st' := by
  intro h
  cases h <;> contradiction

theorem ready_of_settledState {cfstate : CFState}
    (h : settledState T F accountId w.store s = some cfstate) (zone : CFZone)
    (hzone : InZone T F s zone w.store) : Ready (fun _ => False) s zone w.store := by
  intro hproxied
  rw [settledState, hzone] at h
  obtain ⟨data, hdata, _⟩ := Option.map_eq_some_iff.mp h
  rw [settledData, if_pos hproxied] at hdata
  obtain ⟨ruleset, hruleset, hdata⟩ := Option.bind_eq_some_iff.mp hdata
  obtain ⟨rule, hrule, _⟩ := Option.bind_eq_some_iff.mp hdata
  exact ⟨.inr (Option.isSome_of_eq_some hruleset), .inr (Option.isSome_of_eq_some hrule)⟩

theorem not_settled_of_zoneless (h : Zoneless T F s st) :
    settledState T F accountId st s = none := by
  obtain ⟨e, he⟩ := h
  rw [settledState, he]

/-- What a pass over servers comes to that the store has all answers for. -/
structure Again (T : CaseTables) (F : Forms) (quiet : Prop) (accountId : String) (st : Store)
    (servers' : List KetServer) (r : Except BoxError Unit × List KetServer × World) : Prop where
  store : r.2.2.store = st
  servers : quiet ∨ r.1 = .ok () → r.2.1 = servers'
  stored : r.1 = .ok () → ∀ s ∈ servers', Stored T F accountId st s
  ok : quiet → (∀ s ∈ servers', Stored T F accountId st s) → r.1 = .ok ()

variable (T F ids) in
/-- Such a pass creates nothing, however the API answers, and gives the servers their states
again. -/
theorem setStates_again (hquiet : Quiet quiet w)
    (h : Settles T F accountId w.store servers servers')
    (hlist : ListKnown accountId cfList w.store)
    (hknown : quiet → (∃ s rest, servers = s :: rest ∧ Zoneless T F s w.store) ∨
      ∀ s ∈ servers, s.cloudflareProxied = true → cfList ≠ none) :
    Again T F quiet accountId w.store servers' (setStates T F ids cfList servers w) := by
  generalize hst : w.store = st at h hlist hknown
  induction h generalizing w with
  | nil => exact ⟨hst, fun _ => rfl, fun _ => List.forall_mem_nil _, fun _ _ => rfl⟩
  | @stuck s rest hzone =>
      subst hst
      have hready (zone : CFZone) (hin : InZone T F s zone w.store) :
          Ready (fun _ => False) s zone w.store := by
        obtain ⟨e, he⟩ := hzone
        exact nomatch he.symm.trans hin
      rcases Does.run (m := setCfState T F ids cfList s) (setCfState_does accountId cfList s)
          hquiet ⟨hready, hlist⟩ with
        ⟨cfstate, w', _, ⟨es, hes⟩, _, hsettled⟩ | ⟨e, w', hw', ⟨es, hes⟩, _, _⟩
      · rw [hes.eq_of_nothing not_made_nothing, not_settled_of_zoneless hzone] at hsettled
        cases hsettled
      · simp only [setStates, hw']
        refine ⟨hes.eq_of_nothing not_made_nothing, fun _ => rfl, nofun, ?_⟩
        intro _ hstored
        obtain ⟨cfstate, _, hsettled⟩ := hstored s List.mem_cons_self
        exact nomatch hsettled.symm.trans (not_settled_of_zoneless hzone)
  | @cons s rest rest' cfstate hsettled _ ih =>
      subst hst
      have hproxied : quiet → ∀ t ∈ s :: rest, t.cloudflareProxied = true → cfList ≠ none := by
        intro hq
        rcases hknown hq with ⟨_, _, heq, hzone⟩ | hknown
        · obtain ⟨rfl, _⟩ := List.cons.inj heq
          exact nomatch hsettled.symm.trans (not_settled_of_zoneless hzone)
        · exact hknown
      rcases Does.run (m := setCfState T F ids cfList s) (setCfState_does accountId cfList s)
          hquiet ⟨ready_of_settledState hsettled, hlist⟩ with
        ⟨cfstate', w', hw', ⟨es, hes⟩, hquiet', hsettled'⟩ | ⟨e, w', hw', ⟨es, hes⟩, _, hstop⟩
      · have hsame := hes.eq_of_nothing not_made_nothing
        rw [hsame] at hsettled'
        obtain rfl : cfstate = cfstate' := Option.some.inj (hsettled.symm.trans hsettled')
        obtain ⟨hstore, hservers, hstored, hok⟩ := ih hquiet' hsame
          fun hq => .inr fun t ht => hproxied hq t (List.mem_cons_of_mem s ht)
        have hnow : Stored T F accountId w.store { s with cfstate := some cfstate } :=
          ⟨cfstate, rfl, hsettled⟩
        simp only [setStates, hw']
        exact ⟨hstore, fun hend => congrArg _ (hservers hend),
          fun hend => List.forall_mem_cons.mpr ⟨hnow, hstored hend⟩,
          fun hq hall => hok hq (List.forall_mem_cons.mp hall).2⟩
      · simp only [setStates, hw']
        have hnot : ¬ quiet := by
          intro hq
          rcases hstop hq with hzone | ⟨hs, hnone⟩
          · rw [hes.eq_of_nothing not_made_nothing] at hzone
            exact nomatch hsettled.symm.trans (not_settled_of_zoneless hzone)
          · exact hproxied hq s List.mem_cons_self hs hnone
        refine ⟨hes.eq_of_nothing not_made_nothing, ?_, nofun, fun hq => absurd hq hnot⟩
        rintro (hq | hok)
        · exact absurd hq hnot
        · cases hok

theorem listKnown_none : ListKnown accountId none st := nofun

variable (T F ids) in
theorem prepareList_made (hquiet : Quiet quiet w)
    (hfirst : ∀ s rest, cloud.servers = s :: rest →
      cloud.servers.any KetServer.cloudflareProxied = true → ∀ zone, InZone T F s zone w.store →
        zone.accountId = accountId ∧ Provided allowed (.list accountId) w.store) :
    (∃ es, Makes (Made allowed) w.store es (prepareList T F ids none cloud w).2.store) ∧
      Quiet quiet (prepareList T F ids none cloud w).2 ∧
      ListKnown accountId (prepareList T F ids none cloud w).1
        (prepareList T F ids none cloud w).2.store ∧
      (quiet → (∃ s rest, cloud.servers = s :: rest ∧
          Zoneless T F s (prepareList T F ids none cloud w).2.store) ∨
        ∀ s ∈ cloud.servers, s.cloudflareProxied = true →
          (prepareList T F ids none cloud w).1 ≠ none) := by
  by_cases hany : cloud.servers.any KetServer.cloudflareProxied = true
  · cases hservers : cloud.servers with
    | nil =>
        rw [hservers] at hany
        cases hany
    | cons s rest =>
        rw [prepareList, if_pos hany]
        rcases Does.run (m := prepareCfList T F ids cloud) (prepareCfList_does accountId hservers)
            hquiet (hfirst s rest hservers hany) with
          ⟨id, w', hw', hes, hquiet', hfound⟩ | ⟨e, w', hw', hes, hquiet', hzone⟩
        · simp only [hw']
          refine ⟨hes, hquiet', ?_, fun _ => .inr fun _ _ _ => Option.some_ne_none id⟩
          rintro _ ⟨⟩
          exact hfound
        · simp only [hw']
          exact ⟨hes, hquiet', listKnown_none, fun hq => .inl ⟨s, rest, rfl, hzone hq⟩⟩
  · rw [prepareList, if_neg hany]
    refine ⟨⟨[], .nil _⟩, hquiet, listKnown_none, fun _ => .inr fun s hs hproxied => ?_⟩
    exact absurd (List.any_eq_true.mpr ⟨s, hs, hproxied⟩) hany

/-- Lists of the account only. -/
def InAccount (accountId : String) : Creation → Prop
  | .list accountId' => accountId' = accountId
  | _ => True

/-- After a pass over a cloud that needs the block list, the account has it. -/
theorem Passed.isSome_ourList {r : Except BoxError Unit × List KetServer × World}
    (h : Passed T F allowed quiet accountId st servers r) (hend : quiet ∨ r.1 = .ok ())
    (hlist : quiet → (ourList st accountId).isSome = true)
    (hany : r.2.1.any KetServer.cloudflareProxied = true) :
    (ourList r.2.2.store accountId).isSome = true := by
  rcases hend with hq | hok
  · obtain ⟨es, hes⟩ := h.makes
    exact hes.preserves (P := fun st => present st (.list accountId) = true)
      (fun _ _ _ => Made.keeps) (hlist hq)
  · obtain ⟨s, hs, hproxied⟩ := List.any_eq_true.mp hany
    obtain ⟨cfstate, _, hsettled⟩ := h.stored hok s hs
    exact list_of_settledState hproxied hsettled

/-- What a preparation comes to. -/
structure Prepares (T : CaseTables) (F : Forms) (accountId : String) (cloud : Cloud) (w : World)
    (p : Prepared) : Prop where
  makes : ∃ es, Makes (Made (InAccount accountId)) w.store es p.world.store
  settled : (∀ fate ∈ w.fates, fate = .answered) ∨ p.result = .ok () →
    Settled T F accountId p.world.store cloud p.cloud
  stored : p.result = .ok () → ∀ s ∈ p.cloud.servers, Stored T F accountId p.world.store s

variable (T F ids) in
/-- A preparation creates only what is missing, and leaves nothing for another one to do unless
a request failed. -/
theorem prepare_settles (hone : OneAccount T F accountId w.store.zones cloud) :
    Prepares T F accountId cloud w (prepareCloudflareState T F ids none cloud w) := by
  have hquiet : Quiet (∀ fate ∈ w.fates, fate = .answered) w := id
  have hfirst : ∀ s rest, cloud.servers = s :: rest →
      cloud.servers.any KetServer.cloudflareProxied = true → ∀ zone, InZone T F s zone w.store →
        zone.accountId = accountId ∧ Provided (InAccount accountId) (.list accountId) w.store :=
    fun s rest hservers _ zone hzone =>
      ⟨hone s (hservers ▸ List.mem_cons_self) zone hzone, .inl rfl⟩
  obtain ⟨⟨es, hes⟩, hquiet', hlist, hgot⟩ := prepareList_made T F ids hquiet hfirst
  rw [prepareCloudflareState]
  generalize prepareList T F ids none cloud w = r at *
  obtain ⟨cfList, w'⟩ := r
  dsimp only at *
  by_cases hfirstZone : ∃ s rest, cloud.servers = s :: rest ∧ Zoneless T F s w'.store
  · obtain ⟨s, rest, hservers, hzone⟩ := hfirstZone
    have hstuck : Settles T F accountId w'.store cloud.servers cloud.servers := by
      rw [hservers]
      exact .stuck hzone
    have hagain := setStates_again T F ids hquiet' hstuck hlist
      fun _ => .inl ⟨s, rest, hservers, hzone⟩
    generalize setStates T F ids cfList cloud.servers w' = r at *
    obtain ⟨result, servers, w''⟩ := r
    obtain ⟨hstore, hsame, hstored, _⟩ := hagain
    dsimp only at hstore hsame hstored
    refine ⟨⟨es, hstore.symm ▸ hes⟩, fun hend => ?_, fun hok => ?_⟩
    · show Settled T F accountId w''.store cloud { cloud with servers }
      rw [hstore, hsame hend]
      refine ⟨rfl, hstuck, fun s' rest' hservers' _ => ?_⟩
      obtain ⟨rfl, _⟩ := List.cons.inj (hservers.symm.trans hservers')
      exact .inl hzone
    · show ∀ s ∈ servers, Stored T F accountId w''.store s
      rw [hstore, hsame (.inr hok)]
      exact hstored hok
  · have hknown (hq : ∀ fate ∈ w.fates, fate = .answered) :
        ∀ s ∈ cloud.servers, s.cloudflareProxied = true → cfList ≠ none :=
      (hgot hq).resolve_left hfirstZone
    have hready : ∀ s ∈ cloud.servers, ∀ zone, InZone T F s zone w'.store →
        Ready (InAccount accountId) s zone w'.store :=
      fun _ _ _ _ _ => ⟨.inl trivial, .inl trivial⟩
    have hpassed := setStates_passed T F ids hquiet' hready hlist hknown
    obtain ⟨es', hes'⟩ := hpassed.makes
    refine ⟨⟨es ++ es', hes.append hes'⟩,
      fun hend => ⟨rfl, hpassed.settles hend, fun s rest _ hany => ?_⟩, hpassed.stored⟩
    refine .inr (hpassed.isSome_ourList hend ?_ ?_)
    · intro hq
      obtain ⟨s, hs, hproxied⟩ := List.any_eq_true.mp hany
      obtain ⟨id, hid⟩ := Option.ne_none_iff_exists'.mp (hknown hq s hs hproxied)
      obtain ⟨list, hfound, _⟩ := hlist id hid
      exact Option.isSome_of_eq_some hfound
    · rw [any_proxied_setStates]
      exact hany

/-- What a preparation comes to that the store has all answers for. -/
structure Repeats (T : CaseTables) (F : Forms) (accountId : String) (w : World) (cloud' : Cloud)
    (p : Prepared) : Prop where
  store : p.world.store = w.store
  cloud : (∀ fate ∈ w.fates, fate = .answered) ∨ p.result = .ok () → p.cloud = cloud'
  stored : p.result = .ok () → ∀ s ∈ cloud'.servers, Stored T F accountId w.store s
  ok : (∀ fate ∈ w.fates, fate = .answered) →
    (∀ s ∈ cloud'.servers, Stored T F accountId w.store s) → p.result = .ok ()

variable (T F ids) in
/-- Where nothing is left to create, the servers get the same states again. -/
theorem prepare_repeats (hone : OneAccount T F accountId w.store.zones cloud)
    (hsettled : Settled T F accountId w.store cloud cloud') :
    Repeats T F accountId w cloud' (prepareCloudflareState T F ids none cloud w) := by
  have hquiet : Quiet (∀ fate ∈ w.fates, fate = .answered) w := id
  have hfirst : ∀ s rest, cloud.servers = s :: rest →
      cloud.servers.any KetServer.cloudflareProxied = true → ∀ zone, InZone T F s zone w.store →
        zone.accountId = accountId ∧ Provided (fun _ => False) (.list accountId) w.store := by
    intro s rest hservers hany zone hzone
    refine ⟨hone s (hservers ▸ List.mem_cons_self) zone hzone, .inr ?_⟩
    rcases hsettled.list s rest hservers hany with ⟨e, he⟩ | hpresent
    · exact nomatch he.symm.trans hzone
    · exact hpresent
  obtain ⟨⟨es, hes⟩, hquiet', hlist, hgot⟩ := prepareList_made T F ids hquiet hfirst
  have hsame := hes.eq_of_nothing not_made_nothing
  rw [prepareCloudflareState]
  generalize prepareList T F ids none cloud w = r at *
  obtain ⟨cfList, w'⟩ := r
  dsimp only at *
  have hservers : Settles T F accountId w'.store cloud.servers cloud'.servers := by
    rw [hsame]
    exact hsettled.servers
  obtain ⟨hstore, hagain, hstored, hok⟩ := setStates_again T F ids hquiet' hservers hlist hgot
  rw [hsame] at hstored hok
  refine ⟨hstore.trans hsame, fun hend => ?_, hstored, hok⟩
  show { cloud with servers := (setStates T F ids cfList cloud.servers w').2.1 } = cloud'
  rw [hagain hend]
  exact hsettled.same.symm

end Passes

section Runs

variable (T : CaseTables) (F : Forms) (ids : IdSource)

/-- A preparation on some cloud, with what becomes of its requests. -/
structure Call where
  cloud : Cloud
  fates : List Fate

/-- Every preparation starts without a block list. -/
def prepared (st : Store) (call : Call) : Prepared :=
  prepareCloudflareState T F ids none call.cloud { store := st, fates := call.fates }

def step (st : Store) (call : Call) : Store :=
  (prepared T F ids st call).world.store

variable {T F} {accountId : String} {zones : List CFZone} {st st' : Store} {call : Call}
  {calls : List Call} {cloud : Cloud}

theorem prepared_prepares (hst : st.zones = zones)
    (hone : OneAccount T F accountId zones call.cloud) :
    Prepares T F accountId call.cloud { store := st, fates := call.fates }
      (prepared T F ids st call) := by
  subst hst
  exact prepare_settles T F ids (w := { store := st, fates := call.fates }) hone

theorem run_makes (hst : st.zones = zones)
    (hone : ∀ call ∈ calls, OneAccount T F accountId zones call.cloud) :
    ∃ es, Makes (Made (InAccount accountId)) st es (run (step T F ids) st calls) := by
  induction calls generalizing st with
  | nil => exact ⟨[], .nil _⟩
  | cons call calls ih =>
      obtain ⟨hcall, hcalls⟩ := List.forall_mem_cons.mp hone
      obtain ⟨es, hes⟩ := (prepared_prepares ids hst hcall).makes
      obtain ⟨es', hes'⟩ := ih ((makes_zones hes).trans hst) hcalls
      exact ⟨es ++ es', hes.append hes'⟩

theorem makes_allowed {allowed : Creation → Prop} {st st' : Store} {es : List Creation}
    (h : Makes (Made allowed) st es st') : ∀ e ∈ es, allowed e := by
  induction h with
  | nil st => exact List.forall_mem_nil _
  | cons hmade _ ih =>
      refine List.forall_mem_cons.mpr ⟨?_, ih⟩
      cases hmade <;> assumption

/-- The lists of one account are created once altogether. -/
theorem countP_isList_le_one {st st' : Store} {es : List Creation}
    (h : Makes (Made (InAccount accountId)) st es st') : es.countP Creation.isList ≤ 1 := by
  refine le_of_eq_of_le (List.countP_congr fun e he => ?_) (count_le_one h (.list accountId))
  have hallowed := makes_allowed h e he
  cases e with
  | list accountId' =>
      obtain rfl : accountId' = accountId := hallowed
      simp [Creation.isList]
  | ruleset zoneId => simp [Creation.isList]
  | rule zoneId => simp [Creation.isList]

/-- One list at most, and for each zone one ruleset and one rule. -/
structure CreatedOnce (added : List Creation) : Prop where
  list : added.countP Creation.isList ≤ 1
  ruleset : ∀ zoneId, added.countP (· == .ruleset zoneId) ≤ 1
  rule : ∀ zoneId, added.countP (· == .rule zoneId) ≤ 1

theorem createdOnce_of_makes {st st' : Store} {es : List Creation}
    (h : Makes (Made (InAccount accountId)) st es st') : CreatedOnce es where
  list := countP_isList_le_one h
  ruleset zoneId := count_le_one h (.ruleset zoneId)
  rule zoneId := count_le_one h (.rule zoneId)

/-- However often and on whatever clouds of one account: one list, and one ruleset and one rule
for a zone. After a preparation that no failure kept from its end, one on the same cloud creates
nothing, whatever is prepared in between, and unless a request fails it gives every server the
same state again. -/
theorem created_once (T : CaseTables) (F : Forms) (ids : IdSource) (accountId : String)
    (st : Store) (calls : List Call)
    (hone : ∀ call ∈ calls, OneAccount T F accountId st.zones call.cloud) :
    let st₁ := run (step T F ids) st calls
    (∃ added, st₁.audit = st.audit ++ added ∧ CreatedOnce added) ∧
    ∀ call, OneAccount T F accountId st.zones call.cloud →
      let first := prepared T F ids st₁ call
      (∀ fate ∈ call.fates, fate = .answered) ∨ first.result = .ok () →
      ∀ between, (∀ call ∈ between, OneAccount T F accountId st.zones call.cloud) → ∀ fates,
        let st₂ := run (step T F ids) first.world.store between
        let second := prepared T F ids st₂ { cloud := call.cloud, fates }
        second.world.store = st₂ ∧
        ((∀ fate ∈ fates, fate = .answered) ∨ second.result = .ok () →
          second.cloud = first.cloud) ∧
        ((∀ fate ∈ fates, fate = .answered) → first.result = .ok () → second.result = .ok ()) ∧
        (first.result = .ok () ∨ second.result = .ok () →
          ∀ s ∈ first.cloud.servers, Stored T F accountId st₂ s) := by
  intro st₁
  obtain ⟨es, hes⟩ := run_makes ids rfl hone
  refine ⟨⟨es, makes_audit hes, createdOnce_of_makes hes⟩, ?_⟩
  intro call hcall first hend between hbetween fates st₂ second
  have hfirst := prepared_prepares ids (makes_zones hes) hcall
  obtain ⟨es₁, hes₁⟩ := hfirst.makes
  have hzones₁ := (makes_zones hes₁).trans (makes_zones hes)
  obtain ⟨es₂, hes₂⟩ := run_makes ids hzones₁ hbetween
  have hzones₂ : st₂.zones = st.zones := (makes_zones hes₂).trans hzones₁
  have hsettled : Settled T F accountId st₂ call.cloud first.cloud :=
    hes₂.preserves (P := fun st => Settled T F accountId st _ _)
      (fun _ _ _ => Made.settled) (hfirst.settled hend)
  have hstored (hok : first.result = .ok ()) :
      ∀ s ∈ first.cloud.servers, Stored T F accountId st₂ s :=
    fun s hs => hes₂.preserves (P := fun st => Stored T F accountId st s)
      (fun _ _ _ => Made.stored) (hfirst.stored hok s hs)
  have hcall₂ : OneAccount T F accountId st₂.zones call.cloud := by
    rw [hzones₂]
    exact hcall
  have hsecond := prepare_repeats T F ids (w := { store := st₂, fates }) hcall₂ hsettled
  exact ⟨hsecond.store, hsecond.cloud, fun hanswered hok => hsecond.ok hanswered (hstored hok),
    fun hok => hok.elim hstored hsecond.stored⟩

end Runs

section Instances

open Xcplane.Specimen

/-- Ids that are longer than all that are taken. -/
def lengthIds : IdSource where
  next taken := .ofList (List.replicate ((taken.map String.length).sum + 1) 'i')
  fresh taken hmem := by
    have hle := List.single_le_sum (fun _ _ => Nat.zero_le _) _
      (List.mem_map_of_mem (f := String.length) hmem)
    rw [String.length_ofList, List.length_replicate] at hle
    omega

def emptyStore : Store where
  zones := [{ id := "zone", name := "example.org", accountId := "a1", accountName := "account" }]
  lists _ := []
  rulesets _ := .empty
  audit := []

def proxiedCloud : Cloud :=
  Specimen.cloud [{ alpha with cloudflareProxied := true }, { beta with cloudflareProxied := true }]

theorem oneAccount_emptyStore (cloud : Cloud) :
    OneAccount asciiTables forms "a1" emptyStore.zones cloud := by
  intro s _ zone hzone
  have hmem := (getCfZone_ok_iff.mp hzone).longest.mem
  rw [List.mem_singleton.mp hmem]

/-- A call on two servers of one zone, the answer to the creation of the list lost. -/
def lostCall : Call where
  cloud := proxiedCloud
  fates := [.answered, .answered, .lost "timeout"]

def answeredCall : Call where
  cloud := proxiedCloud
  fates := []

def lostStore : Store :=
  run (step asciiTables forms lengthIds) emptyStore [lostCall]

def completed : Prepared :=
  prepared asciiTables forms lengthIds lostStore answeredCall

theorem created_once_lost :
    lostStore.audit = [.list "a1", .ruleset "zone", .rule "zone"] ∧
      completed.world.store.audit = lostStore.audit ∧
      (∃ added, lostStore.audit = emptyStore.audit ++ added ∧ CreatedOnce added) ∧
      (prepared asciiTables forms lengthIds completed.world.store answeredCall).world.store =
        completed.world.store ∧
      (prepared asciiTables forms lengthIds completed.world.store answeredCall).cloud =
        completed.cloud ∧
      ∀ s ∈ completed.cloud.servers,
        Stored asciiTables forms "a1" completed.world.store s := by
  obtain ⟨hcreated, hagain⟩ := created_once asciiTables forms lengthIds "a1" emptyStore [lostCall]
    fun call _ => oneAccount_emptyStore call.cloud
  have hok : completed.result = .ok () := by rfl
  obtain ⟨hstore, hcloud, -, hstored⟩ := hagain answeredCall (oneAccount_emptyStore proxiedCloud)
    (.inr hok) [] (List.forall_mem_nil _) []
  exact ⟨by decide +kernel, by decide +kernel, hcreated, hstore,
    hcloud (.inl (List.forall_mem_nil _)), hstored (.inl hok)⟩

end Instances

end Xcplane.CloudflareAccount
