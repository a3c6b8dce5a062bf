import Xcplane.RebaseOrder
import Xcplane.RebaseTriggers

/-!
The specification of a server as its remote side has it, and what a run that ends
well makes of it by the actions that it has. The planned actions put everything that
changes, but for the Cloudflare mode and the links of the panel in some cases.
-/

namespace Xcplane.RemoteSide

open Xcplane.Types
open Xcplane.Lib
open Xcplane.Server
open Xcplane.Cloudflare
open Xcplane.RebaseDiff
open Xcplane.Deploy
open Xcplane.PlaybookVars
open Xcplane.RebasePlan
open Xcplane.RebaseTriggers

abbrev InboundMap := String → Option Inbound

/-- What a run configures. The mode is the one that the templates are told, the host of the
subscriptions the one in the panel's links. The countries are a set and the inbounds a map,
since their order has no effect. -/
structure RemoteSpec where
  ip : IpAddr
  domain : Host
  dnsSubdomain : String
  uiSubdomain : String
  subSubdomain : String
  subLinks : String
  sshPort : UInt16
  cloudflareProxied : Bool
  mode : Option (Bool × Bool)
  outboundBlock : CountryCode → Bool
  inbounds : InboundMap

def specOf (F : Forms) (s : KetServer) : RemoteSpec where
  ip := s.ip
  domain := s.domain
  dnsSubdomain := s.dnsSubdomain
  uiSubdomain := s.uiSubdomain
  subSubdomain := s.subSubdomain
  subLinks := subhostname F s
  sshPort := s.sshPort
  cloudflareProxied := s.cloudflareProxied
  mode := cloudflareMode s
  outboundBlock := s.outboundBlock.contains
  inbounds := firstInbound s

/-- The inbounds after the recorded ones were deleted and added. -/
def applyData (data : RebaseData) (before : InboundMap) : InboundMap := fun n =>
  (data.addedInbounds.find? fun inb => inb.name == n).or
    (if n ∈ data.removedInbounds.map Inbound.name then none else before n)

/-- The part of the recorded change that the actions are for. -/
def changeBy (actions : List AnsibleAction) (data : Option RebaseData) : RebaseData :=
  match data with
  | none => ⟨[], [], ⟨none, none, none, none⟩⟩
  | some d =>
      { d with
        addedInbounds := if .AddInbound ∈ actions then d.addedInbounds else []
        removedInbounds := if .DelInbound ∈ actions then d.removedInbounds else [] }

/-- What all of the tasks together configure. -/
def putBy {α : Type} (tasks actions : List AnsibleAction) (before after : α) : α :=
  if tasks ⊆ actions then after else before

/-- A run that ends well puts of the specification what its actions are for. -/
def putSpec (F : Forms) (before : RemoteSpec) (run : AnsibleRun) : RemoteSpec where
  ip := putBy [.Cloudflare] run.actions before.ip run.server.ip
  domain := putBy domainActions run.actions before.domain run.server.domain
  dnsSubdomain := putBy dnsActions run.actions before.dnsSubdomain run.server.dnsSubdomain
  uiSubdomain := putBy uiActions run.actions before.uiSubdomain run.server.uiSubdomain
  subSubdomain := putBy subActions run.actions before.subSubdomain run.server.subSubdomain
  subLinks := putBy [.PanelSettings] run.actions before.subLinks (subhostname F run.server)
  sshPort := putBy sshActions run.actions before.sshPort run.server.sshPort
  cloudflareProxied :=
    putBy modeActions run.actions before.cloudflareProxied run.server.cloudflareProxied
  mode := putBy modeActions run.actions before.mode (cloudflareMode run.server)
  outboundBlock :=
    putBy [.OutblockedUpdate] run.actions before.outboundBlock run.server.outboundBlock.contains
  inbounds := applyData (changeBy run.actions run.rebaseData) before.inbounds

section Diff

variable {F : Forms} {opts : RebaseOpts} {curr new : KetServer}

theorem firstInbound_name {s : KetServer} {n : String} {inb : Inbound}
    (h : firstInbound s n = some inb) : inb.name = n := by
  simpa using List.find?_some h

def addedAt (curr new : KetServer) (n : String) : Option Inbound :=
  if firstInbound curr n = none then firstInbound new n else none

theorem addedAt_name {n : String} {inb : Inbound} (h : addedAt curr new n = some inb) :
    inb.name = n := by
  unfold addedAt at h
  split at h
  · exact firstInbound_name h
  · cases h

theorem addedAt_eq_some_iff {n : String} {inb : Inbound} :
    addedAt curr new n = some inb ↔ firstInbound curr n = none ∧ firstInbound new n = some inb := by
  unfold addedAt
  split
  · rename_i hcurr
    simp [hcurr]
  · rename_i hcurr
    simp [hcurr]

/-- A name that is accepted adds to what one of the declarations has for it alone. -/
theorem diffInbounds_cons_ok {n : String} {rest : List String} {added removed : List Inbound}
    {d : List Inbound × List Inbound}
    (h : diffInbounds F opts curr new (n :: rest) added removed = .ok d) :
    diffInbounds F opts curr new rest (added ++ (addedAt curr new n).toList)
        (removed ++ (addedAt new curr n).toList) = .ok d ∧
      ∀ i j, firstInbound curr n = some i → firstInbound new n = some j → i = j := by
  rw [diffInbounds] at h
  cases hcurr : firstInbound curr n with
  | none =>
      refine ⟨?_, fun i j hi => by cases hi⟩
      cases hnew : firstInbound new n with
      | none => simpa [addedAt, hcurr, hnew] using h
      | some newInb => simpa [addedAt, hcurr, hnew] using h
  | some currInb =>
      cases hnew : firstInbound new n with
      | none =>
          refine ⟨?_, fun i j _ hj => by cases hj⟩
          simp only [hcurr, hnew] at h
          split at h
          · simpa [addedAt, hcurr, hnew] using h
          · cases h
      | some newInb =>
          simp only [hcurr, hnew] at h
          split at h
          · rename_i heq
            obtain ⟨_, h⟩ := ensure_bind_eq_ok_iff.mp h
            refine ⟨by simpa [addedAt, hcurr, hnew] using h, ?_⟩
            intro i j hi hj
            rw [← Option.some.inj hi, ← Option.some.inj hj, heq]
          · cases h

theorem diffInbounds_ok {names : List String} {added removed : List Inbound}
    {d : List Inbound × List Inbound}
    (h : diffInbounds F opts curr new names added removed = .ok d) :
    d = (added ++ names.filterMap (addedAt curr new),
        removed ++ names.filterMap (addedAt new curr)) ∧
      ∀ n ∈ names, ∀ i j, firstInbound curr n = some i → firstInbound new n = some j → i = j := by
  induction names generalizing added removed with
  | nil =>
      cases h
      simp
  | cons n rest ih =>
      obtain ⟨hrest, hn⟩ := diffInbounds_cons_ok h
      obtain ⟨hd, hsame⟩ := ih hrest
      have hcons : ∀ f : String → Option Inbound,
          (n :: rest).filterMap f = (f n).toList ++ rest.filterMap f := by
        intro f
        cases hf : f n with
        | none => simp [hf]
        | some inb => simp [hf]
      refine ⟨?_, List.forall_mem_cons.mpr ⟨hn, hsame⟩⟩
      rw [hd, hcons, hcons, List.append_assoc, List.append_assoc]

/-- What an accepted comparison of two declarations records. -/
structure Compared (curr new : KetServer) (data : RebaseData) : Prop where
  added : ∀ n inb, firstInbound curr n = none → firstInbound new n = some inb →
    (data.addedInbounds.find? fun i => i.name == n) = some inb
  notAdded : ∀ n, firstInbound curr n ≠ none ∨ firstInbound new n = none →
    (data.addedInbounds.find? fun i => i.name == n) = none
  removed : ∀ n, n ∈ data.removedInbounds.map Inbound.name ↔
    firstInbound curr n ≠ none ∧ firstInbound new n = none
  kept : ∀ n i j, firstInbound curr n = some i → firstInbound new n = some j → i = j

theorem find?_filterMap_addedAt (names : List String) (n : String) :
    ((names.filterMap (addedAt curr new)).find? fun i => i.name == n) =
      if n ∈ names then addedAt curr new n else none := by
  induction names with
  | nil => rfl
  | cons k rest ih =>
      rw [List.filterMap_cons]
      rcases eq_or_ne k n with rfl | hne
      · cases hk : addedAt curr new k with
        | none =>
            simp only [ih, hk]
            simp
        | some inb =>
            simp only
            rw [List.find?_cons_of_pos (by simpa using addedAt_name hk)]
            simp
      · cases hk : addedAt curr new k with
        | none => simp [ih, Ne.symm hne]
        | some inb =>
            have hname : (inb.name == n) = false := by
              rw [addedAt_name hk]
              simpa using hne
            simp only
            rw [List.find?_cons, hname, ih]
            simp [Ne.symm hne]

theorem compareServer_compared {ord : InboundOrder} {data : RebaseData}
    (h : compareServer F opts ord curr new = .ok data) : Compared curr new data := by
  obtain ⟨d, hd, h⟩ := bind_eq_ok_iff.mp h
  obtain ⟨domain, _, h⟩ := bind_eq_ok_iff.mp h
  cases h
  obtain ⟨rfl, hkept⟩ := diffInbounds_ok hd
  have henum := (ord.enumerates curr new).mem_iff
  have hmem : ∀ {n inb}, firstInbound curr n = some inb ∨ firstInbound new n = some inb →
      n ∈ ord.names curr new := by
    intro n inb hn
    rw [henum, ← firstInbound_isSome_iff, ← firstInbound_isSome_iff]
    rcases hn with hn | hn
    · exact .inl (by rw [hn]; rfl)
    · exact .inr (by rw [hn]; rfl)
  refine ⟨?_, ?_, ?_, ?_⟩
  · intro n inb hcurr hnew
    rw [List.nil_append, find?_filterMap_addedAt, if_pos (hmem (.inr hnew))]
    exact addedAt_eq_some_iff.mpr ⟨hcurr, hnew⟩
  · intro n hn
    rw [List.nil_append, find?_filterMap_addedAt]
    split
    · unfold addedAt
      rcases hn with hn | hn
      · rw [if_neg hn]
      · rw [hn, ite_self]
    · rfl
  · intro n
    simp only [List.nil_append, List.mem_map, List.mem_filterMap, addedAt_eq_some_iff]
    constructor
    · rintro ⟨inb, ⟨k, _, hnew, hcurr⟩, rfl⟩
      obtain rfl := firstInbound_name hcurr
      exact ⟨by rw [hcurr]; exact Option.some_ne_none _, hnew⟩
    · rintro ⟨hcurr, hnew⟩
      obtain ⟨inb, hinb⟩ := Option.ne_none_iff_exists'.mp hcurr
      exact ⟨inb, ⟨n, hmem (.inl hinb), hnew, hinb⟩, firstInbound_name hinb⟩
  · intro n i j hi hj
    exact hkept n (hmem (.inl hi)) i j hi hj

variable {data : RebaseData}

theorem applyData_compared (h : Compared curr new data) :
    applyData data (firstInbound curr) = firstInbound new := by
  funext n
  unfold applyData
  cases hcurr : firstInbound curr n with
  | none =>
      cases hnew : firstInbound new n with
      | none =>
          rw [h.notAdded n (.inr hnew), Option.none_or]
          split
          · rfl
          · rfl
      | some inb => rw [h.added n inb hcurr hnew, Option.some_or]
  | some i =>
      have hne : firstInbound curr n ≠ none := by
        rw [hcurr]
        exact Option.some_ne_none i
      rw [h.notAdded n (.inl hne), Option.none_or]
      cases hnew : firstInbound new n with
      | none => rw [if_pos ((h.removed n).mpr ⟨hne, hnew⟩)]
      | some j =>
          rw [if_neg, h.kept n i j hcurr hnew]
          intro hmem
          rw [((h.removed n).mp hmem).2] at hnew
          cases hnew

theorem applyData_eq_self_iff (h : Compared curr new data) :
    applyData data (firstInbound curr) = firstInbound curr ↔
      data.addedInbounds = [] ∧ data.removedInbounds = [] := by
  rw [applyData_compared h]
  constructor
  · intro heq
    constructor
    · rw [List.eq_nil_iff_forall_not_mem]
      intro inb hinb
      have hsome : (data.addedInbounds.find? fun i => i.name == inb.name) ≠ none := by
        rw [ne_eq, List.find?_eq_none]
        intro hnone
        exact hnone inb hinb (by simp)
      cases hcurr : firstInbound curr inb.name with
      | none => exact hsome (h.notAdded _ (.inr (by rw [heq, hcurr])))
      | some i => exact hsome (h.notAdded _ (.inl (by rw [hcurr]; exact Option.some_ne_none i)))
    · rw [List.eq_nil_iff_forall_not_mem]
      intro inb hinb
      obtain ⟨hcurr, hnew⟩ := (h.removed inb.name).mp (List.mem_map_of_mem hinb)
      rw [heq] at hnew
      exact hcurr hnew
  · rintro ⟨hadded, hremoved⟩
    rw [← applyData_compared h]
    funext n
    simp [applyData, hadded, hremoved]

end Diff

section Plan

variable {F : Forms} {o m : KetServer} {data : RebaseData}

theorem specActions_eq_nil_iff (ho : F.RoundTripsOn o) (hm : F.RoundTripsOn m) :
    specActions F o m = [] ↔
      o.ip = m.ip ∧ o.domain = m.domain ∧ o.dnsSubdomain = m.dnsSubdomain ∧
        o.uiSubdomain = m.uiSubdomain ∧ o.subSubdomain = m.subSubdomain ∧
        o.sshPort = m.sshPort := by
  have hite : ∀ {p : Prop} [Decidable p] {a : AnsibleAction} {l : List AnsibleAction},
      (if ¬p then a :: l else []) = [] ↔ p := by
    intro p _ a l
    split
    · rename_i hp
      simp [hp]
    · rename_i hp
      simpa using hp
  simp only [specActions, List.append_eq_nil_iff, ne_eq, hite, ho.ipText_eq_iff hm,
    ho.hostText_eq_iff hm, and_assoc]

theorem sameCountries_iff {l l' : List CountryCode} :
    sameCountries l l' = true ↔ l.contains = l'.contains := by
  simp only [sameCountries, Bool.and_eq_true, List.all_eq_true]
  constructor
  · rintro ⟨hl, hl'⟩
    funext c
    rw [Bool.eq_iff_iff]
    constructor
    · intro hc
      exact hl c (by simpa using hc)
    · intro hc
      exact hl' c (by simpa using hc)
  · intro h
    constructor
    · intro c hc
      rw [← h]
      simpa using hc
    · intro c hc
      rw [h]
      simpa using hc

theorem outblockActions_eq_nil_iff :
    outblockActions o m = [] ↔ o.outboundBlock.contains = m.outboundBlock.contains := by
  rw [← sameCountries_iff, outblockActions]
  cases sameCountries o.outboundBlock m.outboundBlock with
  | true => simp
  | false => simp

theorem proxyActions_eq_nil_iff {st st' : CFState} :
    proxyActions o m st st' = [] ↔
      o.cloudflareProxied = m.cloudflareProxied ∧ st.cloudflareOnly = st'.cloudflareOnly := by
  rw [proxyActions]
  split
  · rename_i h
    simp only [List.cons_ne_nil, false_iff, not_and_or]
    exact h
  · rename_i h
    simpa [not_or] using h

end Plan

section Puts

variable {F : Forms} {o m : KetServer} {data : RebaseData} {actions : List AnsibleAction}

theorem putBy_eq_iff {α : Type} {tasks : List AnsibleAction} {before after : α} :
    after = putBy tasks actions before after ↔ (before ≠ after → tasks ⊆ actions) := by
  unfold putBy
  split
  · rename_i h
    exact ⟨fun _ _ => h, fun _ => rfl⟩
  · rename_i h
    constructor
    · exact fun heq hne => absurd heq.symm hne
    · intro himp
      by_contra hne
      exact h (himp (Ne.symm hne))

theorem eq_of_putBy {α : Type} {tasks : List AnsibleAction} {before after : α}
    (h : putBy tasks actions before after = before) (himp : before ≠ after → tasks ⊆ actions) :
    before = after := by
  by_contra hne
  rw [putBy, if_pos (himp hne)] at h
  exact hne h.symm

/-- What changes comes with all the tasks for it. -/
structure Covered (F : Forms) (o m : KetServer) (data : RebaseData)
    (actions : List AnsibleAction) : Prop where
  ip : o.ip ≠ m.ip → [AnsibleAction.Cloudflare] ⊆ actions
  domain : o.domain ≠ m.domain → domainActions ⊆ actions
  dnsSubdomain : o.dnsSubdomain ≠ m.dnsSubdomain → dnsActions ⊆ actions
  uiSubdomain : o.uiSubdomain ≠ m.uiSubdomain → uiActions ⊆ actions
  subSubdomain : o.subSubdomain ≠ m.subSubdomain → subActions ⊆ actions
  sshPort : o.sshPort ≠ m.sshPort → sshActions ⊆ actions
  cloudflareProxied : o.cloudflareProxied ≠ m.cloudflareProxied → modeActions ⊆ actions
  outboundBlock : o.outboundBlock.contains ≠ m.outboundBlock.contains →
    [AnsibleAction.OutblockedUpdate] ⊆ actions
  inbounds : applyData (changeBy actions (some data)) = applyData data

theorem covered_of_plan (ho : F.RoundTripsOn o) (hm : F.RoundTripsOn m)
    (hplan : planActions F o m (some data) = .ok actions) : Covered F o m data actions := by
  obtain ⟨st, st', hst, hst', hactions⟩ := planActions_eq_ok_iff.mp hplan
  have hinbound : ∀ a ∈ inboundActions (some data), a ∈ actions := by
    intro a ha
    rw [hactions, mem_sortUnique]
    exact List.mem_append_right _ ha
  constructor
  · intro hne
    refine List.cons_subset.mpr ⟨?_, List.nil_subset _⟩
    refine mem_plan_of_spec hplan (mem_specActions_iff.mpr (.inl ⟨?_, rfl⟩))
    rwa [ne_eq, ho.ipText_eq_iff hm]
  · intro hne a ha
    refine mem_plan_of_spec hplan (mem_specActions_iff.mpr (.inr (.inl ⟨?_, ha⟩)))
    rwa [ne_eq, ho.hostText_eq_iff hm]
  · intro hne a ha
    exact mem_plan_of_spec hplan (mem_specActions_iff.mpr (by simp [hne, ha]))
  · intro hne a ha
    exact mem_plan_of_spec hplan (mem_specActions_iff.mpr (by simp [hne, ha]))
  · intro hne a ha
    exact mem_plan_of_spec hplan (mem_specActions_iff.mpr (by simp [hne, ha]))
  · intro hne a ha
    exact mem_plan_of_spec hplan (mem_specActions_iff.mpr (by simp [hne, ha]))
  · exact fun hne => modeActions_subset hplan hst hst' (.inl hne)
  · intro hne
    refine List.cons_subset.mpr ⟨?_, List.nil_subset _⟩
    rw [hactions, mem_sortUnique]
    refine List.mem_append_left _ (List.mem_append_right _ ?_)
    rw [outblockActions, if_neg (by rwa [sameCountries_iff])]
    exact List.mem_singleton_self _
  · have hadded : .AddInbound ∉ actions → data.addedInbounds = [] := by
      intro hnot
      by_contra hne
      exact hnot (hinbound _ (by simp [inboundActions, hne]))
    have hremoved : .DelInbound ∉ actions → data.removedInbounds = [] := by
      intro hnot
      by_contra hne
      exact hnot (hinbound _ (by simp [inboundActions, hne]))
    funext before n
    simp only [applyData, changeBy]
    congr 1
    · split
      · rfl
      · rename_i hnot
        rw [hadded hnot]
    · split
      · rfl
      · rename_i hnot
        rw [hremoved hnot]

/-- What a planned run puts is the new specification, but for its inbounds where the data
says otherwise, and for the mode and the links in the two cases that the plan misses. -/
theorem specOf_eq_putSpec_iff (ho : F.RoundTripsOn o) (hm : F.RoundTripsOn m)
    (hplan : planActions F o m (some data) = .ok actions) :
    specOf F m = putSpec F (specOf F o) ⟨m, actions, some data⟩ ↔
      firstInbound m = applyData data (firstInbound o) ∧ ¬ DepthFlips o m ∧
        ¬ Relocated F o m := by
  have hcovered := covered_of_plan ho hm hplan
  rw [← modeActions_iff hplan, ← panelSettings_iff hplan]
  simp only [specOf, putSpec, RemoteSpec.mk.injEq, putBy_eq_iff, hcovered.inbounds]
  constructor
  · rintro ⟨_, _, _, _, _, hlinks, _, _, hmode, _, hinbounds⟩
    exact ⟨hinbounds, hmode, fun hne => hlinks hne List.mem_cons_self⟩
  · rintro ⟨hinbounds, hmode, hlinks⟩
    exact ⟨hcovered.ip, hcovered.domain, hcovered.dnsSubdomain, hcovered.uiSubdomain,
      hcovered.subSubdomain, fun hne => List.cons_subset.mpr ⟨hlinks hne, List.nil_subset _⟩,
      hcovered.sshPort, hcovered.cloudflareProxied, hmode, hcovered.outboundBlock, hinbounds⟩

theorem putSpec_of_nil {before : RemoteSpec} {server : KetServer} {data : Option RebaseData} :
    putSpec F before ⟨server, [], data⟩ = before := by
  cases data with
  | none => rfl
  | some d => rfl

/-- A run with something to do changes the specification that the server has. -/
theorem eq_nil_of_putSpec {new : KetServer} (ho : F.RoundTripsOn o) (hm : F.RoundTripsOn m)
    (hdata : Compared o new data) (hplan : planActions F o m (some data) = .ok actions)
    (hput : putSpec F (specOf F o) ⟨m, actions, some data⟩ = specOf F o) : actions = [] := by
  have hcovered := covered_of_plan ho hm hplan
  obtain ⟨st, st', hst, hst', _⟩ := planActions_eq_ok_iff.mp hplan
  simp only [specOf, putSpec, RemoteSpec.mk.injEq, hcovered.inbounds] at hput
  obtain ⟨hip, hdomain, hdns, hui, hsub, _, hssh, hproxied, hmode, hblock, hinbounds⟩ := hput
  have honly : st.cloudflareOnly = st'.cloudflareOnly := by
    by_contra hne
    rw [putBy, if_pos (modeActions_subset hplan hst hst' (.inr hne)), cloudflareMode,
      cloudflareMode, hst, hst', Option.map_some, Option.map_some, Option.some.injEq,
      Prod.mk.injEq] at hmode
    exact hne hmode.2.symm
  have hnil : planActions F o m (some data) = .ok [] := by
    rw [planActions_eq_nil_iff hst hst', specActions_eq_nil_iff ho hm, proxyActions_eq_nil_iff,
      outblockActions_eq_nil_iff, inboundActions_eq_nil_iff]
    refine ⟨⟨eq_of_putBy hip hcovered.ip, eq_of_putBy hdomain hcovered.domain,
      eq_of_putBy hdns hcovered.dnsSubdomain, eq_of_putBy hui hcovered.uiSubdomain,
      eq_of_putBy hsub hcovered.subSubdomain, eq_of_putBy hssh hcovered.sshPort⟩,
      ⟨eq_of_putBy hproxied hcovered.cloudflareProxied, honly⟩,
      eq_of_putBy hblock hcovered.outboundBlock, ?_⟩
    rintro d ⟨⟩
    exact (applyData_eq_self_iff hdata).mp hinbounds
  rw [hplan, Except.ok.injEq] at hnil
  exact hnil

end Puts

end Xcplane.RemoteSide
