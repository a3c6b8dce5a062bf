import Xcplane.PlaybookVars
import Xcplane.Specimen

/-!
Whether the actions of a Rebase cover what its changes affect: the Cloudflare mode that
the templates read, and the hostnames that the files on the server embed.
-/

namespace Xcplane.RebaseTriggers

open Xcplane.Types
open Xcplane.Lib
open Xcplane.Server
open Xcplane.Cloudflare
open Xcplane.Merge
open Xcplane.RebaseDiff
open Xcplane.Deploy
open Xcplane.RebasePlan
open Xcplane.PlaybookVars

section Actions

variable {F : Forms} {old new : KetServer} {data : Option RebaseData}
  {actions : List AnsibleAction} {a : AnsibleAction}

/-- The actions for a changed domain. -/
def domainActions : List AnsibleAction :=
  [.DnsReset, .CloudflareDel, .Cloudflare, .Acme, .Nginx, .DoH]

/-- The actions for a changed subdomain of the DNS server. -/
def dnsActions : List AnsibleAction :=
  [.DnsReset, .CloudflareDel, .Cloudflare, .Nginx, .DoH]

/-- The actions for a changed subdomain of the panel. -/
def uiActions : List AnsibleAction :=
  [.CloudflareDel, .Cloudflare, .Nginx]

/-- The actions for a changed subdomain of the subscriptions. -/
def subActions : List AnsibleAction :=
  [.CloudflareDel, .Cloudflare, .Nginx, .XuiAuth, .PanelSettings]

/-- The actions for a changed SSH port. -/
def sshActions : List AnsibleAction :=
  [.PortsCheck, .SSH, .Fail2ban]

/-- The actions for a changed Cloudflare mode. -/
def modeActions : List AnsibleAction :=
  [.Cloudflare, .Nginx, .Fail2ban, .Firewall]

theorem mem_specActions_iff :
    a ∈ specActions F old new ↔
      F.ipText old.ip ≠ F.ipText new.ip ∧ a = .Cloudflare ∨
      F.hostText old.domain ≠ F.hostText new.domain ∧ a ∈ domainActions ∨
      old.dnsSubdomain ≠ new.dnsSubdomain ∧ a ∈ dnsActions ∨
      old.uiSubdomain ≠ new.uiSubdomain ∧ a ∈ uiActions ∨
      old.subSubdomain ≠ new.subSubdomain ∧ a ∈ subActions ∨
      old.sshPort ≠ new.sshPort ∧ a ∈ sshActions := by
  simp only [specActions, List.mem_append, List.mem_ite_nil_right, List.mem_singleton, or_assoc]
  rfl

theorem mem_plan_of_spec (hplan : planActions F old new data = .ok actions)
    (ha : a ∈ specActions F old new) : a ∈ actions := by
  obtain ⟨oldState, newState, _, _, rfl⟩ := planActions_eq_ok_iff.mp hplan
  rw [mem_sortUnique]
  simp only [List.mem_append]
  exact .inl (.inl (.inl ha))

/-- The panel is only configured anew for a changed subdomain of the subscriptions. -/
theorem panelSettings_mem_iff (hplan : planActions F old new data = .ok actions) :
    .PanelSettings ∈ actions ↔ old.subSubdomain ≠ new.subSubdomain := by
  constructor
  · intro hmem
    obtain ⟨oldState, newState, _, _, rfl⟩ := planActions_eq_ok_iff.mp hplan
    simp only [mem_sortUnique, List.mem_append] at hmem
    rcases hmem with ((hspec | hproxy) | houtblock) | hinbounds
    · rw [mem_specActions_iff] at hspec
      simpa [domainActions, dnsActions, uiActions, subActions, sshActions] using hspec
    · simp [proxyActions] at hproxy
    · cases mem_outblockActions houtblock
    · exact absurd (mem_inboundActions hinbounds) (by decide)
  · intro hsub
    apply mem_plan_of_spec hplan
    rw [mem_specActions_iff]
    simp [hsub, subActions]

/-- The final rules of the firewall are only deployed for what the mode is read from. -/
theorem firewall_mem_iff (hplan : planActions F old new data = .ok actions) {st st' : CFState}
    (hold : old.cfstate = some st) (hnew : new.cfstate = some st') :
    .Firewall ∈ actions ↔
      old.cloudflareProxied ≠ new.cloudflareProxied ∨
        st.cloudflareOnly ≠ st'.cloudflareOnly := by
  obtain ⟨oldState, newState, holdState, hnewState, rfl⟩ := planActions_eq_ok_iff.mp hplan
  rw [hold, Option.some.injEq] at holdState
  rw [hnew, Option.some.injEq] at hnewState
  subst holdState hnewState
  rw [mem_sortUnique]
  simp only [List.mem_append]
  constructor
  · rintro (((hspec | hproxy) | houtblock) | hinbounds)
    · rw [mem_specActions_iff] at hspec
      simp [domainActions, dnsActions, uiActions, subActions, sshActions] at hspec
    · rw [proxyActions, List.mem_ite_nil_right] at hproxy
      exact hproxy.1
    · cases mem_outblockActions houtblock
    · exact absurd (mem_inboundActions hinbounds) (by decide)
  · intro hchanged
    apply Or.inl ∘ Or.inl ∘ Or.inr
    rw [proxyActions, if_pos hchanged]
    decide

theorem modeActions_subset (hplan : planActions F old new data = .ok actions) {st st' : CFState}
    (hold : old.cfstate = some st) (hnew : new.cfstate = some st')
    (hchanged : old.cloudflareProxied ≠ new.cloudflareProxied ∨
      st.cloudflareOnly ≠ st'.cloudflareOnly) : modeActions ⊆ actions := by
  obtain ⟨oldState, newState, holdState, hnewState, rfl⟩ := planActions_eq_ok_iff.mp hplan
  rw [hold, Option.some.injEq] at holdState
  rw [hnew, Option.some.injEq] at hnewState
  subst holdState hnewState
  intro a ha
  rw [mem_sortUnique]
  simp only [List.mem_append]
  apply Or.inl ∘ Or.inl ∘ Or.inr
  rw [proxyActions, if_pos hchanged]
  exact ha

/-- The run that is started for a pair in a deployment is the one that is started for the
pair alone. -/
theorem mem_startRuns_alone {rebaseData : List (String × RebaseData)} {run : AnsibleRun} :
    run ∈ (startRuns F rebaseData [(old, new)]).1 ↔ RunOf F rebaseData (old, new) run := by
  rw [mem_startRuns_iff]
  constructor
  · rintro ⟨q, hq, hrun⟩
    have hmem := List.mem_singleton.mp ((List.takeWhile_sublist _).subset hq)
    rwa [hmem] at hrun
  · intro hrun
    have hplannable : plannable (old, new) = true :=
      exists_planActions_ok_iff.mp ⟨_, hrun.1⟩
    refine ⟨(old, new), ?_, hrun⟩
    rw [List.takeWhile_cons_of_pos hplannable]
    exact List.mem_cons_self

end Actions

section CloudflareMode

/-- What the templates are told about the way of the traffic: whether the records are
proxied, and whether all the inbounds can be behind the proxy. -/
def cloudflareMode (s : KetServer) : Option (Bool × Bool) :=
  s.cfstate.map fun st => (effectiveProxied s st, st.cloudflareOnly)

/-- The proxy of a server that asks for it before and after is lifted or put back only
because the depth of its domain in the zone changes. -/
def DepthFlips (old new : KetServer) : Prop :=
  old.cloudflareProxied = true ∧ new.cloudflareProxied = true ∧
    old.cfstate.map CFState.cloudflareOnly = new.cfstate.map CFState.cloudflareOnly ∧
    old.cfstate.map CFState.tooDeep ≠ new.cfstate.map CFState.tooDeep

instance (old new : KetServer) : Decidable (DepthFlips old new) :=
  inferInstanceAs (Decidable (_ ∧ _ ∧ _ ∧ _))

theorem effectiveProxied_eq (s : KetServer) (st : CFState) :
    effectiveProxied s st = (s.cloudflareProxied && !st.tooDeep) := by
  unfold effectiveProxied
  cases s.cloudflareProxied <;> cases st.tooDeep <;> rfl

variable {F : Forms} {rebaseData : List (String × RebaseData)} {old new : KetServer}
  {data : Option RebaseData} {actions : List AnsibleAction} {run : AnsibleRun}

/-- The actions of a Rebase follow a changed mode, unless only the depth of the domain
changed it. -/
theorem modeActions_iff (hplan : planActions F old new data = .ok actions) :
    (cloudflareMode old ≠ cloudflareMode new → modeActions ⊆ actions) ↔
      ¬ DepthFlips old new := by
  obtain ⟨st, st', hold, hnew, -⟩ := planActions_eq_ok_iff.mp hplan
  have hmode : cloudflareMode old = cloudflareMode new ↔
      effectiveProxied old st = effectiveProxied new st' ∧
        st.cloudflareOnly = st'.cloudflareOnly := by
    rw [cloudflareMode, cloudflareMode, hold, hnew, Option.map_some, Option.map_some,
      Option.some.injEq, Prod.mk.injEq]
  constructor
  · rintro hfollows ⟨hproxied, hproxied', honly, hdepth⟩
    rw [hold, hnew, Option.map_some, Option.map_some, Option.some.injEq] at honly
    rw [hold, hnew, Option.map_some, Option.map_some, ne_eq, Option.some.injEq] at hdepth
    have hchanged : cloudflareMode old ≠ cloudflareMode new := by
      rw [ne_eq, hmode, effectiveProxied_eq, effectiveProxied_eq, hproxied, hproxied']
      simp [hdepth]
    have hfirewall : .Firewall ∈ actions := hfollows hchanged (by decide)
    rw [firewall_mem_iff hplan hold hnew, hproxied, hproxied'] at hfirewall
    exact hfirewall.elim (fun h => h rfl) fun h => h honly
  · intro hdepth hchanged
    apply modeActions_subset hplan hold hnew
    by_contra hsame
    rw [not_or, not_not, not_not] at hsame
    obtain ⟨hproxied, honly⟩ := hsame
    rw [ne_eq, hmode, effectiveProxied_eq, effectiveProxied_eq, ← hproxied] at hchanged
    apply hdepth
    -- With the flag off on both sides the mode could not have changed.
    cases hflag : old.cloudflareProxied with
    | false => simp [hflag, honly] at hchanged
    | true =>
        refine ⟨hflag, hproxied ▸ hflag, ?_, ?_⟩
        · rw [hold, hnew, Option.map_some, Option.map_some, honly]
        · rw [hold, hnew, Option.map_some, Option.map_some, ne_eq, Option.some.injEq]
          simpa [hflag, honly] using hchanged

/-- The run of a Rebase brings everything that depends on the Cloudflare mode in line
with a changed mode, unless only the depth of the domain changed it. -/
theorem run_mode_iff (hrun : run ∈ (startRuns F rebaseData [(old, new)]).1) :
    (cloudflareMode old ≠ cloudflareMode new → modeActions ⊆ run.actions) ↔
      ¬ DepthFlips old new :=
  modeActions_iff (mem_startRuns_alone.mp hrun).1

/-- A server behind the proxy, at the name of the zone itself. -/
def apex : KetServer :=
  { Specimen.alpha with
    domain := .domain "example.org"
    cloudflareProxied := true
    inbounds := [Specimen.proxied, Inbound.superInbound]
    cfstate := some
      { zoneName := "example.org"
        zoneId := "zone"
        tooDeep := false
        cloudflareOnly := true
        listData := some ⟨"name", "account", "ruleset", "rule", "list"⟩ } }

/-- The same server under a name in the zone. -/
def nested : KetServer :=
  { apex with
    domain := .domain "a.example.org"
    cfstate := apex.cfstate.map fun st => { st with tooDeep := true } }

def unproxied : KetServer :=
  { apex with cloudflareProxied := false }

def runFor (old new : KetServer) : AnsibleRun where
  server := new
  actions := (startRuns Specimen.forms [] [(old, new)]).1.flatMap AnsibleRun.actions
  rebaseData := none

/-- A Rebase that gives up the proxy sets up all four parts anew. -/
theorem run_mode_iff_unproxied :
    cloudflareMode apex ≠ cloudflareMode unproxied ∧
      modeActions ⊆ (runFor apex unproxied).actions := by
  have hrun : runFor apex unproxied ∈ (startRuns Specimen.forms [] [(apex, unproxied)]).1 := by
    decide
  have hchanged : cloudflareMode apex ≠ cloudflareMode unproxied := by decide
  exact ⟨hchanged, (run_mode_iff hrun).mpr (by decide) hchanged⟩

/-- A Rebase that moves the server down in its zone lifts the proxy, but leaves the ban
action of fail2ban and the final rules of the firewall as they were. -/
theorem run_nested_stale :
    setCfState Specimen.forms Specimen.cf (some "list") apex = okOr apex.cfstate "" ∧
    setCfState Specimen.forms Specimen.cf (some "list") nested = okOr nested.cfstate "" ∧
    ¬ ∀ (F : Forms) (rebaseData : List (String × RebaseData)) (old new : KetServer)
      (run : AnsibleRun), run ∈ (startRuns F rebaseData [(old, new)]).1 →
        cloudflareMode old ≠ cloudflareMode new → modeActions ⊆ run.actions := by
  refine ⟨by decide +kernel, by decide +kernel, ?_⟩
  intro h
  exact absurd (h Specimen.forms [] apex nested (runFor apex nested) (by decide) (by decide))
    (by decide)

end CloudflareMode

section Hostnames

/-- Every changed hostname comes with the actions for all that embeds it. -/
def HostnamesFollowed (F : Forms) (old new : KetServer) (actions : List AnsibleAction) : Prop :=
  (dnshostname F old ≠ dnshostname F new →
    [AnsibleAction.CloudflareDel, .Cloudflare, .Nginx, .DoH] ⊆ actions) ∧
  (uihostname F old ≠ uihostname F new →
    [AnsibleAction.CloudflareDel, .Cloudflare, .Nginx] ⊆ actions) ∧
  (subhostname F old ≠ subhostname F new →
    [AnsibleAction.CloudflareDel, .Cloudflare, .Nginx, .XuiAuth, .PanelSettings] ⊆ actions) ∧
  (F.hostText old.domain ≠ F.hostText new.domain → .Acme ∈ actions)

variable {F : Forms} {old new : KetServer}

theorem hostname_ne {sub sub' domain domain' : String}
    (h : sub ++ "." ++ domain ≠ sub' ++ "." ++ domain') : domain ≠ domain' ∨ sub ≠ sub' := by
  by_contra hsame
  rw [not_or, not_not, not_not] at hsame
  rw [hsame.1, hsame.2] at h
  exact h rfl

theorem hostname_inj {sub domain domain' : String}
    (h : sub ++ "." ++ domain = sub ++ "." ++ domain') : domain = domain' := by
  have hlist := congrArg String.toList h
  simp only [String.toList_append] at hlist
  exact String.toList_injective (List.append_cancel_left hlist)

variable {rebaseData : List (String × RebaseData)} {data : Option RebaseData}
  {actions : List AnsibleAction} {run : AnsibleRun}

/-- The domain changes under the same subdomain of the subscriptions. -/
def Relocated (F : Forms) (old new : KetServer) : Prop :=
  F.hostText old.domain ≠ F.hostText new.domain ∧ old.subSubdomain = new.subSubdomain

instance (old new : KetServer) : Decidable (Relocated F old new) :=
  inferInstanceAs (Decidable (_ ∧ _))

/-- The panel is told a changed host of the subscriptions, unless only the domain changed. -/
theorem panelSettings_iff (hplan : planActions F old new data = .ok actions) :
    (subhostname F old ≠ subhostname F new → .PanelSettings ∈ actions) ↔
      ¬ Relocated F old new := by
  rw [panelSettings_mem_iff hplan]
  constructor
  · rintro hfollows ⟨hdomain, hsame⟩
    refine hfollows ?_ hsame
    intro heq
    rw [subhostname, subhostname, hsame] at heq
    exact hdomain (hostname_inj heq)
  · intro hkept hchanged hsame
    rcases hostname_ne hchanged with h | h
    · exact hkept ⟨h, hsame⟩
    · exact h hsame

/-- The run of a Rebase renews all that embeds a changed hostname, unless the domain
changes under the same subdomain of the subscriptions. -/
theorem run_hostnames_iff (hrun : run ∈ (startRuns F rebaseData [(old, new)]).1) :
    HostnamesFollowed F old new run.actions ↔
      ¬ (F.hostText old.domain ≠ F.hostText new.domain ∧ old.subSubdomain = new.subSubdomain) := by
  obtain ⟨hplan, -, -, -⟩ := mem_startRuns_alone.mp hrun
  constructor
  · rintro ⟨-, -, hsub, -⟩
    exact (panelSettings_iff hplan).mp fun hchanged => hsub hchanged (by decide)
  · intro hkept
    have hdomain : F.hostText old.domain ≠ F.hostText new.domain →
        domainActions ⊆ run.actions := by
      intro hchanged a ha
      exact mem_plan_of_spec hplan (mem_specActions_iff.mpr (by simp [hchanged, ha]))
    have hdns : old.dnsSubdomain ≠ new.dnsSubdomain → dnsActions ⊆ run.actions := by
      intro hchanged a ha
      exact mem_plan_of_spec hplan (mem_specActions_iff.mpr (by simp [hchanged, ha]))
    have hui : old.uiSubdomain ≠ new.uiSubdomain → uiActions ⊆ run.actions := by
      intro hchanged a ha
      exact mem_plan_of_spec hplan (mem_specActions_iff.mpr (by simp [hchanged, ha]))
    have hsub : old.subSubdomain ≠ new.subSubdomain → subActions ⊆ run.actions := by
      intro hchanged a ha
      exact mem_plan_of_spec hplan (mem_specActions_iff.mpr (by simp [hchanged, ha]))
    refine ⟨?_, ?_, ?_, ?_⟩
    · intro hchanged
      rcases hostname_ne hchanged with h | h
      · exact List.Subset.trans (by decide) (hdomain h)
      · exact List.Subset.trans (by decide) (hdns h)
    · intro hchanged
      rcases hostname_ne hchanged with h | h
      · exact List.Subset.trans (by decide) (hdomain h)
      · exact hui h
    · intro hchanged
      exact hsub ((panelSettings_mem_iff hplan).mp ((panelSettings_iff hplan).mpr hkept hchanged))
    · intro hchanged
      exact hdomain hchanged (by decide)

def renamed : KetServer :=
  { Specimen.alpha with subSubdomain := "links" }

/-- A Rebase that renames the host of the subscriptions. -/
theorem run_hostnames_iff_renamed :
    HostnamesFollowed Specimen.forms Specimen.alpha renamed
      (runFor Specimen.alpha renamed).actions := by
  have hrun : runFor Specimen.alpha renamed ∈
      (startRuns Specimen.forms [] [(Specimen.alpha, renamed)]).1 := by decide
  exact (run_hostnames_iff hrun).mpr (by decide)

def relocated : KetServer :=
  { Specimen.alpha with domain := .domain "c.example.org" }

/-- A Rebase to another domain does not tell the panel, whose links go on with the old
name of the host. -/
theorem run_relocated_stale :
    ¬ ∀ (F : Forms) (rebaseData : List (String × RebaseData)) (old new : KetServer)
      (run : AnsibleRun), run ∈ (startRuns F rebaseData [(old, new)]).1 →
        HostnamesFollowed F old new run.actions := by
  intro h
  obtain ⟨-, -, hsub, -⟩ := h Specimen.forms [] Specimen.alpha relocated
    (runFor Specimen.alpha relocated) (by decide)
  exact absurd (hsub (by decide)) (by decide)

end Hostnames

end Xcplane.RebaseTriggers
