import Xcplane.CloudflareAnswers
import Xcplane.Lib.KeyedTable
import Xcplane.RebaseOrder
import Xcplane.RemoteSide
import Xcplane.WellFormedConfig

/-!
Which Rebases are accepted between two declarations of the same servers, and what is
recorded of each server then: the difference of its inbounds and its stale hostnames.
-/

namespace Xcplane.RebaseVerdict

open Xcplane.Types
open Xcplane.Lib
open Xcplane.Server
open Xcplane.CloudConfig
open Xcplane.CloudflareAnswers
open Xcplane.RebaseDiff
open Xcplane.RebaseOrder
open Xcplane.RemoteSide

section Property

variable (F : Forms) (opts : RebaseOpts) (curr new : KetServer)

/-- A name on both sides is the same inbound on both. -/
def Immutable : Prop :=
  ∀ inb ∈ curr.inbounds, ∀ inb' ∈ new.inbounds, inb.name = inb'.name → inb = inb'

/-- A server that keeps an inbound of a TLS kind keeps the host of its subscriptions. -/
def TlsHostKept : Prop :=
  (∃ inb ∈ curr.inbounds, inb ∈ new.inbounds ∧ isTls inb.kind = true) →
    subhostname F curr = subhostname F new

def NoneLost : Prop :=
  ∀ inb ∈ curr.inbounds, inb.name ∈ new.inboundNames

def Allowed : Prop :=
  Immutable curr new ∧ TlsHostKept F curr new ∧ (opts.forced = true ∨ NoneLost curr new)

/-- The old hostname, where it is not the new one. -/
def stale (hostname : KetServer → String) : Option String :=
  if hostname curr ≠ hostname new then some (hostname curr) else none

/-- The data record the changes of a server, no more and no less. The orders of the
lists are those in which a hash map is gone through. -/
structure Exact (data : RebaseData) : Prop where
  added : data.addedInbounds.Perm
    (new.inbounds.filter fun inb => inb.name ∉ curr.inboundNames)
  removed : data.removedInbounds.Perm
    (curr.inbounds.filter fun inb => inb.name ∉ new.inboundNames)
  result : ((curr.inbounds.filter fun inb => inb ∉ data.removedInbounds) ++
    data.addedInbounds).Perm new.inbounds
  dns : data.rebaseDomain.dns = stale curr new (dnshostname F)
  ui : data.rebaseDomain.ui = stale curr new (uihostname F)
  sub : data.rebaseDomain.sub = stale curr new (subhostname F)
  zone : data.rebaseDomain.zone.isSome = true ↔
    data.rebaseDomain.dns.isSome = true ∨ data.rebaseDomain.ui.isSome = true ∨
      data.rebaseDomain.sub.isSome = true

end Property

section Declarations

/-- What the parser ensures about a server that the comparison relies on. -/
structure WellDeclared (s : KetServer) : Prop where
  inbounds : s.inboundNames.Nodup
  dns : '.' ∉ s.dnsSubdomain.toList
  ui : '.' ∉ s.uiSubdomain.toList
  sub : '.' ∉ s.subSubdomain.toList

variable {F : Forms} {draws : Nat → SecretDraw} {t : TCloud} {c curr : Cloud} {s s' : KetServer}

theorem dot_notMem_of_isProperSubdomain {sub : String} (h : Naming.isProperSubdomain sub = true) :
    '.' ∉ sub.toList := by
  intro hdot
  simp only [Naming.isProperSubdomain, Bool.and_eq_true, List.all_eq_true] at h
  exact absurd (h.2 '.' hdot) (by decide)

theorem parseCloudConfig_wellDeclared (h : parseCloudConfig F draws t = .ok c)
    (hs : s ∈ c.servers) : WellDeclared s := by
  have hinbounds := parseCloudConfig_inboundNames h hs
  obtain ⟨p, rfl, hsound⟩ := WellFormedConfig.sound_of_parse h hs
  have hproper := hsound.subdomains
  simp only [WellFormedConfig.subdomainsOf, List.forall_mem_cons] at hproper
  obtain ⟨hsub, hui, hdns, _⟩ := hproper
  exact
    { inbounds := hinbounds
      dns := dot_notMem_of_isProperSubdomain hdns
      ui := dot_notMem_of_isProperSubdomain hui
      sub := dot_notMem_of_isProperSubdomain hsub }

theorem WellDeclared.of_state (h : WellDeclared s) (hs : SameButState s s') :
    WellDeclared s' := by
  rw [hs]
  exact ⟨h.inbounds, h.dns, h.ui, h.sub⟩

theorem firstOf_of_mem (hnames : c.names.Nodup) (hs : s ∈ c.servers) :
    c.firstOf s.name = some s :=
  KeyedTable.find?_eq_some_of_mem hnames hs

theorem firstInbound_of_mem (h : WellDeclared s) {inb : Inbound} (hinb : inb ∈ s.inbounds) :
    firstInbound s inb.name = some inb :=
  KeyedTable.find?_eq_some_of_mem h.inbounds hinb

theorem firstInbound_mem {inb : Inbound} {n : String} (h : firstInbound s n = some inb) :
    inb ∈ s.inbounds :=
  List.mem_of_find?_eq_some h

theorem firstInbound_eq_none_iff {n : String} : firstInbound s n = none ↔ n ∉ s.inboundNames := by
  rw [← firstInbound_isSome_iff, Option.not_isSome_iff_eq_none]

end Declarations

section Acceptance

variable {F : Forms} {opts : RebaseOpts} {curr new : KetServer}

theorem not_refusesInbound_iff (hcurr : WellDeclared curr) (hnew : WellDeclared new) :
    (∀ n, ¬ RefusesInbound F opts curr new n) ↔ Allowed F opts curr new := by
  constructor
  · intro h
    have hboth : ∀ inb ∈ curr.inbounds, ∀ inb' ∈ new.inbounds, inb.name = inb'.name →
        ¬ (inb ≠ inb' ∨ isTls inb.kind = true ∧ subhostname F curr ≠ subhostname F new) := by
      intro inb hinb inb' hinb' hname
      have hn := h inb.name
      rw [RefusesInbound, firstInbound_of_mem hcurr hinb, hname,
        firstInbound_of_mem hnew hinb'] at hn
      exact hn
    refine ⟨?_, ?_, ?_⟩
    · intro inb hinb inb' hinb' hname
      exact not_not.mp (not_or.mp (hboth inb hinb inb' hinb' hname)).1
    · rintro ⟨inb, hinb, hinb', htls⟩
      by_contra hne
      exact hboth inb hinb inb hinb' rfl (.inr ⟨htls, hne⟩)
    · rw [or_iff_not_imp_left, Bool.not_eq_true]
      intro hforced inb hinb
      by_contra hlost
      have hn := h inb.name
      rw [RefusesInbound, firstInbound_of_mem hcurr hinb,
        firstInbound_eq_none_iff.mpr hlost] at hn
      exact hn hforced
  · rintro ⟨himmutable, htls, hlost⟩ n
    rw [RefusesInbound]
    cases hi : firstInbound curr n with
    | none => exact id
    | some i =>
        have himem := firstInbound_mem hi
        have hiname := firstInbound_name hi
        cases hj : firstInbound new n with
        | none =>
            intro hforced
            rcases hlost with hopts | hnone
            · rw [hforced] at hopts
              cases hopts
            · rw [firstInbound_eq_none_iff, ← hiname] at hj
              exact hj (hnone i himem)
        | some j =>
            have hjmem := firstInbound_mem hj
            have hsame := himmutable i himem j hjmem (hiname.trans (firstInbound_name hj).symm)
            rintro (hne | ⟨hkind, hne⟩)
            · exact hne hsame
            · exact hne (htls ⟨i, himem, hsame ▸ hjmem, hkind⟩)

theorem not_refuses_iff (hcurr : WellDeclared curr) (hnew : WellDeclared new)
    (hstate : curr.cfstate.isSome = true) :
    ¬ Refuses F opts curr new ↔ Allowed F opts curr new := by
  have hsome : ¬ (HostnameChanged curr new ∧ curr.cfstate = none) := by
    rintro ⟨_, hnone⟩
    rw [hnone] at hstate
    cases hstate
  rw [Refuses, not_or, not_exists, not_refusesInbound_iff hcurr hnew]
  exact and_iff_left hsome

end Acceptance

section Records

variable {F : Forms} {opts : RebaseOpts} {ord : InboundOrder} {curr new : KetServer}

theorem filterMap_addedAt_perm (curr : KetServer) (hnew : WellDeclared new)
    {names : List String} (hnames : names.Nodup) (hmem : ∀ n ∈ new.inboundNames, n ∈ names) :
    (names.filterMap (addedAt curr new)).Perm
      (new.inbounds.filter fun inb => inb.name ∉ curr.inboundNames) := by
  have hadded : (names.filterMap (addedAt curr new)).Nodup := by
    apply hnames.filterMap
    intro n n' inb hn hn'
    rw [← addedAt_name hn, addedAt_name hn']
  have hinbounds : new.inbounds.Nodup := List.Nodup.of_map Inbound.name hnew.inbounds
  rw [List.perm_ext_iff_of_nodup hadded (hinbounds.filter _)]
  intro inb
  rw [List.mem_filterMap, List.mem_filter, decide_eq_true_eq]
  constructor
  · rintro ⟨n, _, hn⟩
    obtain ⟨hcurr, hn⟩ := addedAt_eq_some_iff.mp hn
    rw [firstInbound_name hn, ← firstInbound_eq_none_iff]
    exact ⟨firstInbound_mem hn, hcurr⟩
  · rintro ⟨hinb, hfresh⟩
    refine ⟨inb.name, hmem _ (List.mem_map_of_mem hinb), ?_⟩
    rw [addedAt_eq_some_iff, firstInbound_eq_none_iff]
    exact ⟨hfresh, firstInbound_of_mem hnew hinb⟩

/-- What stays and what is added are the inbounds of the new declaration. -/
theorem result_perm (hcurr : WellDeclared curr) (hnew : WellDeclared new)
    (himmutable : Immutable curr new) {added removed : List Inbound}
    (hadded : added.Perm (new.inbounds.filter fun inb => inb.name ∉ curr.inboundNames))
    (hremoved : removed.Perm (curr.inbounds.filter fun inb => inb.name ∉ new.inboundNames)) :
    ((curr.inbounds.filter fun inb => inb ∉ removed) ++ added).Perm new.inbounds := by
  have hcurrNodup : curr.inbounds.Nodup := List.Nodup.of_map Inbound.name hcurr.inbounds
  have hnewNodup : new.inbounds.Nodup := List.Nodup.of_map Inbound.name hnew.inbounds
  have hkept : ∀ inb, inb ∈ curr.inbounds ∧ inb ∉ removed ↔
      inb ∈ new.inbounds ∧ inb.name ∈ curr.inboundNames := by
    intro inb
    rw [hremoved.mem_iff, List.mem_filter, decide_eq_true_eq]
    constructor
    · rintro ⟨hinb, hstays⟩
      have hname : inb.name ∈ new.inboundNames := by
        by_contra hlost
        exact hstays ⟨hinb, hlost⟩
      obtain ⟨inb', hinb', hname'⟩ := List.mem_map.mp hname
      rw [himmutable inb hinb inb' hinb' hname'.symm]
      exact ⟨hinb', List.mem_map_of_mem (himmutable inb hinb inb' hinb' hname'.symm ▸ hinb)⟩
    · rintro ⟨hinb, hname⟩
      obtain ⟨inb', hinb', hname'⟩ := List.mem_map.mp hname
      rw [← himmutable inb' hinb' inb hinb hname']
      exact ⟨hinb', fun hlost => hlost.2 (hname' ▸ List.mem_map_of_mem hinb)⟩
  have hdisjoint : (curr.inbounds.filter fun inb => inb ∉ removed).Disjoint added := by
    intro inb hinb hmem
    rw [List.mem_filter, decide_eq_true_eq, hkept] at hinb
    rw [hadded.mem_iff, List.mem_filter, decide_eq_true_eq] at hmem
    exact hmem.2 hinb.2
  have hnodup : ((curr.inbounds.filter fun inb => inb ∉ removed) ++ added).Nodup :=
    (hcurrNodup.filter _).append (hadded.nodup_iff.mpr (hnewNodup.filter _)) hdisjoint
  rw [List.perm_ext_iff_of_nodup hnodup hnewNodup]
  intro inb
  rw [List.mem_append, List.mem_filter, decide_eq_true_eq, hkept, hadded.mem_iff,
    List.mem_filter, decide_eq_true_eq]
  by_cases hname : inb.name ∈ curr.inboundNames <;> simp [hname]

theorem splitOn_dot {sub sub' rest rest' : List Char} (hsub : '.' ∉ sub) (hsub' : '.' ∉ sub')
    (h : sub ++ '.' :: rest = sub' ++ '.' :: rest') : sub = sub' ∧ rest = rest' := by
  have htake : ∀ {l r : List Char}, '.' ∉ l → (l ++ '.' :: r).takeWhile (· != '.') = l := by
    intro l r hl
    rw [List.takeWhile_append_of_pos]
    · simp
    · intro c hc
      rw [bne_iff_ne]
      rintro rfl
      exact hl hc
  have hsame : sub = sub' := by
    rw [← htake (r := rest) hsub, h, htake hsub']
  subst hsame
  exact ⟨rfl, (List.cons.inj (List.append_cancel_left h)).2⟩

/-- A subdomain and a domain are read off their hostname. -/
theorem hostname_eq_iff {sub sub' domain domain' : String} (hsub : '.' ∉ sub.toList)
    (hsub' : '.' ∉ sub'.toList) :
    sub ++ "." ++ domain = sub' ++ "." ++ domain' ↔ sub = sub' ∧ domain = domain' := by
  constructor
  · intro h
    have hlist := congrArg String.toList h
    simp only [String.toList_append, List.append_assoc] at hlist
    obtain ⟨hs, hd⟩ := splitOn_dot hsub hsub' hlist
    exact ⟨String.toList_injective hs, String.toList_injective hd⟩
  · rintro ⟨rfl, rfl⟩
    rfl

theorem stale_eq {sub sub' : String} (hsub : '.' ∉ sub.toList) (hsub' : '.' ∉ sub'.toList)
    (hdomain : F.hostText curr.domain = F.hostText new.domain ↔ curr.domain = new.domain) :
    (if sub' != sub || new.domain != curr.domain then
        some (sub ++ "." ++ F.hostText curr.domain) else none) =
      if sub ++ "." ++ F.hostText curr.domain ≠ sub' ++ "." ++ F.hostText new.domain then
        some (sub ++ "." ++ F.hostText curr.domain) else none := by
  congr 1
  rw [ne_eq, hostname_eq_iff hsub hsub', hdomain, not_and_or, Bool.or_eq_true, bne_iff_ne,
    bne_iff_ne, ne_comm (a := sub'), ne_comm (a := new.domain)]

theorem rebaseZone_ok {unchanged : Bool} {zone : Option String}
    (h : rebaseZone curr unchanged = .ok zone) : zone.isSome = !unchanged := by
  unfold rebaseZone at h
  split at h
  · rename_i hunchanged
    cases h
    rw [hunchanged]
    rfl
  · rename_i hchanged
    rw [Bool.not_eq_true] at hchanged
    split at h
    · cases h
    · cases h
      rw [hchanged]
      rfl

theorem compareServer_exact (hcurr : WellDeclared curr) (hnew : WellDeclared new)
    (hdomain : F.hostText curr.domain = F.hostText new.domain ↔ curr.domain = new.domain)
    {data : RebaseData} (h : compareServer F opts ord curr new = .ok data) :
    Exact F curr new data := by
  have haccepted : ¬ Refuses F opts curr new := exists_compareServer_ok_iff.mp ⟨data, h⟩
  have hallowed : Allowed F opts curr new :=
    (not_refusesInbound_iff hcurr hnew).mp (not_exists.mp (not_or.mp haccepted).1)
  obtain ⟨d, hd, h⟩ := bind_eq_ok_iff.mp h
  obtain ⟨domain, hrebase, h⟩ := bind_eq_ok_iff.mp h
  cases h
  obtain ⟨rfl, -⟩ := diffInbounds_ok hd
  have henum := ord.enumerates curr new
  have hadded := filterMap_addedAt_perm curr hnew henum.nodup
    fun n hn => (henum.mem_iff n).mpr (.inr hn)
  have hremoved := filterMap_addedAt_perm new hcurr henum.nodup
    fun n hn => (henum.mem_iff n).mpr (.inl hn)
  obtain ⟨zone, hzone, hrebase⟩ := bind_eq_ok_iff.mp hrebase
  cases hrebase
  exact
    { added := hadded
      removed := hremoved
      result := result_perm hcurr hnew hallowed.1 hadded hremoved
      dns := stale_eq hcurr.dns hnew.dns hdomain
      ui := stale_eq hcurr.ui hnew.ui hdomain
      sub := stale_eq hcurr.sub hnew.sub hdomain
      zone := by
        rw [rebaseZone_ok hzone, Bool.not_eq_true', Bool.and_eq_false_iff, Bool.and_eq_false_iff,
          Option.isNone_eq_false_iff, Option.isNone_eq_false_iff, Option.isNone_eq_false_iff,
          or_assoc] }

end Records

section Verdict

variable {F : Forms} {opts : RebaseOpts} {ord : InboundOrder} {draws draws' : Nat → SecretDraw}
  {t t' : TCloud} {c curr new : Cloud} {o : Iteration new}

/-- What the comparison of two accepted clouds relies on. -/
structure Comparable (curr new : Cloud) : Prop where
  currNames : curr.names.Nodup
  newNames : new.names.Nodup
  currWell : ∀ x ∈ curr.servers, WellDeclared x
  newWell : ∀ s ∈ new.servers, WellDeclared s
  state : ∀ x ∈ curr.servers, ∀ s ∈ new.servers, x.name = s.name → x.cfstate.isSome = true

theorem comparable_of_parsed (hparse : parseCloudConfig F draws t = .ok c)
    (hcurr : List.Forall₂ SameButState c.servers curr.servers)
    (hnew : parseCloudConfig F draws' t' = .ok new)
    (hcommon : ∀ s ∈ new.servers, ∃ x ∈ curr.servers,
      x.name = s.name ∧ x.cfstate.isSome = true) : Comparable curr new := by
  have hnames : c.names = curr.names :=
    map_eq_of_forall₂ hcurr fun s s' hs => hs.questions.name.symm
  have hcurrNames : curr.names.Nodup := hnames ▸ (parseCloudConfig_distinct hparse).names
  refine ⟨hcurrNames, (parseCloudConfig_distinct hnew).names, ?_, ?_, ?_⟩
  · intro x hx
    obtain ⟨s, hs, hsx⟩ := exists_left_of_mem hcurr hx
    exact (parseCloudConfig_wellDeclared hparse hs).of_state hsx
  · exact fun s hs => parseCloudConfig_wellDeclared hnew hs
  · intro x hx s hs hname
    obtain ⟨x', hx', hname', hsome⟩ := hcommon s hs
    rwa [List.inj_on_of_nodup_map hcurrNames hx hx' (hname.trans hname'.symm)]

theorem Comparable.someRefused_iff (h : Comparable curr new) : SomeRefused F opts curr new ↔
    ∃ x ∈ curr.servers, ∃ s ∈ new.servers, x.name = s.name ∧ ¬ Allowed F opts x s := by
  constructor
  · rintro ⟨x, s, hx, hs, hrefuses⟩
    obtain ⟨hx, hname⟩ := Cloud.firstOf_eq_some hx
    obtain ⟨hs, -⟩ := Cloud.firstOf_eq_some hs
    refine ⟨x, hx, s, hs, hname, fun hallowed => ?_⟩
    exact (not_refuses_iff (h.currWell x hx) (h.newWell s hs) (h.state x hx s hs hname)).mpr
      hallowed hrefuses
  · rintro ⟨x, hx, s, hs, hname, hallowed⟩
    refine ⟨x, s, hname ▸ firstOf_of_mem h.currNames hx, firstOf_of_mem h.newNames hs, ?_⟩
    by_contra hrefuses
    exact hallowed ((not_refuses_iff (h.currWell x hx) (h.newWell s hs)
      (h.state x hx s hs hname)).mp hrefuses)

theorem Comparable.accepted_iff (h : Comparable curr new)
    (hnames : ∀ n ∈ new.names, n ∈ curr.names) :
    (∃ m, createRebaseData F opts ord curr new o = .ok m) ↔
      ∀ x ∈ curr.servers, ∀ s ∈ new.servers, x.name = s.name → Allowed F opts x s := by
  constructor
  · intro haccepted x hx s hs hname
    by_contra hallowed
    exact not_accepted_of_refused (h.someRefused_iff.mpr ⟨x, hx, s, hs, hname, hallowed⟩) o
      haccepted
  · intro hallowed
    apply accepted_of_common hnames
    rw [h.someRefused_iff]
    rintro ⟨x, hx, s, hs, hname, hnot⟩
    exact hnot (hallowed x hx s hs hname)

theorem hostText_eq_iff {curr new : KetServer}
    (hcurr : F.hostParse (F.hostText curr.domain) = some curr.domain)
    (hnew : F.hostParse (F.hostText new.domain) = some new.domain) :
    F.hostText curr.domain = F.hostText new.domain ↔ curr.domain = new.domain := by
  constructor
  · intro htext
    have hparsed := congrArg F.hostParse htext
    rw [hcurr, hnew] at hparsed
    exact Option.some.inj hparsed
  · exact congrArg F.hostText

theorem Comparable.exact (h : Comparable curr new) {m : List (String × RebaseData)}
    (hm : createRebaseData F opts ord curr new o = .ok m) {x s : KetServer}
    (hx : x ∈ curr.servers) (hs : s ∈ new.servers) (hname : x.name = s.name)
    (hdomain : F.hostText x.domain = F.hostText s.domain ↔ x.domain = s.domain) :
    ∃ data, m.lookup s.name = some data ∧ Exact F x s data := by
  have hfirst : curr.firstOf s.name = some x := hname ▸ firstOf_of_mem h.currNames hx
  obtain ⟨data, hdata, hlookup⟩ := createLoop_lookup_common hm (servers_nodup o)
    (mem_servers_of_firstOf (firstOf_of_mem h.newNames hs)) hfirst rfl
  exact ⟨data, hlookup, compareServer_exact (h.currWell x hx) (h.newWell s hs) hdomain hdata⟩

/-- Between two accepted configurations of the same servers, the first with its Cloudflare
states, a Rebase is accepted exactly when every server is allowed its changes, and then the
data of every server are exact. -/
theorem createRebaseData_verdict (hparse : parseCloudConfig F draws t = .ok c)
    (hcurr : List.Forall₂ SameButState c.servers curr.servers)
    (hnew : parseCloudConfig F draws' t' = .ok new)
    (hcommon : ∀ s ∈ new.servers, ∃ x ∈ curr.servers, x.name = s.name ∧ x.cfstate.isSome = true)
    (hforms : ∀ s ∈ curr.servers ++ new.servers,
      F.hostParse (F.hostText s.domain) = some s.domain) :
    ((∃ m, createRebaseData F opts ord curr new o = .ok m) ↔
      ∀ x ∈ curr.servers, ∀ s ∈ new.servers, x.name = s.name → Allowed F opts x s) ∧
    ∀ m, createRebaseData F opts ord curr new o = .ok m →
      ∀ x ∈ curr.servers, ∀ s ∈ new.servers, x.name = s.name →
        ∃ data, m.lookup s.name = some data ∧ Exact F x s data := by
  have hcomparable : Comparable curr new := comparable_of_parsed hparse hcurr hnew hcommon
  have hnames : ∀ n ∈ new.names, n ∈ curr.names := by
    intro n hn
    obtain ⟨s, hs, rfl⟩ := List.mem_map.mp hn
    obtain ⟨x, hx, hname, _⟩ := hcommon s hs
    rw [← hname]
    exact Cloud.mem_names hx
  refine ⟨hcomparable.accepted_iff hnames, ?_⟩
  intro m hm x hx s hs hname
  exact hcomparable.exact hm hx hs hname (hostText_eq_iff
    (hforms x (List.mem_append_left _ hx)) (hforms s (List.mem_append_right _ hs)))

end Verdict

section Instances

open Xcplane.Specimen

/-- What the parser makes of `alpha`, its state set. -/
def declaredAlpha : KetServer :=
  { alpha with secrets := drawnSecrets [("direct", "id2"), ("super", "super")] }

/-- The panel moves to another name, and an inbound is added. -/
def extendedAlpha : KetServer :=
  { alpha with
    uiSubdomain := "panel"
    inbounds := [direct, proxied, Inbound.superInbound]
    secrets :=
      { drawnSecrets [("direct", "id2"), ("proxied", "id3"), ("super", "super")] with
        healthPath := "163158e1b5180543" } }

theorem createRebaseData_verdict_extended :
    ∃ m, createRebaseData forms ⟨false⟩ inboundOrder (cloud [declaredAlpha])
        (cloud [extendedAlpha]) (iteration _) = .ok m ∧
      ∃ data, m.lookup "alpha" = some data ∧
        Exact forms declaredAlpha extendedAlpha data := by
  have hparse : parseCloudConfig forms draws
      (declared [{ alpha with inbounds := [direct] }]) = .ok (cloud [declaredAlpha]) := rfl
  have hnew : parseCloudConfig forms draws
      (declared [{ alpha with uiSubdomain := "panel", inbounds := [direct, proxied] }]) =
        .ok (cloud [extendedAlpha]) := rfl
  have hsame : List.Forall₂ SameButState (cloud [declaredAlpha]).servers
      (cloud [declaredAlpha]).servers := List.forall₂_same.mpr fun s _ => rfl
  have hcommon : ∀ s ∈ (cloud [extendedAlpha]).servers, ∃ x ∈ (cloud [declaredAlpha]).servers,
      x.name = s.name ∧ x.cfstate.isSome = true := by decide
  have hforms : ∀ s ∈ (cloud [declaredAlpha]).servers ++ (cloud [extendedAlpha]).servers,
      forms.hostParse (forms.hostText s.domain) = some s.domain := by decide
  have hallowed : ∀ x ∈ (cloud [declaredAlpha]).servers, ∀ s ∈ (cloud [extendedAlpha]).servers,
      x.name = s.name → Allowed forms ⟨false⟩ x s := by
    intro x hx s hs _
    rw [List.mem_singleton.mp hx, List.mem_singleton.mp hs]
    refine ⟨?_, fun _ => rfl, .inr ?_⟩
    · unfold Immutable
      decide
    · unfold NoneLost
      decide
  obtain ⟨m, hm⟩ : ∃ m, createRebaseData forms ⟨false⟩ inboundOrder (cloud [declaredAlpha])
      (cloud [extendedAlpha]) (iteration _) = .ok m :=
    (createRebaseData_verdict hparse hsame hnew hcommon hforms).1.mpr hallowed
  exact ⟨m, hm, (createRebaseData_verdict hparse hsame hnew hcommon hforms).2 m hm declaredAlpha
    List.mem_cons_self extendedAlpha List.mem_cons_self rfl⟩

end Instances

end Xcplane.RebaseVerdict
