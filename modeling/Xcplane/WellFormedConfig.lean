import Xcplane.CloudConfig
import Xcplane.Specimen

/-!
Which configurations the parser accepts, and what it makes of them: every check as a
condition on the declarations, and the condition of all of them together.
-/

namespace Xcplane.WellFormedConfig

open Xcplane.Types
open Xcplane.Lib
open Xcplane.Server
open Xcplane.CloudConfig

section Statement

/-- The names and ports of inbounds that can be on one server. -/
structure Unambiguous (inbounds : List Inbound) : Prop where
  names : (inbounds.map Inbound.name).Nodup
  notSuper : SvcKind.superName ∉ inbounds.map Inbound.name
  ports : (inbounds.map Inbound.port).Nodup
  unreserved : ∀ p ∈ Constants.reservedPorts, p ∉ inbounds.map Inbound.port

structure WellFormedSet (inboundSet : List Inbound) : Prop extends Unambiguous inboundSet where
  nonempty : inboundSet ≠ []
  proper : ∀ inb ∈ inboundSet, Naming.isProper inb.name = true

/-- The inbounds of a server: the whole inbound-set when it declares none. -/
def inboundsOf (inboundSet : List Inbound) (s : KetServer) : List Inbound :=
  if s.inbounds.isEmpty then inboundSet else s.inbounds

def subdomainsOf (s : KetServer) : List String :=
  [s.subSubdomain, s.uiSubdomain, s.dnsSubdomain]

structure WellFormedServer (inboundSet : List Inbound) (s : KetServer) : Prop where
  name : Naming.isProper s.name = true
  ip : isGlobal s.ip = true
  subdomains : ∀ sd ∈ subdomainsOf s, Naming.isProperSubdomain sd = true
  subdomains_nodup : (subdomainsOf s).Nodup
  inbounds : Unambiguous (inboundsOf inboundSet s)
  covered : ∀ inb ∈ inboundsOf inboundSet s,
    ∃ set ∈ inboundSet, set.name = inb.name ∧ set.port = inb.port

structure WellFormed (t : TCloud) : Prop where
  inboundSet : WellFormedSet t.settings.inboundSet
  servers : ∀ s ∈ t.servers, WellFormedServer t.settings.inboundSet s
  names : (t.servers.map KetServer.name).Nodup
  domains : (t.servers.map KetServer.domain).Nodup
  ips : (t.servers.map KetServer.ip).Nodup

/-- What becomes of a declared server: it is the same but for its inbounds, its connection
and its secrets. -/
structure Completed (inboundSet : List Inbound) (declared s : KetServer) : Prop where
  same : s = { declared with
    inbounds := s.inbounds, ansibleConn := s.ansibleConn, secrets := s.secrets }
  inbounds : s.inbounds = inboundsOf inboundSet declared ++ [Inbound.superInbound]
  oneSuper : s.inboundNames.count SvcKind.superName = 1
  subids : s.HasSubids

end Statement

section Checks

theorem ensure_eq_ok_iff {c : Bool} {e : BoxError} : ensure c e = .ok () ↔ c = true := by
  cases c with
  | true => exact iff_of_true rfl rfl
  | false => exact iff_of_false (by rintro ⟨⟩) Bool.false_ne_true

theorem checkInboundSet_ok_iff {inbounds : List Inbound} {names : List String}
    {ports : List UInt16} {r : List String × List UInt16} :
    checkInboundSet inbounds names ports = .ok r ↔
      (∀ inb ∈ inbounds, Naming.isProper inb.name = true) ∧
        Fresh names (inbounds.map Inbound.name) ∧ Fresh ports (inbounds.map Inbound.port) ∧
          r = ((inbounds.map Inbound.name).reverse ++ names,
            (inbounds.map Inbound.port).reverse ++ ports) := by
  induction inbounds generalizing names ports with
  | nil =>
      rw [checkInboundSet]
      constructor
      · intro h
        exact ⟨by simp, fresh_nil, fresh_nil, (Except.ok.inj h).symm⟩
      · rintro ⟨_, _, _, rfl⟩
        rfl
  | cons inb rest ih =>
      rw [checkInboundSet, ensure_bind_eq_ok_iff, ensure_bind_eq_ok_iff, ensure_bind_eq_ok_iff, ih]
      simp only [List.map_cons, fresh_cons, List.forall_mem_cons, List.reverse_cons,
        List.append_assoc, List.singleton_append, Bool.not_eq_true', List.contains_eq_mem,
        decide_eq_false_iff_not]
      tauto

theorem checkReservedPorts_ok_iff {message : UInt16 → BoxError} {reserved ports : List UInt16} :
    checkReservedPorts message reserved ports = .ok () ↔ Fresh ports reserved := by
  induction reserved generalizing ports with
  | nil => exact iff_of_true rfl fresh_nil
  | cons port rest ih =>
      rw [checkReservedPorts, ensure_bind_eq_ok_iff, ih, fresh_cons]
      simp

theorem checkSubdomains_ok_iff {server : String} {subdomains seen : List String} :
    checkSubdomains server subdomains seen = .ok () ↔
      (∀ sd ∈ subdomains, Naming.isProperSubdomain sd = true) ∧ Fresh seen subdomains := by
  induction subdomains generalizing seen with
  | nil => exact iff_of_true rfl ⟨by simp, fresh_nil⟩
  | cons sd rest ih =>
      rw [checkSubdomains, ensure_bind_eq_ok_iff, ensure_bind_eq_ok_iff, ih, fresh_cons,
        List.forall_mem_cons]
      simp only [Bool.not_eq_true', List.contains_eq_mem, decide_eq_false_iff_not]
      tauto

/-- The checks of the inbounds leave nothing but their being unambiguous. -/
theorem unambiguous_iff {inbounds : List Inbound} :
    Unambiguous inbounds ↔ Fresh [SvcKind.superName] (inbounds.map Inbound.name) ∧
      Fresh [] (inbounds.map Inbound.port) ∧
        Fresh ((inbounds.map Inbound.port).reverse ++ []) Constants.reservedPorts := by
  have hreserved : Constants.reservedPorts.Nodup := by decide
  constructor
  · intro h
    refine ⟨⟨h.names, ?_⟩, fresh_of_none.mpr h.ports, hreserved, ?_⟩
    · intro n hn hsuper
      rw [List.mem_singleton] at hsuper
      exact h.notSuper (hsuper ▸ hn)
    · simpa using h.unreserved
  · rintro ⟨hnames, hports, hunreserved⟩
    refine ⟨hnames.nodup, ?_, fresh_of_none.mp hports, ?_⟩
    · intro hsuper
      exact hnames.unseen _ hsuper List.mem_cons_self
    · simpa using hunreserved.unseen

theorem unambiguous_nil : Unambiguous [] where
  names := List.nodup_nil
  notSuper := List.not_mem_nil
  ports := List.nodup_nil
  unreserved _ _ := List.not_mem_nil

variable {settings : CloudSettings} {seen : Seen} {s : KetServer}

/-- What is checked of a server by itself, its inbounds being in place. -/
structure Sound (settings : CloudSettings) (s : KetServer) : Prop where
  name : Naming.isProper s.name = true
  ip : isGlobal s.ip = true
  subdomains : ∀ sd ∈ subdomainsOf s, Naming.isProperSubdomain sd = true
  subdomains_nodup : (subdomainsOf s).Nodup
  inbounds : Unambiguous s.inbounds
  covered : ∀ inb ∈ s.inbounds,
    ∃ set ∈ settings.inboundSet, set.name = inb.name ∧ set.port = inb.port

theorem checkServer_ok_iff : checkServer settings seen s = .ok () ↔
    Sound settings s ∧ s.name ∉ seen.names ∧ s.domain ∉ seen.domains ∧ s.ip ∉ seen.ips := by
  simp only [checkServer, ensure_bind_eq_ok_iff, Bool.not_eq_true', List.contains_eq_mem,
    decide_eq_false_iff_not]
  constructor
  · rintro ⟨hname, hnewName, hnewDomain, hip, hnewIp, h⟩
    obtain ⟨_, hsubdomains, h⟩ := bind_eq_ok_iff.mp h
    obtain ⟨hsubdomains, hnodup⟩ := checkSubdomains_ok_iff.mp hsubdomains
    have hinbounds : Unambiguous s.inbounds ∧ ∀ inb ∈ s.inbounds,
        ∃ set ∈ settings.inboundSet, set.name = inb.name ∧ set.port = inb.port := by
      split at h
      · rename_i hempty
        rw [List.isEmpty_iff.mp hempty]
        exact ⟨unambiguous_nil, by simp⟩
      · obtain ⟨ports, hchecked, h⟩ := bind_eq_ok_iff.mp h
        obtain ⟨_, hreserved, hcovered⟩ := bind_eq_ok_iff.mp h
        obtain ⟨hnames, hports, rfl⟩ := checkServerInbounds_ok_iff.mp hchecked
        refine ⟨unambiguous_iff.mpr ⟨hnames, hports, checkReservedPorts_ok_iff.mp hreserved⟩, ?_⟩
        simpa using ensure_eq_ok_iff.mp hcovered
    exact ⟨⟨hname, hip, hsubdomains, fresh_of_none.mp hnodup, hinbounds.1, hinbounds.2⟩,
      hnewName, hnewDomain, hnewIp⟩
  · rintro ⟨hs, hnewName, hnewDomain, hnewIp⟩
    refine ⟨hs.name, hnewName, hnewDomain, hs.ip, hnewIp, bind_eq_ok_iff.mpr ⟨(), ?_, ?_⟩⟩
    · exact checkSubdomains_ok_iff.mpr ⟨hs.subdomains, fresh_of_none.mpr hs.subdomains_nodup⟩
    · obtain ⟨hnames, hports, hreserved⟩ := unambiguous_iff.mp hs.inbounds
      split
      · rfl
      · apply bind_eq_ok_iff.mpr
        refine ⟨_, checkServerInbounds_ok_iff.mpr ⟨hnames, hports, rfl⟩, ?_⟩
        apply bind_eq_ok_iff.mpr
        refine ⟨(), checkReservedPorts_ok_iff.mpr hreserved, ?_⟩
        exact ensure_eq_ok_iff.mpr (by simpa using hs.covered)

theorem checkServers_ok_iff {l : List KetServer} :
    (∃ servers, checkServers settings seen l = .ok servers) ↔
      (∀ s ∈ l, Sound settings s) ∧ Fresh seen.names (l.map KetServer.name) ∧
        Fresh seen.domains (l.map KetServer.domain) ∧ Fresh seen.ips (l.map KetServer.ip) := by
  induction l generalizing seen with
  | nil => exact iff_of_true ⟨[], rfl⟩ ⟨by simp, fresh_nil, fresh_nil, fresh_nil⟩
  | cons s rest ih =>
      have hrest : (∃ servers, checkServers settings seen (s :: rest) = .ok servers) ↔
          checkServer settings seen s = .ok () ∧
            ∃ servers, checkServers settings (seen.insert s) rest = .ok servers := by
        simp only [checkServers, bind_eq_ok_iff]
        constructor
        · rintro ⟨_, ⟨⟩, hs, servers, hservers, _⟩
          exact ⟨hs, servers, hservers⟩
        · rintro ⟨hs, servers, hservers⟩
          exact ⟨_, (), hs, servers, hservers, rfl⟩
      rw [hrest, ih, checkServer_ok_iff]
      simp only [List.map_cons, fresh_cons, List.forall_mem_cons, Seen.insert]
      tauto

end Checks

section Accepted

variable {F : Forms} {draws : Nat → SecretDraw} {t : TCloud} {c : Cloud} {s : KetServer}

/-- Preparing a server only settles its inbounds, its connection and its secrets. -/
theorem prepareServer_eq (settings : CloudSettings) (draw : SecretDraw) (s : KetServer) :
    prepareServer F settings draw s = { s with
      inbounds := inboundsOf settings.inboundSet s
      ansibleConn := (prepareServer F settings draw s).ansibleConn
      secrets := (prepareServer F settings draw s).secrets } := by
  by_cases hempty : s.inbounds.isEmpty = true
  · simp [prepareServer, fillSecrets, buildInventory, inboundsOf, hempty]
  · simp [prepareServer, fillSecrets, buildInventory, inboundsOf, hempty]

theorem sound_prepareServer_iff {settings : CloudSettings} {draw : SecretDraw} :
    Sound settings (prepareServer F settings draw s) ↔
      WellFormedServer settings.inboundSet s := by
  rw [prepareServer_eq]
  constructor
  · intro h
    exact ⟨h.name, h.ip, h.subdomains, h.subdomains_nodup, h.inbounds, h.covered⟩
  · intro h
    exact ⟨h.name, h.ip, h.subdomains, h.subdomains_nodup, h.inbounds, h.covered⟩

theorem forall_prepared_iff {settings : CloudSettings} {p q : KetServer → Prop}
    (h : ∀ draw s, p (prepareServer F settings draw s) ↔ q s) (l : List KetServer) :
    (∀ s ∈ l.zipIdx.map fun (s, i) => prepareServer F settings (draws i) s, p s) ↔
      ∀ s ∈ l, q s := by
  conv_rhs => rw [← List.zipIdx_map_fst 0 l, List.forall_mem_map]
  simp only [List.forall_mem_map, h]

/-- What a field shared by the declared and the prepared server gives on all of them. -/
theorem map_prepared {α : Type} {settings : CloudSettings} {f : KetServer → α}
    (hf : ∀ draw s, f (prepareServer F settings draw s) = f s) (l : List KetServer) :
    (l.zipIdx.map fun (s, i) => prepareServer F settings (draws i) s).map f = l.map f := by
  rw [List.map_map]
  conv_rhs => rw [← List.zipIdx_map_fst 0 l, List.map_map]
  apply List.map_congr_left
  rintro ⟨s, i⟩ _
  exact hf _ s

theorem checkServers_prepared_iff (F : Forms) (draws : Nat → SecretDraw) :
    (∃ servers, checkServers t.settings ⟨[], [], []⟩
        (t.servers.zipIdx.map fun (s, i) => prepareServer F t.settings (draws i) s) =
          .ok servers) ↔
      (∀ s ∈ t.servers, WellFormedServer t.settings.inboundSet s) ∧
        (t.servers.map KetServer.name).Nodup ∧ (t.servers.map KetServer.domain).Nodup ∧
          (t.servers.map KetServer.ip).Nodup := by
  rw [checkServers_ok_iff, forall_prepared_iff fun _ _ => sound_prepareServer_iff,
    map_prepared fun draw s => by rw [prepareServer_eq],
    map_prepared fun draw s => by rw [prepareServer_eq],
    map_prepared fun draw s => by rw [prepareServer_eq], fresh_of_none, fresh_of_none,
    fresh_of_none]

theorem wellFormedSet_iff {inboundSet : List Inbound} :
    WellFormedSet inboundSet ↔ (!inboundSet.isEmpty) = true ∧
      ∃ r, checkInboundSet inboundSet [] [] = .ok r ∧
        (!r.1.contains SvcKind.superName) = true ∧ Fresh r.2 Constants.reservedPorts := by
  have hreserved : Constants.reservedPorts.Nodup := by decide
  constructor
  · intro h
    refine ⟨by simpa using h.nonempty, _, checkInboundSet_ok_iff.mpr
      ⟨h.proper, fresh_of_none.mpr h.names, fresh_of_none.mpr h.ports, rfl⟩, ?_, hreserved, ?_⟩
    · simpa using h.notSuper
    · simpa using h.unreserved
  · rintro ⟨hnonempty, r, hset, hsuper, hunreserved⟩
    obtain ⟨hproper, hnames, hports, rfl⟩ := checkInboundSet_ok_iff.mp hset
    exact
      { names := fresh_of_none.mp hnames
        notSuper := by simpa using hsuper
        ports := fresh_of_none.mp hports
        unreserved := by simpa using hunreserved.unseen
        nonempty := by simpa using hnonempty
        proper := hproper }

/-- The checks reject nothing but what is ill-formed, and let nothing ill-formed pass. -/
theorem exists_parseCloudConfig_iff :
    (∃ c, parseCloudConfig F draws t = .ok c) ↔ WellFormed t := by
  constructor
  · rintro ⟨c, h⟩
    simp only [parseCloudConfig, ensure_bind_eq_ok_iff] at h
    obtain ⟨hnonempty, h⟩ := h
    obtain ⟨r, hset, h⟩ := bind_eq_ok_iff.mp h
    simp only [ensure_bind_eq_ok_iff] at h
    obtain ⟨hsuper, h⟩ := h
    obtain ⟨_, hreserved, h⟩ := bind_eq_ok_iff.mp h
    obtain ⟨servers, hservers, _⟩ := bind_eq_ok_iff.mp h
    obtain ⟨hsound, hnames, hdomains, hips⟩ :=
      (checkServers_prepared_iff F draws).mp ⟨servers, hservers⟩
    refine ⟨?_, hsound, hnames, hdomains, hips⟩
    exact wellFormedSet_iff.mpr
      ⟨hnonempty, r, hset, hsuper, checkReservedPorts_ok_iff.mp hreserved⟩
  · intro h
    obtain ⟨hnonempty, r, hset, hsuper, hreserved⟩ := wellFormedSet_iff.mp h.inboundSet
    obtain ⟨servers, hservers⟩ := (checkServers_prepared_iff F draws).mpr
      ⟨h.servers, h.names, h.domains, h.ips⟩
    refine ⟨⟨servers, { t.settings with
      monitorInterval := max t.settings.monitorInterval Constants.minMonInterval }⟩, ?_⟩
    refine ensure_bind_eq_ok_iff.mpr ⟨hnonempty, bind_eq_ok_iff.mpr ⟨r, hset, ?_⟩⟩
    refine ensure_bind_eq_ok_iff.mpr ⟨hsuper, bind_eq_ok_iff.mpr ⟨(), ?_, ?_⟩⟩
    · exact checkReservedPorts_ok_iff.mpr hreserved
    · exact bind_eq_ok_iff.mpr ⟨servers, hservers, rfl⟩

theorem completed_withSuper {settings : CloudSettings} {draw : SecretDraw}
    (hsubids : (withSuper (prepareServer F settings draw s)).HasSubids)
    (hnodup : (withSuper (prepareServer F settings draw s)).inboundNames.Nodup) :
    Completed settings.inboundSet s (withSuper (prepareServer F settings draw s)) where
  same := by
    rw [prepareServer_eq]
    rfl
  inbounds := by
    rw [prepareServer_eq]
    rfl
  oneSuper := by
    apply List.count_eq_one_of_mem hnodup
    simp [withSuper, KetServer.inboundNames]
  subids := hsubids

theorem forall₂_completed (h : parseCloudConfig F draws t = .ok c) :
    List.Forall₂ (Completed t.settings.inboundSet) t.servers c.servers := by
  have hsubids := parseCloudConfig_hasSubids h
  have hnodup := fun s hs => parseCloudConfig_inboundNames h (s := s) hs
  rw [Cloud.HasSubids, parseCloudConfig_servers h] at hsubids
  rw [parseCloudConfig_servers h] at hnodup ⊢
  conv => arg 2; rw [← List.zipIdx_map_fst 0 t.servers]
  rw [List.forall₂_map_left_iff, List.forall₂_map_right_iff, List.forall₂_same]
  intro p hp
  have hmem := List.mem_map_of_mem (f := fun p =>
    withSuper (prepareServer F t.settings (draws p.2) p.1)) hp
  exact completed_withSuper (hsubids _ hmem) (hnodup _ hmem)

/-- A server of an accepted configuration passed the checks before the super inbound joined
it. -/
theorem sound_of_parse (h : parseCloudConfig F draws t = .ok c) (hs : s ∈ c.servers) :
    ∃ p, s = withSuper p ∧ Sound t.settings p := by
  obtain ⟨d, hd, draw, rfl⟩ := mem_parseCloudConfig h hs
  have hwell := exists_parseCloudConfig_iff.mp ⟨c, h⟩
  exact ⟨_, rfl, sound_prepareServer_iff.mpr (hwell.servers d hd)⟩

/-- The super inbound follows at least one other. -/
theorem inbounds_of_parse (h : parseCloudConfig F draws t = .ok c) (hs : s ∈ c.servers) :
    ∃ l, l ≠ [] ∧ SvcKind.superName ∉ l.map Inbound.name ∧
      s.inbounds = l ++ [Inbound.superInbound] := by
  obtain ⟨d, hd, draw, rfl⟩ := mem_parseCloudConfig h hs
  have hwell := exists_parseCloudConfig_iff.mp ⟨c, h⟩
  refine ⟨inboundsOf t.settings.inboundSet d, ?_, (hwell.servers d hd).inbounds.notSuper, ?_⟩
  · rw [inboundsOf]
    split
    · exact hwell.inboundSet.nonempty
    · rename_i hdeclared
      simpa using hdeclared
  · rw [prepareServer_eq]
    rfl

theorem le_monitorInterval (h : parseCloudConfig F draws t = .ok c) :
    Constants.minMonInterval ≤ c.settings.monitorInterval := by
  rw [parseCloudConfig_settings h]
  show Constants.minMonInterval ≤
    if t.settings.monitorInterval ≤ Constants.minMonInterval then Constants.minMonInterval
    else t.settings.monitorInterval
  split
  · exact UInt64.le_refl _
  · rename_i hle
    exact UInt64.le_of_lt (UInt64.not_le.mp hle)

/-- The parser accepts exactly the well-formed configurations, and makes of one the same
servers, completed, and the same settings but for the raised interval. -/
theorem accepts_exactly_wellFormed (F : Forms) (draws : Nat → SecretDraw) (t : TCloud) :
    ((∃ c, parseCloudConfig F draws t = .ok c) ↔ WellFormed t) ∧
      ∀ c, parseCloudConfig F draws t = .ok c →
        List.Forall₂ (Completed t.settings.inboundSet) t.servers c.servers ∧
          c.settings = { t.settings with monitorInterval := c.settings.monitorInterval } ∧
            Constants.minMonInterval ≤ c.settings.monitorInterval := by
  refine ⟨exists_parseCloudConfig_iff, ?_⟩
  intro c h
  refine ⟨forall₂_completed h, ?_, le_monitorInterval h⟩
  rw [parseCloudConfig_settings h]

end Accepted

section Instances

open Xcplane.Specimen

/-- A server that declares no inbounds has those of the inbound-set. -/
theorem accepts_exactly_wellFormed_inheriting :
    ∃ c, parseCloudConfig forms draws (declared [{ alpha with inbounds := [] }]) = .ok c ∧
      List.Forall₂ (Completed settings.inboundSet) [{ alpha with inbounds := [] }] c.servers := by
  obtain ⟨c, hc⟩ : ∃ c, parseCloudConfig forms draws
      (declared [{ alpha with inbounds := [] }]) = .ok c := ⟨_, rfl⟩
  exact ⟨c, hc, ((accepts_exactly_wellFormed forms draws _).2 c hc).1⟩

end Instances

end Xcplane.WellFormedConfig
