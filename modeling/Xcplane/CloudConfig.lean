import Xcplane.Naming
import Xcplane.Server
import Xcplane.Lib.Fresh
import Xcplane.Lib.Result

/-!
Building the cloud from the deserialized configuration: the checks of
`parse_cloud_config` in their order, and what a cloud it accepts is known to
satisfy.
-/

namespace Xcplane.CloudConfig

open Xcplane.Types
open Xcplane.Server
open Xcplane.Lib
open Xcplane.Naming (isProper isProperSubdomain slug)

section Addresses

def isGlobalV4 (bits : BitVec 32) : Bool :=
  let a := bits.toNat / 2 ^ 24
  let b := bits.toNat / 2 ^ 16 % 256
  let isPrivate := a == 10 || (a == 172 && 16 ≤ b && b ≤ 31) || (a == 192 && b == 168)
  let isLoopback := a == 127
  let isLinkLocal := a == 169 && b == 254
  let isMulticast := 224 ≤ a && a ≤ 239
  let isUnspecified := bits.toNat == 0
  let isBroadcast := bits.toNat == 2 ^ 32 - 1
  if isPrivate || isLoopback || isLinkLocal || isMulticast || isUnspecified || isBroadcast then
    false
  -- CGNAT: 100.64.0.0/10
  else if a == 100 && 64 ≤ b && b ≤ 127 then false
  -- Documentation: 192.0.2.0/24, 198.51.100.0/24, 203.0.113.0/24
  else if (a == 192 && b == 0) || (a == 198 && b == 51) || (a == 203 && b == 0) then false
  -- Benchmarking: 198.18.0.0/15
  else if a == 198 && 18 ≤ b && b ≤ 19 then false
  -- Reserved: 240.0.0.0/4
  else if 240 ≤ a then false
  else true

def segment (bits : BitVec 128) (i : Nat) : Nat :=
  bits.toNat / 2 ^ (16 * (7 - i)) % 2 ^ 16

def isGlobalV6 (bits : BitVec 128) : Bool :=
  let s0 := segment bits 0
  let s1 := segment bits 1
  let s2 := segment bits 2
  let isUnspecified := bits.toNat == 0
  let isLoopback := bits.toNat == 1
  let isUnicastLinkLocal := s0 &&& 0xffc0 == 0xfe80
  let isMulticast := s0 &&& 0xff00 == 0xff00
  let isUniqueLocal := s0 &&& 0xfe00 == 0xfc00
  if isUnspecified || isLoopback || isUnicastLinkLocal || isMulticast || isUniqueLocal then
    false
  -- 2001:2::/48 (Benchmarking), 2001:10::/28 (ORCHID), 2001::/32 (Teredo)
  else if s0 == 0x2001 && s1 == 0x0002 then false
  else if s0 == 0x2001 && 0x0010 ≤ s1 && s1 ≤ 0x001f then false
  else if s0 == 0x2001 && s1 == 0x0000 && s2 == 0x0000 then false
  -- Documentation
  else if (s0 == 0x2001 && s1 == 0x0db8) || (s0 == 0x3fff && s1 &&& 0xf000 == 0) then false
  else s0 &&& 0xe000 == 0x2000

def isGlobal : IpAddr → Bool
  | .v4 bits => isGlobalV4 bits
  | .v6 bits => isGlobalV6 bits

end Addresses

/-- The configuration after deserialization, the defaults of absent fields
filled in. -/
structure TCloud where
  servers : List KetServer
  settings : CloudSettings

def checkInboundSet : List Inbound → List String → List UInt16 →
    Except BoxError (List String × List UInt16)
  | [], names, ports => .ok (names, ports)
  | inb :: rest, names, ports => do
      ensure (isProper inb.name)
        ("[ Cloud Config ] The inbound-set name '" ++ inb.name ++
          "' is not a proper name. A valid name can be '" ++ slug inb.name ++ "'")
      ensure (!names.contains inb.name)
        "[ Cloud Config ] The cloud inbound-set names are not unique."
      ensure (!ports.contains inb.port)
        "[ Cloud Config ] The cloud inbound-set ports are not unique."
      checkInboundSet rest (inb.name :: names) (inb.port :: ports)

def checkReservedPorts (message : UInt16 → BoxError) : List UInt16 → List UInt16 →
    Except BoxError Unit
  | [], _ => .ok ()
  | port :: rest, ports => do
      ensure (!ports.contains port) (message port)
      checkReservedPorts message rest (port :: ports)

def checkSubdomains (server : String) : List String → List String → Except BoxError Unit
  | [], _ => .ok ()
  | sd :: rest, seen => do
      ensure (isProperSubdomain sd)
        ("'" ++ sd ++ "' is not a proper subdomain. A subdomain must be lowercase and " ++
          "start and end with an ASCII alphanumeric character, and only hyphen is " ++
          "allowed in the middle.")
      ensure (!seen.contains sd)
        ("'" ++ sd ++ "' is not a unique subdomain in server '" ++ server ++ "'.")
      checkSubdomains server rest (sd :: seen)

def checkServerInbounds (server : String) : List Inbound → List String → List UInt16 →
    Except BoxError (List UInt16)
  | [], _, ports => .ok ports
  | inb :: rest, names, ports => do
      ensure (!names.contains inb.name)
        ("[ Cloud Config ] The inbound names for the server '" ++ server ++
          "' are not unique, or one is named '" ++ SvcKind.superName ++
          "' which is a reserved keyword.")
      ensure (!ports.contains inb.port)
        ("[ Cloud Config ] The inbound ports for the server '" ++ server ++
          "' are not unique.")
      checkServerInbounds server rest (inb.name :: names) (inb.port :: ports)

structure Seen where
  names : List String
  domains : List Host
  ips : List IpAddr

def Seen.insert (seen : Seen) (s : KetServer) : Seen where
  names := s.name :: seen.names
  domains := s.domain :: seen.domains
  ips := s.ip :: seen.ips

/-- What is set on a server before it is checked: its connection, its inbounds
when it declares none, and its secrets. -/
def prepareServer (F : Forms) (settings : CloudSettings) (draw : SecretDraw)
    (s : KetServer) : KetServer :=
  let s := buildInventory F s
  let s := if s.inbounds.isEmpty then { s with inbounds := settings.inboundSet } else s
  fillSecrets F draw s

def checkServer (settings : CloudSettings) (seen : Seen) (s : KetServer) :
    Except BoxError Unit := do
  ensure (isProper s.name)
    ("[ Cloud Config ] The server name '" ++ s.name ++
      "' is not a proper name. A valid name can be '" ++ slug s.name ++ "'")
  ensure (!seen.names.contains s.name) "[ Cloud Config ] Server names are not unique."
  ensure (!seen.domains.contains s.domain) "[ Cloud Config ] Domain names are not unique."
  ensure (isGlobal s.ip) ("[ Cloud Config ] Server " ++ s.name ++ " has a non-global IP.")
  ensure (!seen.ips.contains s.ip) "[ Cloud Config ] Servers IPs are not unique."
  checkSubdomains s.name [s.subSubdomain, s.uiSubdomain, s.dnsSubdomain] []
  if s.inbounds.isEmpty then .ok ()
  else do
    let ports ← checkServerInbounds s.name s.inbounds [SvcKind.superName] []
    checkReservedPorts
      (fun port => "[ Cloud Config ] Server '" ++ s.name ++ "' cannot use " ++
        toString port ++ " as an inbound port because it is a reserved port and should " ++
        "not be duplicated or used anywhere else.")
      Constants.reservedPorts ports
    ensure (s.inbounds.all fun inb =>
        settings.inboundSet.any fun set => set.name == inb.name && set.port == inb.port)
      ("[ Cloud Config ] The inbounds of server '" ++ s.name ++
        "' must be a sub-group of the cloud inbound-set.")

def withSuper (s : KetServer) : KetServer :=
  { s with inbounds := s.inbounds ++ [Inbound.superInbound] }

/-- The pass over the servers. The super inbound joins a server once it passed
every check. -/
def checkServers (settings : CloudSettings) : Seen → List KetServer →
    Except BoxError (List KetServer)
  | _, [] => .ok []
  | seen, s :: rest => do
      checkServer settings seen s
      let servers ← checkServers settings (seen.insert s) rest
      .ok (withSuper s :: servers)

/-- Builds the cloud from the deserialized configuration, with the secrets drawn
for the servers in their order. -/
def parseCloudConfig (F : Forms) (draws : Nat → SecretDraw) (t : TCloud) :
    Except BoxError Cloud := do
  ensure (!t.settings.inboundSet.isEmpty)
    "[ Cloud Config ] The cloud inbound-set cannot be empty."
  let (names, ports) ← checkInboundSet t.settings.inboundSet [] []
  ensure (!names.contains SvcKind.superName)
    ("[ Cloud Config ] The cloud inbound-set names have '" ++ SvcKind.superName ++
      "' which is a reserved keyword.")
  checkReservedPorts
    (fun port => "[ Cloud Config ] " ++ toString port ++ " is a reserved port and should " ++
      "not be duplicated or used for the cloud inbound-set ports.")
    Constants.reservedPorts ports
  let prepared := t.servers.zipIdx.map fun (s, i) =>
    prepareServer F t.settings (draws i) s
  let servers ← checkServers t.settings ⟨[], [], []⟩ prepared
  .ok
    { servers
      settings :=
        { t.settings with
          monitorInterval := max t.settings.monitorInterval Constants.minMonInterval } }

section Guarantees

structure AcceptedServer (seen : Seen) (s : KetServer) : Prop where
  name : s.name ∉ seen.names
  domain : s.domain ∉ seen.domains
  ip : s.ip ∉ seen.ips
  inbounds : (SvcKind.superName :: s.inboundNames).Nodup

theorem checkServerInbounds_ok_iff {server : String} {inbounds : List Inbound}
    {names : List String} {ports ports' : List UInt16} :
    checkServerInbounds server inbounds names ports = .ok ports' ↔
      Fresh names (inbounds.map Inbound.name) ∧ Fresh ports (inbounds.map Inbound.port) ∧
        ports' = (inbounds.map Inbound.port).reverse ++ ports := by
  induction inbounds generalizing names ports with
  | nil =>
      rw [checkServerInbounds]
      constructor
      · intro h
        exact ⟨fresh_nil, fresh_nil, (Except.ok.inj h).symm⟩
      · rintro ⟨_, _, rfl⟩
        rfl
  | cons inb rest ih =>
      rw [checkServerInbounds, ensure_bind_eq_ok_iff, ensure_bind_eq_ok_iff, ih]
      simp only [List.map_cons, fresh_cons, List.reverse_cons, List.append_assoc,
        List.singleton_append, Bool.not_eq_true', List.contains_eq_mem, decide_eq_false_iff_not]
      tauto

theorem checkServer_ok {settings : CloudSettings} {seen : Seen} {s : KetServer}
    (h : checkServer settings seen s = .ok ()) : AcceptedServer seen s := by
  simp only [checkServer, ensure_bind_eq_ok_iff] at h
  obtain ⟨_, hname, hdomain, _, hip, h⟩ := h
  obtain ⟨_, _, h⟩ := bind_eq_ok_iff.mp h
  refine ⟨by simpa using hname, by simpa using hdomain, by simpa using hip, ?_⟩
  split at h
  · rename_i hempty
    simp [KetServer.inboundNames, List.isEmpty_iff.mp hempty]
  · obtain ⟨ports, hports, _⟩ := bind_eq_ok_iff.mp h
    obtain ⟨hnames, _, _⟩ := checkServerInbounds_ok_iff.mp hports
    refine List.nodup_cons.mpr ⟨?_, hnames.nodup⟩
    intro hsuper
    exact hnames.unseen _ hsuper List.mem_cons_self

theorem checkServers_ok {settings : CloudSettings} {seen : Seen} {l servers : List KetServer}
    (h : checkServers settings seen l = .ok servers) :
    servers = l.map withSuper ∧
      (∀ s ∈ l, (SvcKind.superName :: s.inboundNames).Nodup) ∧
      Fresh seen.names (l.map KetServer.name) ∧ Fresh seen.domains (l.map KetServer.domain) ∧
      Fresh seen.ips (l.map KetServer.ip) := by
  induction l generalizing seen servers with
  | nil =>
      rw [checkServers] at h
      cases h
      exact ⟨rfl, by simp, fresh_nil, fresh_nil, fresh_nil⟩
  | cons s rest ih =>
      rw [checkServers] at h
      obtain ⟨_, hs, h⟩ := bind_eq_ok_iff.mp h
      obtain ⟨servers', hrest, h⟩ := bind_eq_ok_iff.mp h
      cases h
      obtain ⟨rfl, hinbounds, hnames, hdomains, hips⟩ := ih hrest
      have hhead := checkServer_ok hs
      refine ⟨rfl, List.forall_mem_cons.mpr ⟨hhead.inbounds, hinbounds⟩, ?_, ?_, ?_⟩
      · exact fresh_cons.mpr ⟨hhead.name, hnames⟩
      · exact fresh_cons.mpr ⟨hhead.domain, hdomains⟩
      · exact fresh_cons.mpr ⟨hhead.ip, hips⟩

variable {F : Forms} {draws : Nat → SecretDraw} {t : TCloud} {c : Cloud}

/-- An accepted configuration gives the prepared servers, each with the super
inbound appended, and the declared settings with the interval raised to its least
value. -/
theorem parseCloudConfig_ok (h : parseCloudConfig F draws t = .ok c) :
    ∃ prepared : List KetServer,
      prepared = (t.servers.zipIdx.map fun (s, i) =>
        prepareServer F t.settings (draws i) s) ∧
      checkServers t.settings ⟨[], [], []⟩ prepared = .ok c.servers ∧
      c.settings =
        { t.settings with
          monitorInterval := max t.settings.monitorInterval Constants.minMonInterval } := by
  simp only [parseCloudConfig, ensure_bind_eq_ok_iff] at h
  obtain ⟨_, h⟩ := h
  obtain ⟨⟨names, ports⟩, _, h⟩ := bind_eq_ok_iff.mp h
  simp only [ensure_bind_eq_ok_iff] at h
  obtain ⟨_, h⟩ := h
  obtain ⟨_, _, h⟩ := bind_eq_ok_iff.mp h
  obtain ⟨servers, hservers, h⟩ := bind_eq_ok_iff.mp h
  cases h
  exact ⟨_, rfl, hservers, rfl⟩

theorem parseCloudConfig_servers (h : parseCloudConfig F draws t = .ok c) :
    c.servers = t.servers.zipIdx.map fun p =>
      withSuper (prepareServer F t.settings (draws p.2) p.1) := by
  obtain ⟨prepared, hprepared, hservers, _⟩ := parseCloudConfig_ok h
  rw [(checkServers_ok hservers).1, hprepared, List.map_map]
  rfl

theorem parseCloudConfig_settings (h : parseCloudConfig F draws t = .ok c) :
    c.settings =
      { t.settings with
        monitorInterval := max t.settings.monitorInterval Constants.minMonInterval } := by
  obtain ⟨_, _, _, hsettings⟩ := parseCloudConfig_ok h
  exact hsettings

/-- A server of an accepted configuration is a declared one, prepared and with the
super inbound. -/
theorem mem_parseCloudConfig (h : parseCloudConfig F draws t = .ok c) {s : KetServer}
    (hs : s ∈ c.servers) :
    ∃ p ∈ t.servers, ∃ draw, s = withSuper (prepareServer F t.settings draw p) := by
  rw [parseCloudConfig_servers h] at hs
  obtain ⟨⟨p, i⟩, hp, rfl⟩ := List.mem_map.mp hs
  exact ⟨p, List.fst_mem_of_mem_zipIdx hp, draws i, rfl⟩

theorem parseCloudConfig_distinct (h : parseCloudConfig F draws t = .ok c) : c.Distinct := by
  obtain ⟨prepared, _, hservers, _⟩ := parseCloudConfig_ok h
  obtain ⟨hc, _, hnames, hdomains, hips⟩ := checkServers_ok hservers
  refine ⟨?_, ?_, ?_⟩
  · rw [Cloud.names, hc, List.map_map]
    exact hnames.nodup
  · rw [hc, List.map_map]
    exact hdomains.nodup
  · rw [hc, List.map_map]
    exact hips.nodup

/-- The inbound names of a server of an accepted configuration are distinct, the
super inbound included. -/
theorem parseCloudConfig_inboundNames (h : parseCloudConfig F draws t = .ok c)
    {s : KetServer} (hs : s ∈ c.servers) : s.inboundNames.Nodup := by
  obtain ⟨prepared, _, hservers, _⟩ := parseCloudConfig_ok h
  obtain ⟨hc, hinbounds, _⟩ := checkServers_ok hservers
  rw [hc] at hs
  obtain ⟨p, hp, rfl⟩ := List.mem_map.mp hs
  have hnodup := hinbounds p hp
  have hnames : (withSuper p).inboundNames = p.inboundNames ++ [SvcKind.superName] := by
    simp [withSuper, KetServer.inboundNames]
  rw [hnames]
  exact (List.perm_append_singleton _ _).nodup_iff.mpr hnodup

theorem parseCloudConfig_hasSubids (h : parseCloudConfig F draws t = .ok c) : c.HasSubids := by
  intro s hs inb hinb
  obtain ⟨p, _, draw, rfl⟩ := mem_parseCloudConfig h hs
  have hinb' : inb.name = SvcKind.superName ∨
      inb.name ∈ (prepareServer F t.settings draw p).inbounds.map Inbound.name := by
    rcases List.mem_append.mp hinb with hinb | hinb
    · exact .inr (List.mem_map_of_mem hinb)
    · rw [List.mem_singleton] at hinb
      exact .inl (hinb ▸ rfl)
  exact (motherSubidsGen_isSome _ _ _).mpr hinb'

end Guarantees

end Xcplane.CloudConfig
