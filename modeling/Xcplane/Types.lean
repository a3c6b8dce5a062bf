import Mathlib.Data.List.Nodup

/-!
The data model of the control plane: servers, their secrets, the cloud and its
settings, as the daemon passes them around.
-/

namespace Xcplane.Types

abbrev BoxError := String

/-- `std::net::IpAddr`, as its bits in network order. -/
inductive IpAddr
  | v4 (bits : BitVec 32)
  | v6 (bits : BitVec 128)
  deriving DecidableEq, Repr

/-- `url::Host`. -/
inductive Host
  | domain (name : String)
  | ipv4 (bits : BitVec 32)
  | ipv6 (bits : BitVec 128)
  deriving DecidableEq, Repr

/-- `isocountry::CountryCode`, by the numeric code of the country. -/
structure CountryCode where
  numeric : Nat
  deriving DecidableEq, Repr

inductive ServerState
  | Offgrid
  | Production
  deriving DecidableEq, Repr

inductive InboundKind
  | VlessXhttpReality
  | VlessTcpReality
  | VlessXhttpTls
  | VlessWsTls
  | VlessGrpcTls
  deriving DecidableEq, Repr

/-- An Xray inbound. Once created on a server it is immutable. -/
structure Inbound where
  name : String
  port : UInt16
  kind : InboundKind
  total : UInt16
  traffic : UInt32
  expiry : UInt16
  comment : String
  deriving DecidableEq, Repr

/-- The secrets of a server. `motherSubids` is a hash map from inbound names to
subscription IDs, kept as an association list whose first binding counts. -/
structure Secrets where
  healthPath : String
  dohEndpoint : String
  xuiUsername : String
  xuiPassword : String
  xuiToken : Option String
  xuiWebpath : String
  xuiSubpath : String
  xuiJsubpath : String
  motherSubids : List (String × String)
  deriving DecidableEq, Repr

structure AnsibleConn where
  ansibleHost : Option String
  ansiblePort : Option UInt16
  ansibleUser : Option String
  ansibleConnection : Option String
  deriving DecidableEq, Repr

structure CFListData where
  accountName : String
  accountId : String
  rulesetId : String
  ruleId : String
  listId : String
  deriving DecidableEq, Repr

structure CFState where
  zoneName : String
  zoneId : String
  tooDeep : Bool
  cloudflareOnly : Bool
  listData : Option CFListData
  deriving DecidableEq, Repr

/-- A server of the cloud. The panel client and its login mutex are left out:
nothing modelled here reads them. -/
structure KetServer where
  name : String
  ip : IpAddr
  domain : Host
  region : CountryCode
  state : ServerState
  quota : UInt16
  enabled : Bool
  sshPort : UInt16
  dnsSubdomain : String
  uiSubdomain : String
  subSubdomain : String
  cloudflareProxied : Bool
  inbounds : List Inbound
  outboundBlock : List CountryCode
  ansibleConn : Option AnsibleConn
  secrets : Secrets
  cfstate : Option CFState
  deriving DecidableEq, Repr

structure CloudSettings where
  inboundSet : List Inbound
  autoFix : Bool
  fixThreshold : UInt64
  monitorInterval : UInt64
  deriving DecidableEq, Repr

structure Cloud where
  servers : List KetServer
  settings : CloudSettings
  deriving DecidableEq, Repr

/-- The text forms and digests that come from other crates. -/
structure Forms where
  ipText : IpAddr → String
  ipParse : String → Option IpAddr
  hostText : Host → String
  hostParse : String → Option Host
  alpha2 : CountryCode → String
  forAlpha2 : String → Option CountryCode
  countriesJson : List CountryCode → String
  countriesOfJson : String → Option (List CountryCode)
  inboundsJson : List Inbound → String
  inboundsOfJson : String → Option (List Inbound)
  sha256Hex : String → String

/-- The text forms of what the server holds parse back. -/
structure Forms.RoundTripsOn (F : Forms) (s : KetServer) : Prop where
  ip : F.ipParse (F.ipText s.ip) = some s.ip
  domain : F.hostParse (F.hostText s.domain) = some s.domain
  region : F.forAlpha2 (F.alpha2 s.region) = some s.region
  outboundBlock : F.countriesOfJson (F.countriesJson s.outboundBlock) = some s.outboundBlock

structure Forms.RoundTrips (F : Forms) (c : Cloud) : Prop where
  servers : ∀ s ∈ c.servers, F.RoundTripsOn s
  inboundSet : F.inboundsOfJson (F.inboundsJson c.settings.inboundSet) =
    some c.settings.inboundSet

section RoundTripsOn

variable {F : Forms} {s t : KetServer}

theorem Forms.RoundTripsOn.ipText_eq_iff (hs : F.RoundTripsOn s) (ht : F.RoundTripsOn t) :
    F.ipText s.ip = F.ipText t.ip ↔ s.ip = t.ip := by
  constructor
  · intro h
    have hparse := congrArg F.ipParse h
    rw [hs.ip, ht.ip] at hparse
    exact Option.some.inj hparse
  · exact congrArg F.ipText

theorem Forms.RoundTripsOn.hostText_eq_iff (hs : F.RoundTripsOn s) (ht : F.RoundTripsOn t) :
    F.hostText s.domain = F.hostText t.domain ↔ s.domain = t.domain := by
  constructor
  · intro h
    have hparse := congrArg F.hostParse h
    rw [hs.domain, ht.domain] at hparse
    exact Option.some.inj hparse
  · exact congrArg F.hostText

theorem Forms.RoundTripsOn.congr (h : F.RoundTripsOn s) (hip : t.ip = s.ip)
    (hdomain : t.domain = s.domain) (hregion : t.region = s.region)
    (hblock : t.outboundBlock = s.outboundBlock) : F.RoundTripsOn t where
  ip := by rw [hip, h.ip]
  domain := by rw [hdomain, h.domain]
  region := by rw [hregion, h.region]
  outboundBlock := by rw [hblock, h.outboundBlock]

end RoundTripsOn

namespace ServerState

def toText : ServerState → String
  | .Offgrid => "Offgrid"
  | .Production => "Production"

def ofText (s : String) : Option ServerState :=
  if s = "Offgrid" then some .Offgrid
  else if s = "Production" then some .Production
  else none

@[simp] theorem ofText_toText (s : ServerState) : ofText s.toText = some s := by
  cases s <;> rfl

theorem eq_toText_of_ofText {text : String} {s : ServerState} (h : ofText text = some s) :
    text = s.toText := by
  unfold ofText at h
  split at h
  · cases h
    assumption
  · split at h
    · cases h
      assumption
    · cases h

end ServerState

namespace InboundKind

def toText : InboundKind → String
  | .VlessXhttpReality => "VlessXhttpReality"
  | .VlessTcpReality => "VlessTcpReality"
  | .VlessXhttpTls => "VlessXhttpTls"
  | .VlessWsTls => "VlessWsTls"
  | .VlessGrpcTls => "VlessGrpcTls"

def ofText (s : String) : Option InboundKind :=
  if s = "VlessXhttpReality" then some .VlessXhttpReality
  else if s = "VlessTcpReality" then some .VlessTcpReality
  else if s = "VlessXhttpTls" then some .VlessXhttpTls
  else if s = "VlessWsTls" then some .VlessWsTls
  else if s = "VlessGrpcTls" then some .VlessGrpcTls
  else none

@[simp] theorem ofText_toText (k : InboundKind) : ofText k.toText = some k := by
  cases k <;> rfl

def cloudflareCompatible : InboundKind → Bool
  | .VlessXhttpReality => false
  | .VlessTcpReality => false
  | .VlessXhttpTls => true
  | .VlessWsTls => true
  | .VlessGrpcTls => true

end InboundKind

inductive SvcKind
  | Ssh
  | Nginx
  | Xray (inbound : String)
  deriving DecidableEq, Repr

namespace SvcKind

def superName : String := "super"

def superXray : SvcKind := .Xray superName

def toText : SvcKind → String
  | .Ssh => "ssh"
  | .Nginx => "nginx"
  | .Xray inb => "xray_" ++ inb

end SvcKind

def Inbound.superInbound : Inbound where
  name := SvcKind.superName
  port := 0
  kind := .VlessTcpReality
  total := 0
  traffic := 0
  expiry := 0
  comment := "The super inbound"

@[simp] theorem Inbound.superInbound_name :
    Inbound.superInbound.name = SvcKind.superName := rfl

/-- `HashMap::get` on the mother sub-IDs. -/
def Secrets.motherSubid (s : Secrets) (inbound : String) : Option String :=
  s.motherSubids.lookup inbound

namespace KetServer

def inboundNames (s : KetServer) : List String :=
  s.inbounds.map Inbound.name

def HasSubids (s : KetServer) : Prop :=
  ∀ inb ∈ s.inbounds, (s.secrets.motherSubid inb.name).isSome = true

end KetServer

namespace Cloud

def names (c : Cloud) : List String :=
  c.servers.map KetServer.name

structure Distinct (c : Cloud) : Prop where
  names : c.names.Nodup
  domains : (c.servers.map KetServer.domain).Nodup
  ips : (c.servers.map KetServer.ip).Nodup

def HasSubids (c : Cloud) : Prop :=
  ∀ s ∈ c.servers, s.HasSubids

/-- The server of that name that a `HashMap` collected from the server list
holds: a later entry replaces an earlier one. -/
def collected (c : Cloud) (name : String) : Option KetServer :=
  c.servers.reverse.find? (fun s => s.name == name)

/-- The server of that name that a `HashMap` filled through
`entry(..).or_insert(..)` holds: the first entry stays. -/
def firstOf (c : Cloud) (name : String) : Option KetServer :=
  c.servers.find? (fun s => s.name == name)

theorem firstOf_eq_some {c : Cloud} {name : String} {s : KetServer}
    (h : c.firstOf name = some s) : s ∈ c.servers ∧ s.name = name :=
  ⟨List.mem_of_find?_eq_some h, by simpa using List.find?_some h⟩

theorem firstOf_isSome_iff {c : Cloud} {name : String} :
    (c.firstOf name).isSome = true ↔ name ∈ c.names := by
  simp [firstOf, names]

theorem collected_eq_some {c : Cloud} {name : String} {s : KetServer}
    (h : c.collected name = some s) : s ∈ c.servers ∧ s.name = name :=
  ⟨by simpa using List.mem_of_find?_eq_some h, by simpa using List.find?_some h⟩

theorem collected_isSome_iff {c : Cloud} {name : String} :
    (c.collected name).isSome = true ↔ name ∈ c.names := by
  simp [collected, names]

theorem mem_names_of_firstOf {c : Cloud} {name : String} {s : KetServer}
    (h : c.firstOf name = some s) : name ∈ c.names :=
  firstOf_isSome_iff.mp (by rw [h]; rfl)

theorem exists_firstOf {c : Cloud} {name : String} (h : name ∈ c.names) :
    ∃ s, c.firstOf name = some s :=
  Option.isSome_iff_exists.mp (firstOf_isSome_iff.mpr h)

theorem exists_collected {c : Cloud} {name : String} (h : name ∈ c.names) :
    ∃ s, c.collected name = some s :=
  Option.isSome_iff_exists.mp (collected_isSome_iff.mpr h)

theorem mem_names {c : Cloud} {s : KetServer} (h : s ∈ c.servers) : s.name ∈ c.names :=
  List.mem_map_of_mem h

theorem collected_of_mem {c : Cloud} (hnames : c.names.Nodup) {s : KetServer}
    (hs : s ∈ c.servers) : c.collected s.name = some s := by
  obtain ⟨t, ht⟩ := exists_collected (mem_names hs)
  obtain ⟨htmem, htname⟩ := collected_eq_some ht
  rw [ht, List.inj_on_of_nodup_map hnames htmem hs htname]

end Cloud

end Xcplane.Types
