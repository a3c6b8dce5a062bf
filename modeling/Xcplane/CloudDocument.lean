import Xcplane.CloudConfig
import Xcplane.Lib.Document
import Xcplane.Lib.Lowercase

/-!
The cloud as a document: how it is serialized, and how a config file is deserialized with
the defaults of its fields.
-/

namespace Xcplane.CloudDocument

open Xcplane.Types
open Xcplane.Lib
open Xcplane.Lib.Document
open Xcplane.Lib.Utf8
open Xcplane.CloudConfig

section Serializing

variable (F : Forms)

def inboundTable (inb : Inbound) : Table :=
  [("name", .string inb.name), ("port", .integer inb.port.toNat),
    ("kind", .string inb.kind.toText), ("total", .integer inb.total.toNat),
    ("traffic", .integer inb.traffic.toNat), ("expiry", .integer inb.expiry.toNat),
    ("comment", .string inb.comment)]

/-- The tables of a server come after its values. -/
def serverTable (s : KetServer) : Table :=
  [("name", .string s.name), ("ip", .string (F.ipText s.ip)),
    ("domain", .string (F.hostText s.domain)), ("region", .string (F.alpha2 s.region)),
    ("state", .string s.state.toText), ("quota", .integer s.quota.toNat),
    ("enabled", .boolean s.enabled), ("ssh-port", .integer s.sshPort.toNat),
    ("dns-subdomain", .string s.dnsSubdomain), ("ui-subdomain", .string s.uiSubdomain),
    ("sub-subdomain", .string s.subSubdomain),
    ("cloudflare-proxied", .boolean s.cloudflareProxied),
    ("outbound-block", .array (s.outboundBlock.map fun c => .string (F.alpha2 c))),
    ("inbounds", .ofTables (s.inbounds.map inboundTable))]

def settingsTable (settings : CloudSettings) : Table :=
  [("auto-fix", .boolean settings.autoFix),
    ("fix-threshold", .integer settings.fixThreshold.toNat),
    ("monitor-interval", .integer settings.monitorInterval.toNat),
    ("inbound-set", .ofTables (settings.inboundSet.map inboundTable))]

def cloudTable (c : Cloud) : Table :=
  [("servers", .ofTables (c.servers.map (serverTable F))),
    ("settings", .table (settingsTable c.settings))]

end Serializing

section Deserializing

variable (F : Forms) (L : CaseTables)

def readKind (item : Item) : Except BoxError InboundKind := do
  let text ← item.toStr
  okOr (InboundKind.ofText text) ("unknown variant '" ++ text ++ "'")

def decodeInbound (t : Table) : Except BoxError Inbound := do
  let name ← field t "name" Item.toStr
  let port ← field t "port" (Item.toUnsigned (2 ^ 16))
  let kind ← fieldOr t "kind" readKind .VlessXhttpReality
  let total ← field t "total" (Item.toUnsigned (2 ^ 16))
  let traffic ← fieldOr t "traffic" (Item.toUnsigned (2 ^ 32)) 0
  let expiry ← fieldOr t "expiry" (Item.toUnsigned (2 ^ 16)) 0
  let comment ← fieldOr t "comment" Item.toStr ""
  .ok
    { name
      port := .ofNat port
      kind
      total := .ofNat total
      traffic := .ofNat traffic
      expiry := .ofNat expiry
      comment }

def readInbounds : Item → Except BoxError (List Inbound) :=
  Item.toList fun item => item.toTable >>= decodeInbound

def readIp (item : Item) : Except BoxError IpAddr := do
  let text ← item.toStr
  okOr (F.ipParse text) "invalid IP address syntax"

def readHost (item : Item) : Except BoxError Host := do
  let text ← item.toStr
  okOr (F.hostParse text) "invalid domain"

def readCountry (item : Item) : Except BoxError CountryCode := do
  let text ← item.toStr
  okOr (F.forAlpha2 text) "invalid country code"

def stateOfLowercase (s : List Char) : Except BoxError ServerState :=
  if s = "production".toList then .ok .Production
  else if s = "offgrid".toList then .ok .Offgrid
  else .error ("Invalid server state: " ++ String.ofList s)

/-- White space around a state and the case of its letters do not matter. -/
def readState (item : Item) : Except BoxError ServerState := do
  let text ← item.toStr
  stateOfLowercase (toLowercase L (Naming.trimChars text.toList))

def defaultCountryCode : CountryCode := ⟨840⟩

/-- China, Iran and Russia. -/
def defaultOutboundBlock : List CountryCode := [⟨156⟩, ⟨364⟩, ⟨643⟩]

def noSecrets : Secrets where
  healthPath := ""
  dohEndpoint := ""
  xuiUsername := ""
  xuiPassword := ""
  xuiToken := none
  xuiWebpath := ""
  xuiSubpath := ""
  xuiJsubpath := ""
  motherSubids := []

def decodeServer (t : Table) : Except BoxError KetServer := do
  let name ← field t "name" Item.toStr
  let ip ← field t "ip" (readIp F)
  let domain ← field t "domain" (readHost F)
  let region ← fieldOr t "region" (readCountry F) defaultCountryCode
  let state ← fieldOr t "state" (readState L) .Offgrid
  let quota ← fieldOr t "quota" (Item.toUnsigned (2 ^ 16)) 0
  let enabled ← fieldOr t "enabled" Item.toBool true
  let sshPort ← fieldOr t "ssh-port" (Item.toUnsigned (2 ^ 16)) Constants.sshPort.toNat
  let dnsSubdomain ← fieldOr t "dns-subdomain" Item.toStr "dns"
  let uiSubdomain ← fieldOr t "ui-subdomain" Item.toStr "ui"
  let subSubdomain ← fieldOr t "sub-subdomain" Item.toStr "sub"
  let cloudflareProxied ← fieldOr t "cloudflare-proxied" Item.toBool false
  let inbounds ← fieldOr t "inbounds" readInbounds []
  let outboundBlock ← fieldOr t "outbound-block" (Item.toList (readCountry F))
    defaultOutboundBlock
  .ok
    { name
      ip
      domain
      region
      state
      quota := .ofNat quota
      enabled
      sshPort := .ofNat sshPort
      dnsSubdomain
      uiSubdomain
      subSubdomain
      cloudflareProxied
      inbounds
      outboundBlock
      ansibleConn := none
      secrets := noSecrets
      cfstate := none }

def decodeSettings (t : Table) : Except BoxError CloudSettings := do
  let inboundSet ← field t "inbound-set" readInbounds
  let autoFix ← fieldOr t "auto-fix" Item.toBool true
  let fixThreshold ← fieldOr t "fix-threshold" (Item.toUnsigned (2 ^ 64))
    Constants.fixThreshold.toNat
  let monitorInterval ← fieldOr t "monitor-interval" (Item.toUnsigned (2 ^ 64))
    Constants.svcMonInterval.toNat
  .ok
    { inboundSet
      autoFix
      fixThreshold := .ofNat fixThreshold
      monitorInterval := .ofNat monitorInterval }

def readServers : Item → Except BoxError (List KetServer) :=
  Item.toList fun item => item.toTable >>= decodeServer F L

def readSettings (item : Item) : Except BoxError CloudSettings :=
  item.toTable >>= decodeSettings

def decodeCloud (doc : Table) : Except BoxError TCloud := do
  let servers ← field doc "servers" (readServers F L)
  let settings ← field doc "settings" readSettings
  .ok { servers, settings }

/-- `parse_cloud_config` on the text of the config file. -/
def cloudOfText (T : Texts) (draws : Nat → Server.SecretDraw) (text : String) :
    Except BoxError Cloud := do
  let doc ← T.fromStr text
  let t ← decodeCloud F L doc
  parseCloudConfig F draws t

end Deserializing

section RoundTrip

variable {F : Forms} {L : CaseTables} {s : KetServer} {c : Cloud}

/-- The text forms in the document of a server parse back. -/
structure Writable (F : Forms) (s : KetServer) : Prop where
  ip : F.ipParse (F.ipText s.ip) = some s.ip
  domain : F.hostParse (F.hostText s.domain) = some s.domain
  region : F.forAlpha2 (F.alpha2 s.region) = some s.region
  outboundBlock : ∀ code ∈ s.outboundBlock, F.forAlpha2 (F.alpha2 code) = some code

/-- What a server declares. -/
def declaration (s : KetServer) : KetServer :=
  { s with ansibleConn := none, secrets := noSecrets, cfstate := none }

theorem readKind_toText (k : InboundKind) : readKind (.string k.toText) = .ok k := by
  rw [readKind, toStr_string]
  show okOr (InboundKind.ofText k.toText) _ = _
  rw [InboundKind.ofText_toText]
  rfl

theorem readState_toText (state : ServerState) :
    readState L (.string state.toText) = .ok state := by
  have htrim : Naming.trimChars state.toText.toList = state.toText.toList := by
    cases state <;> decide
  have hascii : ∀ c ∈ state.toText.toList, isAsciiChar c = true := by
    cases state <;> exact List.all_eq_true.mp rfl
  rw [readState, toStr_string]
  show stateOfLowercase (toLowercase L (Naming.trimChars state.toText.toList)) = _
  rw [htrim, toLowercase_of_ascii hascii]
  cases state <;> rfl

/-- The fields of the table are those of the inbound. -/
structure InboundFields (t : Table) (inb : Inbound) : Prop where
  name : field t "name" Item.toStr = .ok inb.name
  port : field t "port" (Item.toUnsigned (2 ^ 16)) = .ok inb.port.toNat
  kind : fieldOr t "kind" readKind .VlessXhttpReality = .ok inb.kind
  total : field t "total" (Item.toUnsigned (2 ^ 16)) = .ok inb.total.toNat
  traffic : fieldOr t "traffic" (Item.toUnsigned (2 ^ 32)) 0 = .ok inb.traffic.toNat
  expiry : fieldOr t "expiry" (Item.toUnsigned (2 ^ 16)) 0 = .ok inb.expiry.toNat
  comment : fieldOr t "comment" Item.toStr "" = .ok inb.comment

theorem decodeInbound_of_fields {t : Table} {inb : Inbound} (h : InboundFields t inb) :
    decodeInbound t = .ok inb := by
  simp only [decodeInbound, h.name, h.port, h.kind, h.total, h.traffic, h.expiry, h.comment, bind,
    Except.bind, UInt16.ofNat_toNat, UInt32.ofNat_toNat]

theorem decodeInbound_inboundTable (inb : Inbound) :
    decodeInbound (inboundTable inb) = .ok inb :=
  decodeInbound_of_fields
    { name := rfl
      port := (field_of_lookup rfl).trans (toUnsigned_natCast inb.port.toNat_lt)
      kind := readKind_toText inb.kind
      total := (field_of_lookup rfl).trans (toUnsigned_natCast inb.total.toNat_lt)
      traffic := (fieldOr_of_lookup rfl).trans (toUnsigned_natCast inb.traffic.toNat_lt)
      expiry := (fieldOr_of_lookup rfl).trans (toUnsigned_natCast inb.expiry.toNat_lt)
      comment := rfl }

theorem readInbounds_ofTables (l : List Inbound) :
    readInbounds (.ofTables (l.map inboundTable)) = .ok l := by
  conv_rhs => rw [← List.map_id l]
  exact toList_ofTables fun inb _ => decodeInbound_inboundTable inb

/-- The fields of the table are what the server declares. -/
structure ServerFields (F : Forms) (L : CaseTables) (t : Table) (s : KetServer) : Prop where
  name : field t "name" Item.toStr = .ok s.name
  ip : field t "ip" (readIp F) = .ok s.ip
  domain : field t "domain" (readHost F) = .ok s.domain
  region : fieldOr t "region" (readCountry F) defaultCountryCode = .ok s.region
  state : fieldOr t "state" (readState L) .Offgrid = .ok s.state
  quota : fieldOr t "quota" (Item.toUnsigned (2 ^ 16)) 0 = .ok s.quota.toNat
  enabled : fieldOr t "enabled" Item.toBool true = .ok s.enabled
  sshPort : fieldOr t "ssh-port" (Item.toUnsigned (2 ^ 16)) Constants.sshPort.toNat =
    .ok s.sshPort.toNat
  dnsSubdomain : fieldOr t "dns-subdomain" Item.toStr "dns" = .ok s.dnsSubdomain
  uiSubdomain : fieldOr t "ui-subdomain" Item.toStr "ui" = .ok s.uiSubdomain
  subSubdomain : fieldOr t "sub-subdomain" Item.toStr "sub" = .ok s.subSubdomain
  cloudflareProxied : fieldOr t "cloudflare-proxied" Item.toBool false = .ok s.cloudflareProxied
  inbounds : fieldOr t "inbounds" readInbounds [] = .ok s.inbounds
  outboundBlock : fieldOr t "outbound-block" (Item.toList (readCountry F)) defaultOutboundBlock =
    .ok s.outboundBlock

theorem decodeServer_of_fields {t : Table} (h : ServerFields F L t s) :
    decodeServer F L t = .ok (declaration s) := by
  simp only [decodeServer, h.name, h.ip, h.domain, h.region, h.state, h.quota, h.enabled, h.sshPort,
    h.dnsSubdomain, h.uiSubdomain, h.subSubdomain, h.cloudflareProxied, h.inbounds,
    h.outboundBlock, bind, Except.bind, UInt16.ofNat_toNat, declaration]

theorem readCountry_alpha2 {code : CountryCode} (h : F.forAlpha2 (F.alpha2 code) = some code) :
    readCountry F (.string (F.alpha2 code)) = .ok code := by
  rw [readCountry, toStr_string]
  show okOr (F.forAlpha2 (F.alpha2 code)) _ = _
  rw [h]
  rfl

theorem readCountries_alpha2 {l : List CountryCode}
    (h : ∀ code ∈ l, F.forAlpha2 (F.alpha2 code) = some code) :
    (Item.array (l.map fun code => .string (F.alpha2 code))).toList (readCountry F) = .ok l := by
  conv_rhs => rw [← List.map_id l]
  exact toList_array fun code hcode => readCountry_alpha2 (h code hcode)

theorem readIp_ipText (h : F.ipParse (F.ipText s.ip) = some s.ip) :
    readIp F (.string (F.ipText s.ip)) = .ok s.ip := by
  rw [readIp, toStr_string]
  show okOr (F.ipParse (F.ipText s.ip)) _ = _
  rw [h]
  rfl

theorem readHost_hostText (h : F.hostParse (F.hostText s.domain) = some s.domain) :
    readHost F (.string (F.hostText s.domain)) = .ok s.domain := by
  rw [readHost, toStr_string]
  show okOr (F.hostParse (F.hostText s.domain)) _ = _
  rw [h]
  rfl

theorem decodeServer_serverTable (h : Writable F s) :
    decodeServer F L (serverTable F s) = .ok (declaration s) :=
  decodeServer_of_fields
    { name := rfl
      ip := readIp_ipText h.ip
      domain := readHost_hostText h.domain
      region := readCountry_alpha2 h.region
      state := readState_toText s.state
      quota := (fieldOr_of_lookup rfl).trans (toUnsigned_natCast s.quota.toNat_lt)
      enabled := rfl
      sshPort := (fieldOr_of_lookup rfl).trans (toUnsigned_natCast s.sshPort.toNat_lt)
      dnsSubdomain := rfl
      uiSubdomain := rfl
      subSubdomain := rfl
      cloudflareProxied := rfl
      inbounds := readInbounds_ofTables s.inbounds
      outboundBlock := readCountries_alpha2 h.outboundBlock }

/-- The fields of the table are the settings. -/
structure SettingsFields (t : Table) (settings : CloudSettings) : Prop where
  inboundSet : field t "inbound-set" readInbounds = .ok settings.inboundSet
  autoFix : fieldOr t "auto-fix" Item.toBool true = .ok settings.autoFix
  fixThreshold : fieldOr t "fix-threshold" (Item.toUnsigned (2 ^ 64))
    Constants.fixThreshold.toNat = .ok settings.fixThreshold.toNat
  monitorInterval : fieldOr t "monitor-interval" (Item.toUnsigned (2 ^ 64))
    Constants.svcMonInterval.toNat = .ok settings.monitorInterval.toNat

theorem decodeSettings_of_fields {t : Table} {settings : CloudSettings}
    (h : SettingsFields t settings) : decodeSettings t = .ok settings := by
  simp only [decodeSettings, h.inboundSet, h.autoFix, h.fixThreshold, h.monitorInterval, bind,
    Except.bind, UInt64.ofNat_toNat]

theorem decodeSettings_settingsTable (settings : CloudSettings) :
    decodeSettings (settingsTable settings) = .ok settings :=
  decodeSettings_of_fields
    { inboundSet := readInbounds_ofTables settings.inboundSet
      autoFix := rfl
      fixThreshold :=
        (fieldOr_of_lookup rfl).trans (toUnsigned_natCast settings.fixThreshold.toNat_lt)
      monitorInterval :=
        (fieldOr_of_lookup rfl).trans (toUnsigned_natCast settings.monitorInterval.toNat_lt) }

/-- What was serialized is deserialized as what it declares. -/
theorem decodeCloud_cloudTable (h : ∀ s ∈ c.servers, Writable F s) :
    decodeCloud F L (cloudTable F c) =
      .ok { servers := c.servers.map declaration, settings := c.settings } := by
  have hservers : field (cloudTable F c) "servers" (readServers F L) =
      .ok (c.servers.map declaration) :=
    toList_ofTables fun s hs => decodeServer_serverTable (h s hs)
  have hsettings : field (cloudTable F c) "settings" readSettings = .ok c.settings :=
    decodeSettings_settingsTable c.settings
  simp only [decodeCloud, hservers, hsettings, bind, Except.bind]

end RoundTrip

end Xcplane.CloudDocument
