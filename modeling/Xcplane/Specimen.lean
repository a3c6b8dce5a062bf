import Xcplane.CloudConfig
import Xcplane.Reconcile

/-!
One concrete choice of the text forms, of servers and of what surrounds a
reconciliation, which the closed instances of the general theorems are about.
-/

namespace Xcplane.Specimen

open Xcplane.Types
open Xcplane.Lib
open Xcplane.Server
open Xcplane.CloudConfig
open Xcplane.Cloudflare
open Xcplane.RebaseDiff
open Xcplane.Deploy
open Xcplane.Reconcile

def dotted (bits : BitVec 32) : String :=
  let n := bits.toNat
  toString (n / 2 ^ 24) ++ "." ++ toString (n / 2 ^ 16 % 256) ++ "." ++
    toString (n / 2 ^ 8 % 256) ++ "." ++ toString (n % 256)

def hostText : Host → String
  | .domain name => name
  | .ipv4 bits => dotted bits
  | .ipv6 bits => toString bits.toNat

def alpha2 (c : CountryCode) : String :=
  if c.numeric = 276 then "DE" else if c.numeric = 364 then "IR" else "US"

def quoted (text : String) : String :=
  "\"" ++ text ++ "\""

def inboundJson (inb : Inbound) : String :=
  "\x7b\"name\":" ++ quoted inb.name ++ ",\"port\":" ++ toString inb.port ++ ",\"kind\":\"" ++
    inb.kind.toText ++ "\",\"total\":" ++ toString inb.total ++ ",\"traffic\":" ++
    toString inb.traffic ++ ",\"expiry\":" ++ toString inb.expiry ++ ",\"comment\":" ++
    quoted inb.comment ++ "\x7d"

def cloudflareDns : IpAddr := .v4 0x01010101#32
def googleDns : IpAddr := .v4 0x08080808#32
def quadNine : IpAddr := .v4 0x09090909#32

def direct : Inbound where
  name := "direct"
  port := 8080
  kind := .VlessTcpReality
  total := 4
  traffic := 0
  expiry := 0
  comment := ""

def proxied : Inbound where
  name := "proxied"
  port := 2053
  kind := .VlessWsTls
  total := 2
  traffic := 30
  expiry := 60
  comment := "behind the proxy"

def inboundsText (l : List Inbound) : String :=
  "[" ++ String.intercalate "," (l.map inboundJson) ++ "]"

def blocked : List CountryCode := [⟨364⟩]

/-- The forms, with parsers that know the values used here. -/
def forms : Forms where
  ipText
    | .v4 bits => dotted bits
    | .v6 bits => toString bits.toNat
  ipParse text :=
    if text = "1.1.1.1" then some cloudflareDns
    else if text = "8.8.8.8" then some googleDns
    else if text = "9.9.9.9" then some quadNine
    else none
  hostText := hostText
  hostParse text := some (.domain text)
  alpha2 := alpha2
  forAlpha2 text :=
    if text = "DE" then some ⟨276⟩
    else if text = "IR" then some ⟨364⟩
    else if text = "US" then some ⟨840⟩
    else none
  countriesJson l := "[" ++ String.intercalate "," (l.map fun c => quoted (alpha2 c)) ++ "]"
  countriesOfJson text :=
    if text = "[\"IR\"]" then some blocked
    else if text = "[]" then some []
    else none
  inboundsJson := inboundsText
  inboundsOfJson text :=
    if text = inboundsText [direct, proxied] then some [direct, proxied]
    else if text = inboundsText [] then some []
    else none
  sha256Hex text :=
    if text = "name=alpha|domain=a.example.org|dsub=dns|usub=ui|ssub=sub" then
      "3ff497796514e6ffc16cb5cd70f4f3f6ae8dbf4a73bfaafc0b43ed8e7fe48036"
    else "163158e1b5180543c85efeb3d99f4645c973fccd263e8faa7d970299e1b898f0"

def secrets (subids : List (String × String)) : Secrets where
  healthPath := "3ff497796514e6ff"
  dohEndpoint := "doh"
  xuiUsername := "user"
  xuiPassword := "password"
  xuiToken := none
  xuiWebpath := "web"
  xuiSubpath := "sub"
  xuiJsubpath := "json"
  motherSubids := subids

def conn (ip : String) (port : UInt16) : AnsibleConn where
  ansibleHost := some ip
  ansiblePort := some port
  ansibleUser := some "root"
  ansibleConnection := none

def cfstate : CFState where
  zoneName := "example.org"
  zoneId := "zone"
  tooDeep := true
  cloudflareOnly := false
  listData := none

def alpha : KetServer where
  name := "alpha"
  ip := cloudflareDns
  domain := .domain "a.example.org"
  region := ⟨276⟩
  state := .Production
  quota := 0
  enabled := true
  sshPort := 79
  dnsSubdomain := "dns"
  uiSubdomain := "ui"
  subSubdomain := "sub"
  cloudflareProxied := false
  inbounds := [direct, Inbound.superInbound]
  outboundBlock := blocked
  ansibleConn := some (conn "1.1.1.1" 79)
  secrets := secrets [("direct", "id1"), ("super", "super")]
  cfstate := some cfstate

def beta : KetServer :=
  { alpha with
    name := "beta"
    ip := googleDns
    domain := .domain "b.example.org"
    state := .Offgrid
    ansibleConn := some (conn "8.8.8.8" 22) }

def settings : CloudSettings where
  inboundSet := [direct, proxied]
  autoFix := true
  fixThreshold := 10
  monitorInterval := 60

def cloud (servers : List KetServer) : Cloud where
  servers := servers
  settings := settings

def draws (_ : Nat) : SecretDraw where
  dohEndpoint := "doh2"
  xuiUsername := "user2"
  xuiPassword := "password2"
  xuiWebpath := "web2"
  xuiSubpath := "sub2"
  xuiJsubpath := "json2"
  subid i := if i = 0 then "id2" else "id3"

/-- The secrets that are drawn for `alpha` from these. -/
def drawnSecrets (subids : List (String × String)) : Secrets where
  healthPath := "3ff497796514e6ff"
  dohEndpoint := "doh2"
  xuiUsername := "user2"
  xuiPassword := "password2"
  xuiToken := none
  xuiWebpath := "web2"
  xuiSubpath := "sub2"
  xuiJsubpath := "json2"
  motherSubids := subids

def declared (servers : List KetServer) : TCloud where
  servers := servers
  settings := settings

def cf : CfAnswers where
  list _ := .ok "list"
  zone _ := .ok ⟨"zone", "example.org", "account", "name"⟩
  ruleset _ _ := .ok "ruleset"
  rule _ _ _ := .ok "rule"

/-- Every run succeeds, in the order in which the runs are started. -/
def remote : Remote where
  outcome _ := .success
  order runs := runs
  perm _ := .refl _

/-- Directories are lists of file names, and removing one succeeds. -/
def env : ReconEnv (List String) where
  forms := forms
  removeDirAll _ _ := .ok ()
  cf := cf
  cfList := none
  remote := remote

def dirs : Dirs (List String) := fun name =>
  if name = "alpha" then some ["alpha-6-inventory.json"] else none

def order (old new : Cloud) : MergeOrder old new where
  names := (old.names ++ new.names).dedup
  enumerates :=
    { nodup := List.nodup_dedup _
      mem_iff := by
        intro n
        rw [List.mem_dedup, List.mem_append] }

/-- Going through the inbounds in the order of their declarations. -/
def inboundOrder : InboundOrder where
  names curr new := (curr.inboundNames ++ new.inboundNames).dedup
  enumerates curr new :=
    { nodup := List.nodup_dedup _
      mem_iff := by
        intro n
        rw [List.mem_dedup, List.mem_append] }

def iteration (c : Cloud) : Iteration c where
  names := c.names.dedup
  enumerates := Enumerates.dedup c.names

theorem cloud_distinct {servers : List KetServer}
    (h : (servers.map KetServer.name).Nodup ∧ (servers.map KetServer.domain).Nodup ∧
      (servers.map KetServer.ip).Nodup) : (cloud servers).Distinct where
  names := h.1
  domains := h.2.1
  ips := h.2.2

theorem forms_inboundSet :
    forms.inboundsOfJson (forms.inboundsJson settings.inboundSet) = some settings.inboundSet := by
  simp [forms, settings]

theorem forms_roundTripsOn_alpha : forms.RoundTripsOn alpha where
  ip := by decide
  domain := by decide
  region := by decide
  outboundBlock := by decide

theorem forms_roundTripsOn_beta : forms.RoundTripsOn beta where
  ip := by decide
  domain := by decide
  region := by decide
  outboundBlock := by decide

end Xcplane.Specimen
