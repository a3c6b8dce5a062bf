import Mathlib.Algebra.Ring.Nat
import Xcplane.Server
import Xcplane.Lib.KeyedTable
import Xcplane.Lib.Result

/-!
The database of the daemon: its tables, the statements that write a cloud to it
and the queries that read a cloud back.
-/

namespace Xcplane.Database

open Xcplane.Types
open Xcplane.Lib

section Tables

structure OptionRow where
  key : String
  value : String
  deriving DecidableEq, Repr

structure ServerRow where
  name : String
  ip : String
  domain : String
  region : String
  state : String
  quota : Int
  enabled : Int
  sshPort : Int
  dnsSubdomain : String
  uiSubdomain : String
  subSubdomain : String
  healthPath : String
  dohEndpoint : String
  xuiUsername : String
  xuiPassword : String
  xuiToken : Option String
  xuiWebpath : String
  xuiSubpath : String
  xuiJsubpath : String
  cloudflareProxied : Int
  outboundBlock : String
  deriving DecidableEq, Repr

structure InboundRow where
  serverName : String
  inboundGroup : String
  port : Int
  kind : String
  traffic : Int
  expiry : Int
  comment : String
  motherSubid : String
  totalClients : Int
  deriving DecidableEq, Repr

structure StatRow where
  serverName : String
  service : String
  health : String
  failedCount : Int
  failedSince : Int
  fixTry : Int
  deriving DecidableEq, Repr

def InboundRow.id (r : InboundRow) : String × String := (r.serverName, r.inboundGroup)
def StatRow.id (r : StatRow) : String × String := (r.serverName, r.service)

structure Db where
  options : KeyedTable OptionRow.key
  servers : KeyedTable ServerRow.name
  inbounds : KeyedTable InboundRow.id
  stats : KeyedTable StatRow.id

def Db.empty : Db where
  options := .empty
  servers := .empty
  inbounds := .empty
  stats := .empty

end Tables

section Statements

/-- The statements of `update_db`, with their parameters. -/
inductive Stmt
  | setOption (key value : String)
  | deleteServersNotIn (names : List String)
  | upsertServer (row : ServerRow)
  | deleteInboundsNotIn (server : String) (names : List String)
  | upsertInbound (row : InboundRow)
  | deleteStatsNotIn (server : String) (services : List String)
  | insertStat (server service : String)

/-- The row of a deleted server takes the rows that refer to it along. -/
def cascades (db : Db) (names : List String) (server : String) : Bool :=
  (db.servers.find server).isSome && !names.contains server

def checkForeignKey (db : Db) (server : String) : Except BoxError Unit :=
  ensure (db.servers.find server).isSome "FOREIGN KEY constraint failed"

def checkFlag (column : String) (value : Int) : Except BoxError Unit :=
  ensure (value == 0 || value == 1) ("CHECK constraint failed: " ++ column ++ " IN (0,1)")

def exec (stmt : Stmt) (db : Db) : Except BoxError Db :=
  match stmt with
  | .setOption key value =>
      .ok { db with
        options := db.options.modify key (fun r => { r with value }) fun _ => rfl }
  | .deleteServersNotIn names =>
      .ok { db with
        servers := db.servers.retain fun r => names.contains r.name
        inbounds := db.inbounds.retain fun r => !cascades db names r.serverName
        stats := db.stats.retain fun r => !cascades db names r.serverName }
  | .upsertServer row => do
      checkFlag "enabled" row.enabled
      checkFlag "cloudflare_proxied" row.cloudflareProxied
      .ok { db with servers := db.servers.upsert row }
  | .deleteInboundsNotIn server names =>
      .ok { db with
        inbounds := db.inbounds.retain fun r =>
          r.serverName != server || names.contains r.inboundGroup }
  | .upsertInbound row => do
      checkForeignKey db row.serverName
      .ok { db with inbounds := db.inbounds.upsert row }
  | .deleteStatsNotIn server services =>
      .ok { db with
        stats := db.stats.retain fun r => r.serverName != server || services.contains r.service }
  | .insertStat server service => do
      checkForeignKey db server
      .ok { db with
        stats := db.stats.insertIgnore ⟨server, service, "Unknown", 0, 0, 0⟩ }

/-- Runs the statements one after the other, outside a transaction. A statement
whose parameters cannot be computed ends the sequence, and so does one that the
engine fails to execute. -/
def runStmts (fault : Nat → Option BoxError) :
    List (Except BoxError Stmt) → Nat → Db → Db × Option BoxError
  | [], _, db => (db, none)
  | .error e :: _, _, db => (db, some e)
  | .ok stmt :: rest, i, db =>
      match fault i with
      | some e => (db, some e)
      | none =>
          match exec stmt db with
          | .error e => (db, some e)
          | .ok db => runStmts fault rest (i + 1) db

end Statements

section Encoding

variable (F : Forms)

def flag (b : Bool) : Int := if b then 1 else 0

def boolText (b : Bool) : String := if b then "true" else "false"

def serverRow (s : KetServer) : ServerRow where
  name := s.name
  ip := F.ipText s.ip
  domain := F.hostText s.domain
  region := F.alpha2 s.region
  state := s.state.toText
  quota := s.quota.toNat
  enabled := flag s.enabled
  sshPort := s.sshPort.toNat
  dnsSubdomain := s.dnsSubdomain
  uiSubdomain := s.uiSubdomain
  subSubdomain := s.subSubdomain
  healthPath := s.secrets.healthPath
  dohEndpoint := s.secrets.dohEndpoint
  xuiUsername := s.secrets.xuiUsername
  xuiPassword := s.secrets.xuiPassword
  xuiToken := s.secrets.xuiToken
  xuiWebpath := s.secrets.xuiWebpath
  xuiSubpath := s.secrets.xuiSubpath
  xuiJsubpath := s.secrets.xuiJsubpath
  cloudflareProxied := flag s.cloudflareProxied
  outboundBlock := F.countriesJson s.outboundBlock

def inboundRow (server : String) (inb : Inbound) (motherSubid : String) : InboundRow where
  serverName := server
  inboundGroup := inb.name
  port := inb.port.toNat
  kind := inb.kind.toText
  traffic := inb.traffic.toNat
  expiry := inb.expiry.toNat
  comment := inb.comment
  motherSubid := motherSubid
  totalClients := inb.total.toNat

def missingSubid (server inbound : String) : BoxError :=
  "Missing mother_subid for inbound " ++ inbound ++ " in server " ++ server

def inboundStmt (s : KetServer) (inb : Inbound) : Except BoxError Stmt := do
  let motherSubid ← okOr (s.secrets.motherSubid inb.name) (missingSubid s.name inb.name)
  .ok (.upsertInbound (inboundRow s.name inb motherSubid))

def groupStmts (s : KetServer) : List (Except BoxError Stmt) :=
  .ok (.deleteInboundsNotIn s.name s.inboundNames) :: s.inbounds.map (inboundStmt s) ++
    .ok (.deleteStatsNotIn s.name (Server.svcKindsString s)) ::
      (Server.svcKindsString s).map fun svc => .ok (.insertStat s.name svc)

def optionStmts (cloudConfig : String) (settings : CloudSettings) : List Stmt :=
  [.setOption "cloud_config" cloudConfig,
    .setOption "inbound_set" (F.inboundsJson settings.inboundSet),
    .setOption "auto_fix" (boolText settings.autoFix),
    .setOption "fix_threshold" (toString settings.fixThreshold.toNat),
    .setOption "monitor_interval" (toString settings.monitorInterval.toNat)]

def updateStmts (cloudConfig : Except BoxError String) (cloud : Cloud) :
    List (Except BoxError Stmt) :=
  match cloudConfig with
  | .error e => [.error e]
  | .ok cloudConfig =>
      (optionStmts F cloudConfig cloud.settings).map .ok ++
        .ok (.deleteServersNotIn cloud.names) ::
          cloud.servers.map (fun s => .ok (.upsertServer (serverRow F s))) ++
        cloud.servers.flatMap groupStmts

/-- Populates or updates the database to match the reconciled cloud. The text of
the config file is stored as it is. -/
def updateDb (fault : Nat → Option BoxError) (cloudConfig : Except BoxError String)
    (cloud : Cloud) (db : Db) : Db × Option BoxError :=
  runStmts fault (updateStmts F cloudConfig cloud) 0 db

end Encoding

/-- The options that `create_db` adds when they are missing. -/
def defaultOptions : List OptionRow :=
  [⟨"cloud_config", ""⟩, ⟨"inbound_set", "[]"⟩, ⟨"auto_fix", "true"⟩,
    ⟨"fix_threshold", toString Constants.fixThreshold.toNat⟩,
    ⟨"monitor_interval", toString Constants.svcMonInterval.toNat⟩]

def createDb (db : Db) : Db :=
  { db with options := defaultOptions.foldl KeyedTable.insertIgnore db.options }

section Decoding

variable (F : Forms)

def conversionError : BoxError := "Conversion error from type Text at index: 0"

def stripPlus (cs : List Char) : List Char :=
  match cs with
  | [] => []
  | c :: rest => if c = '+' then rest else c :: rest

/-- `str::parse::<u64>`. -/
def parseU64 (s : String) : Option UInt64 :=
  let digits := stripPlus s.toList
  let n := Nat.ofDigitChars 10 digits 0
  if digits.isEmpty || !digits.all Char.isDigit || decide (2 ^ 64 ≤ n) then none
  else some (UInt64.ofNat n)

def parseBool (s : String) : Option Bool :=
  if s = "true" then some true
  else if s = "false" then some false
  else none

def getOption {α : Type} (db : Db) (key : String) (parse : String → Option α) :
    Except BoxError α := do
  let row ← okOr (db.options.find key) "Query returned no rows"
  okOr (parse row.value) conversionError

def loadInbound (r : InboundRow) : Except BoxError Inbound := do
  let kind ← okOr (InboundKind.ofText r.kind) conversionError
  .ok
    { name := r.inboundGroup
      port := UInt16.ofInt r.port
      kind
      total := UInt16.ofInt r.totalClients
      traffic := UInt32.ofInt r.traffic
      expiry := UInt16.ofInt r.expiry
      comment := r.comment }

/-- `SELECT .. FROM inbounds WHERE server_name = ?1`. -/
def inboundRows (db : Db) (server : String) : List InboundRow :=
  db.inbounds.rows.filter fun r => r.serverName == server

def loadSecrets (r : ServerRow) (rows : List InboundRow) : Secrets where
  healthPath := r.healthPath
  dohEndpoint := r.dohEndpoint
  xuiUsername := r.xuiUsername
  xuiPassword := r.xuiPassword
  xuiToken := r.xuiToken
  xuiWebpath := r.xuiWebpath
  xuiSubpath := r.xuiSubpath
  xuiJsubpath := r.xuiJsubpath
  motherSubids := orInsertAll [] (rows.map fun i => (i.inboundGroup, i.motherSubid))

def loadConn (r : ServerRow) : AnsibleConn where
  ansibleHost := some r.ip
  ansiblePort := some (UInt16.ofInt r.sshPort)
  ansibleUser := some Constants.rootUser
  ansibleConnection := none

def loadServer (db : Db) (r : ServerRow) : Except BoxError KetServer := do
  let ip ← okOr (F.ipParse r.ip) conversionError
  let domain ← okOr (F.hostParse r.domain) conversionError
  let region ← okOr (F.forAlpha2 r.region) conversionError
  let state ← okOr (ServerState.ofText r.state) conversionError
  let outboundBlock ← okOr (F.countriesOfJson r.outboundBlock) conversionError
  let inbounds ← (inboundRows db r.name).mapM loadInbound
  .ok
    { name := r.name
      ip
      domain
      region
      state
      quota := UInt16.ofInt r.quota
      enabled := r.enabled == 1
      sshPort := UInt16.ofInt r.sshPort
      dnsSubdomain := r.dnsSubdomain
      uiSubdomain := r.uiSubdomain
      subSubdomain := r.subSubdomain
      cloudflareProxied := r.cloudflareProxied == 1
      inbounds
      outboundBlock
      ansibleConn := some (loadConn r)
      secrets := loadSecrets r (inboundRows db r.name)
      cfstate := none }

def loadSettings (db : Db) : Except BoxError CloudSettings := do
  let inboundSet ← getOption db "inbound_set" F.inboundsOfJson
  let autoFix ← getOption db "auto_fix" parseBool
  let fixThreshold ← getOption db "fix_threshold" parseU64
  let monitorInterval ← getOption db "monitor_interval" parseU64
  .ok { inboundSet, autoFix, fixThreshold, monitorInterval }

def loadCloud (db : Db) : Except BoxError Cloud := do
  let servers ← db.servers.rows.mapM (loadServer F db)
  let settings ← loadSettings F db
  .ok { servers, settings }

end Decoding

end Xcplane.Database
