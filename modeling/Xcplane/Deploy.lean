import Mathlib.Data.List.Dedup
import Mathlib.Data.List.Sort
import Xcplane.RebaseDiff

/-!
The remote side of a Rebase: which actions each scheduled server needs, the runs
that are started for them, and the loop that joins the runs.
-/

namespace Xcplane.Deploy

open Xcplane.Types
open Xcplane.Lib
open Xcplane.RebaseDiff

/-- The Ansible actions in order of priority. -/
inductive AnsibleAction
  | PortsCheck
  | DnsReset
  | Basics
  | CloudflareDel
  | Cloudflare
  | Acme
  | Nginx
  | DoH
  | FirewallBootstrap
  | OutblockedUpdate
  | BaseSetup
  | FullSetup
  | NginxRestart
  | NginxRestoreConfig
  | XrayRestart
  | XrayRestoreDB
  | Bootstrap
  | XuiAuth
  | DelInbound
  | AddInbound
  | PanelSettings
  | Fail2ban
  | Firewall
  | SSH
  | DestroyServer
  deriving DecidableEq, Repr

def AnsibleAction.id : AnsibleAction → Nat
  | .PortsCheck => 0
  | .DnsReset => 1
  | .Basics => 2
  | .CloudflareDel => 3
  | .Cloudflare => 4
  | .Acme => 5
  | .Nginx => 6
  | .DoH => 7
  | .FirewallBootstrap => 8
  | .OutblockedUpdate => 9
  | .BaseSetup => 10
  | .FullSetup => 11
  | .NginxRestart => 12
  | .NginxRestoreConfig => 13
  | .XrayRestart => 14
  | .XrayRestoreDB => 15
  | .Bootstrap => 16
  | .XuiAuth => 17
  | .DelInbound => 18
  | .AddInbound => 19
  | .PanelSettings => 20
  | .Fail2ban => 21
  | .Firewall => 22
  | .SSH => 23
  | .DestroyServer => 24

def sortUnique (actions : List AnsibleAction) : List AnsibleAction :=
  (actions.insertionSort fun a b => a.id ≤ b.id).dedup

structure AnsibleRun where
  server : KetServer
  actions : List AnsibleAction
  rebaseData : Option RebaseData
  deriving DecidableEq, Repr

section Planning

variable (F : Forms)

/-- The actions for what differs in the specification of the server, before its
Cloudflare state is looked at. -/
def specActions (old new : KetServer) : List AnsibleAction :=
  (if F.ipText old.ip ≠ F.ipText new.ip then [AnsibleAction.Cloudflare] else []) ++
  (if F.hostText old.domain ≠ F.hostText new.domain then
    [AnsibleAction.DnsReset, .CloudflareDel, .Cloudflare, .Acme, .Nginx, .DoH] else []) ++
  (if old.dnsSubdomain ≠ new.dnsSubdomain then
    [AnsibleAction.DnsReset, .CloudflareDel, .Cloudflare, .Nginx, .DoH] else []) ++
  (if old.uiSubdomain ≠ new.uiSubdomain then
    [AnsibleAction.CloudflareDel, .Cloudflare, .Nginx] else []) ++
  (if old.subSubdomain ≠ new.subSubdomain then
    [AnsibleAction.CloudflareDel, .Cloudflare, .Nginx, .XuiAuth, .PanelSettings] else []) ++
  (if old.sshPort ≠ new.sshPort then [AnsibleAction.PortsCheck, .SSH, .Fail2ban] else [])

def cfStateOf (s : KetServer) : Except BoxError CFState :=
  match s.cfstate with
  | none => .error "Couldn't take a reference to the CFState struct."
  | some cfstate => .ok cfstate

def sameCountries (l l' : List CountryCode) : Bool :=
  l.all l'.contains && l'.all l.contains

def proxyActions (old new : KetServer) (oldState newState : CFState) : List AnsibleAction :=
  if old.cloudflareProxied ≠ new.cloudflareProxied ∨
      oldState.cloudflareOnly ≠ newState.cloudflareOnly then
    [.Cloudflare, .Nginx, .Fail2ban, .Firewall] else []

def outblockActions (old new : KetServer) : List AnsibleAction :=
  if sameCountries old.outboundBlock new.outboundBlock then [] else [.OutblockedUpdate]

def inboundActions : Option RebaseData → List AnsibleAction
  | none => []
  | some rebase =>
      (if rebase.removedInbounds.isEmpty then [] else [.XuiAuth, .DelInbound]) ++
      (if rebase.addedInbounds.isEmpty then [] else [.PortsCheck, .XuiAuth, .AddInbound])

def planActions (old new : KetServer) (rebaseData : Option RebaseData) :
    Except BoxError (List AnsibleAction) := do
  let oldState ← cfStateOf old
  let newState ← cfStateOf new
  .ok (sortUnique (specActions F old new ++ proxyActions old new oldState newState ++
    outblockActions old new ++ inboundActions rebaseData))

/-- The loop over the scheduled pairs: the runs it started and the error it
stopped with. -/
def startRuns (rebaseData : List (String × RebaseData)) :
    List (KetServer × KetServer) → List AnsibleRun × Option BoxError
  | [] => ([], none)
  | (old, new) :: rest =>
      match planActions F old new (rebaseData.lookup old.name) with
      | .error e => ([], some e)
      | .ok [] => startRuns rebaseData rest
      | .ok (a :: actions) =>
          let run : AnsibleRun :=
            { server := new
              actions := a :: actions
              rebaseData := rebaseData.lookup old.name }
          let others := startRuns rebaseData rest
          (run :: others.1, others.2)

end Planning

/-- How a run ends: the exit status of the playbook, an error of the run itself,
or a panic of its task. -/
inductive RunOutcome
  | success
  | failure
  | err (e : BoxError)
  | panicked (e : BoxError)
  deriving DecidableEq, Repr

/-- The remote side: how every run ends and in which order the runs end. -/
structure Remote where
  outcome : AnsibleRun → RunOutcome
  order : List AnsibleRun → List AnsibleRun
  perm : ∀ runs, (order runs).Perm runs

def updatedConn (s : KetServer) (conn : AnsibleConn) : AnsibleConn where
  ansibleHost := conn.ansibleHost
  ansiblePort := some s.sshPort
  ansibleUser := conn.ansibleUser
  ansibleConnection := none

def storeConn (cloud : Cloud) (name : String) (conn : AnsibleConn) : Cloud :=
  { cloud with
    servers := cloud.servers.map fun s =>
      if s.name = name then { s with ansibleConn := some conn } else s }

def joinRun (remote : Remote) (run : AnsibleRun) : Except BoxError AnsibleConn :=
  match remote.outcome run with
  | .panicked e => .error e
  | .err e => .error e
  | .failure =>
      .error ("Rebase failed because remote action on server '" ++ run.server.name ++
        "' encountered an error.")
  | .success =>
      match run.server.ansibleConn with
      | none => .error "Couldn't unwrap AnsibleConn in deploy_rebase."
      | some conn => .ok (updatedConn run.server conn)

/-- The loop that joins the runs: the runs that were joined before it ended, and
the cloud with their connections. -/
def joinLoop (remote : Remote) : List AnsibleRun → Cloud →
    List AnsibleRun × Except BoxError Cloud
  | [], cloud => ([], .ok cloud)
  | run :: rest, cloud =>
      match joinRun remote run with
      | .error e => ([run], .error e)
      | .ok conn =>
          let joined := joinLoop remote rest (storeConn cloud run.server.name conn)
          (run :: joined.1, joined.2)

structure Deployment where
  started : List AnsibleRun
  joined : List AnsibleRun
  result : Except BoxError Cloud

def deployRebase (F : Forms) (remote : Remote) (rebaseData : List (String × RebaseData))
    (pairs : List (KetServer × KetServer)) (cloud : Cloud) : Deployment :=
  let spawned := startRuns F rebaseData pairs
  match spawned.2 with
  | some e =>
      { started := spawned.1
        joined := []
        result := .error e }
  | none =>
      let joined := joinLoop remote (remote.order spawned.1) cloud
      { started := spawned.1
        joined := joined.1
        result := joined.2 }

end Xcplane.Deploy
