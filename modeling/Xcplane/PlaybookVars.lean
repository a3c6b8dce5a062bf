import Xcplane.Constants
import Xcplane.RebasePlan

/-!
What a run hands to Ansible: the nftables operations that its actions need, and the
variables of the playbook.
-/

namespace Xcplane.PlaybookVars

open Xcplane.Types
open Xcplane.Lib
open Xcplane.RebaseDiff
open Xcplane.Deploy

section NftOperations

inductive NftSet
  | SshPre
  | SshPost
  | Inbound
  | OutBlocked4
  | OutBlocked6
  | Cloudflare4
  | Cloudflare6
  deriving DecidableEq, Repr

/-- What an operation puts into the set it flushes. The two operations for SSH are
about one set. -/
inductive NftOp
  | ssh (ports : List UInt16)
  | inbound (ports : List UInt16)
  | addresses (set : NftSet) (ranges : List String)
  deriving DecidableEq, Repr

def NftOp.isEmpty : NftOp → Bool
  | .ssh ports => ports.isEmpty
  | .inbound ports => ports.isEmpty
  | .addresses _ ranges => ranges.isEmpty

/-- The address ranges that are downloaded, and those that the GeoIP database has for
a list of countries. -/
structure RangeSource where
  cloudflare : NftSet → Except BoxError (List String)
  blocked : NftSet → List CountryCode → Except BoxError (List String)

def generateSshRule (server : KetServer) : NftSet → Except BoxError NftOp
  | .SshPre => do
      let conn ← okOr server.ansibleConn "Couldn't unwrap AnsibleConn in generate_ssh_rule."
      let ansiblePort ← okOr conn.ansiblePort
        ("ansible_port is absent from server " ++ server.name)
      if ansiblePort ≠ server.sshPort then .ok (.ssh [ansiblePort, server.sshPort])
      else .ok (.ssh [ansiblePort])
  | .SshPost => .ok (.ssh [server.sshPort])
  | _ => .error "Non-matching NftSet in generate_ssh_elements"

/-- The ports of the inbounds, without the super inbound. -/
def inboundPorts (server : KetServer) : List UInt16 :=
  server.inbounds.filterMap fun inb => if inb.port = 0 then none else some inb.port

def generateInboundRule (server : KetServer) : NftSet → Except BoxError NftOp
  | .Inbound => .ok (.inbound (inboundPorts server))
  | _ => .error "Non-matching NftSet in generate_inbound_elements"

def writeRule (source : RangeSource) (server : KetServer) : NftSet → Except BoxError NftOp
  | .Cloudflare4 => do .ok (.addresses .Cloudflare4 (← source.cloudflare .Cloudflare4))
  | .Cloudflare6 => do .ok (.addresses .Cloudflare6 (← source.cloudflare .Cloudflare6))
  | .OutBlocked4 => do
      .ok (.addresses .OutBlocked4 (← source.blocked .OutBlocked4 server.outboundBlock))
  | .OutBlocked6 => do
      .ok (.addresses .OutBlocked6 (← source.blocked .OutBlocked6 server.outboundBlock))
  | .SshPre => generateSshRule server .SshPre
  | .SshPost => generateSshRule server .SshPost
  | .Inbound => generateInboundRule server .Inbound

def setsOf : AnsibleAction → List NftSet
  | .SSH => [.SshPre, .SshPost]
  | .FullSetup =>
      [.Cloudflare4, .Cloudflare6, .OutBlocked4, .OutBlocked6, .Inbound, .SshPre, .SshPost]
  | .DelInbound => [.Inbound]
  | .AddInbound => [.Inbound]
  | .OutblockedUpdate => [.Cloudflare4, .Cloudflare6, .OutBlocked4, .OutBlocked6]
  | _ => []

/-- The operations by their sets. A set that several actions need is written again,
with what it had before. -/
def generateNftops (source : RangeSource) (actions : List AnsibleAction)
    (server : KetServer) : Except BoxError (List (NftSet × NftOp)) :=
  (actions.flatMap setsOf).mapM fun set => do
    .ok (set, ← writeRule source server set)

end NftOperations

section Variables

/-- The variables of a run that its tasks on SSH and on the firewall read. -/
structure AnsibleVars where
  ansibleTasks : List AnsibleAction
  fullSetup : Bool
  ansiblePort : Option UInt16
  sshPort : UInt16
  cloudflareProxied : Bool
  cloudflareOnly : Bool
  newPorts : List UInt16
  nftops : List (NftSet × NftOp)

def effectiveProxied (server : KetServer) (cfState : CFState) : Bool :=
  if cfState.tooDeep && server.cloudflareProxied then false else server.cloudflareProxied

def newPorts (server : KetServer) (conn : AnsibleConn) (isFullSetup : Bool)
    (rebaseData : Option RebaseData) : List UInt16 :=
  (if conn.ansiblePort ≠ some server.sshPort then [server.sshPort] else []) ++
    if isFullSetup then [Constants.unboundPort, Constants.uiPort, Constants.subPort]
    else
      match rebaseData with
      | none => []
      | some data =>
          (data.addedInbounds.map Inbound.port).filter fun port =>
            !(data.removedInbounds.map Inbound.port).contains port

def writeAnsibleVars (source : RangeSource) (run : AnsibleRun) :
    Except BoxError AnsibleVars := do
  let server := run.server
  let cfState ← okOr server.cfstate
    "Couldn't unwrap Cloudflare state data in write_ansible_vars."
  let actions := sortUnique run.actions
  let isFullSetup := actions.contains .FullSetup
  let conn ← okOr server.ansibleConn
    ("Couldn't unwrap AnsibleConn of server " ++ server.name ++ " for AnsibleVars.")
  let nftops ← generateNftops source actions server
  .ok
    { ansibleTasks := actions
      fullSetup := isFullSetup
      ansiblePort := conn.ansiblePort
      sshPort := server.sshPort
      cloudflareProxied := effectiveProxied server cfState
      cloudflareOnly := cfState.cloudflareOnly
      newPorts := newPorts server conn isFullSetup run.rebaseData
      nftops }

end Variables

section Prepared

variable {source : RangeSource} {server : KetServer} {set : NftSet} {op : NftOp}

theorem writeRule_sshPre (h : writeRule source server .SshPre = .ok op) :
    ∃ conn port, server.ansibleConn = some conn ∧ conn.ansiblePort = some port ∧
      op = .ssh [port, server.sshPort].dedup := by
  simp only [writeRule, generateSshRule, bind_eq_ok_iff, okOr_eq_ok_iff] at h
  obtain ⟨conn, hconn, port, hport, h⟩ := h
  refine ⟨conn, port, hconn, hport, ?_⟩
  split at h
  · rename_i hne
    cases h
    rw [List.dedup_cons_of_notMem (by simpa using hne)]
    rfl
  · rename_i heq
    cases h
    rw [not_not.mp heq]
    simp

theorem mem_generateNftops {actions : List AnsibleAction} {nftops : List (NftSet × NftOp)}
    (h : generateNftops source actions server = .ok nftops) (hmem : (set, op) ∈ nftops) :
    writeRule source server set = .ok op := by
  have hall := mapM_eq_ok_iff.mp h
  obtain ⟨set', _, hwrite⟩ := exists_left_of_mem hall hmem
  obtain ⟨op', hop, heq⟩ := bind_eq_ok_iff.mp hwrite
  cases heq
  exact hop

/-- What the variables of a run are, in the terms of the server it is for. -/
structure Prepared (source : RangeSource) (run : AnsibleRun) (vars : AnsibleVars) : Prop where
  tasks : vars.ansibleTasks = sortUnique run.actions
  sshPort : vars.sshPort = run.server.sshPort
  port : run.server.ansibleConn.bind AnsibleConn.ansiblePort = vars.ansiblePort
  op : ∀ set op, vars.nftops.lookup set = some op → writeRule source run.server set = .ok op

theorem writeAnsibleVars_prepared {run : AnsibleRun} {vars : AnsibleVars}
    (h : writeAnsibleVars source run = .ok vars) : Prepared source run vars := by
  simp only [writeAnsibleVars, bind_eq_ok_iff, okOr_eq_ok_iff] at h
  obtain ⟨cfState, _, conn, hconn, nftops, hops, h⟩ := h
  cases h
  refine ⟨rfl, rfl, ?_, ?_⟩
  · rw [hconn]
    rfl
  · intro set op hlookup
    obtain ⟨l₁, l₂, rfl, _⟩ := List.lookup_eq_some_iff.mp hlookup
    exact mem_generateNftops hops (List.mem_append_right l₁ List.mem_cons_self)

end Prepared

end Xcplane.PlaybookVars
