import Xcplane.Lib.Interrupted
import Xcplane.PlaybookVars

/-!
The playbook of a run, as far as it works on sshd and on the firewall of a server,
and what each task leaves behind.
-/

namespace Xcplane.Playbook

open Xcplane.Types
open Xcplane.Lib
open Xcplane.Deploy
open Xcplane.PlaybookVars

section Firewall

inductive Policy
  | accept
  | drop
  deriving DecidableEq, Repr

/-- The rules of the input chain that accept new connections by their port. -/
inductive Rule
  | ssh
  | https
  | inbound
  | cloudflare
  deriving DecidableEq, Repr

/-- `/etc/nftables.conf`, as one of the two templates renders it. -/
structure NftConf where
  policy : Policy
  throughCloudflare : Bool
  deriving DecidableEq, Repr

def NftConf.rules (conf : NftConf) : List Rule :=
  .ssh :: if conf.throughCloudflare then [.cloudflare] else [.https, .inbound]

theorem NftConf.ssh_mem_rules (conf : NftConf) : Rule.ssh ∈ conf.rules :=
  List.mem_cons_self

/-- The table `inet xcplane`. Every rule in it comes from the templates, so a chain
that drops has the rule for SSH. -/
structure Table where
  policy : Policy
  rules : List Rule
  ssh : List UInt16
  inbound : List UInt16
  sshRule : policy = .drop → .ssh ∈ rules

/-- The rules for Cloudflare only accept what comes from its own addresses. -/
def Rule.accepts (t : Table) (port : UInt16) : Rule → Prop
  | .ssh => port ∈ t.ssh
  | .https => port = Constants.nginxPort
  | .inbound => port ∈ t.inbound
  | .cloudflare => False

instance Rule.decidableAccepts (t : Table) (port : UInt16) :
    DecidablePred (Rule.accepts t port)
  | .ssh => inferInstanceAs (Decidable (port ∈ t.ssh))
  | .https => inferInstanceAs (Decidable (port = Constants.nginxPort))
  | .inbound => inferInstanceAs (Decidable (port ∈ t.inbound))
  | .cloudflare => inferInstanceAs (Decidable False)

namespace Table

def empty : Table where
  policy := .accept
  rules := []
  ssh := []
  inbound := []
  sshRule h := by cases h

def accepts (t : Table) (port : UInt16) : Prop :=
  t.policy = .accept ∨ ∃ r ∈ t.rules, r.accepts t port

instance (t : Table) (port : UInt16) : Decidable (t.accepts port) :=
  inferInstanceAs (Decidable (t.policy = .accept ∨ ∃ r ∈ t.rules, r.accepts t port))

/-- `flush-rules.nft`. -/
def flush (t : Table) : Table where
  policy := .accept
  rules := []
  ssh := t.ssh
  inbound := t.inbound
  sshRule h := by cases h

/-- The rules of a file join those that are there, and the sets keep their elements. -/
def load (t : Table) (conf : NftConf) : Table where
  policy := conf.policy
  rules := t.rules ++ conf.rules
  ssh := t.ssh
  inbound := t.inbound
  sshRule _ := List.mem_append_right t.rules conf.ssh_mem_rules

def update (t : Table) : NftOp → Table
  | .ssh ports => { t with ssh := ports }
  | .inbound ports => { t with inbound := ports }
  | .addresses _ _ => t

theorem update_policy (t : Table) (op : NftOp) : (t.update op).policy = t.policy := by
  cases op with
  | ssh ports => rfl
  | inbound ports => rfl
  | addresses set ranges => rfl

theorem accepts_of_mem_ssh {t : Table} {port : UInt16} (h : port ∈ t.ssh) : t.accepts port := by
  cases hpolicy : t.policy with
  | accept => exact .inl hpolicy
  | drop => exact .inr ⟨.ssh, t.sshRule hpolicy, h⟩

/-- What the final rules accept once they are the only ones. -/
theorem accepts_load_flush_iff {t : Table} {port : UInt16} {throughCloudflare : Bool} :
    (t.flush.load ⟨.drop, throughCloudflare⟩).accepts port ↔
      port ∈ t.ssh ∨ throughCloudflare = false ∧
        (port = Constants.nginxPort ∨ port ∈ t.inbound) := by
  cases throughCloudflare with
  | false => simp [accepts, load, flush, NftConf.rules, Rule.accepts]
  | true => simp [accepts, load, flush, NftConf.rules, Rule.accepts]

end Table

end Firewall

section Machine

/-- What a run finds on a server: the ports of other services, those that `ssh.socket`
listens on and will listen on once it is restarted, and the firewall. -/
structure Machine where
  services : List UInt16
  sshd : List UInt16
  socketPorts : List UInt16
  nftConf : Option NftConf
  table : Option Table

namespace Machine

/-- Without the table nothing is dropped. -/
def accepts (m : Machine) (port : UInt16) : Prop :=
  ∀ t ∈ m.table, t.accepts port

instance (m : Machine) (port : UInt16) : Decidable (m.accepts port) :=
  inferInstanceAs (Decidable (∀ t ∈ m.table, t.accepts port))

/-- sshd listens on the port, and the input chain accepts new connections to it. -/
def Reaches (m : Machine) (port : UInt16) : Prop :=
  port ∈ m.sshd ∧ m.accepts port

instance (m : Machine) (port : UInt16) : Decidable (m.Reaches port) :=
  inferInstanceAs (Decidable (port ∈ m.sshd ∧ m.accepts port))

def sshSet (m : Machine) : List UInt16 :=
  match m.table with
  | none => []
  | some t => t.ssh

theorem accepts_of_table {m : Machine} {t : Table} {port : UInt16} (h : m.table = some t) :
    m.accepts port ↔ t.accepts port := by
  simp [accepts, h]

theorem sshSet_of_table {m : Machine} {t : Table} (h : m.table = some t) : m.sshSet = t.ssh := by
  rw [sshSet, h]

theorem accepts_of_mem {m : Machine} {port : UInt16} (hset : port ∈ m.sshSet) :
    m.accepts port := by
  intro t ht
  apply Table.accepts_of_mem_ssh
  rwa [sshSet_of_table ht] at hset

theorem reaches_of_mem {m : Machine} {port : UInt16} (hsshd : port ∈ m.sshd)
    (hset : port ∈ m.sshSet) : m.Reaches port :=
  ⟨hsshd, accepts_of_mem hset⟩

end Machine

end Machine

section Tasks

/-- What a task does, as far as sshd and the firewall are concerned. -/
inductive Work
  | elsewhere
  | checkPorts (ports : List UInt16)
  | deployConf (conf : NftConf)
  | deleteConf
  | flushRules
  | reloadNftables
  | applyOp (op : Option NftOp)
  | flushRuleset
  | deleteSocketConf
  | deploySocketConf (ports : Option (List UInt16))
  | restartSocket
  | waitFor (port : UInt16)
  deriving DecidableEq, Repr

/-- The machine after the task, `none` where the task fails. An operation fails without
its table or without an element, and what a template reads must be defined. -/
def Work.perform : Work → Machine → Option Machine
  | .elsewhere, m => some m
  | .checkPorts ports, m =>
      if ports.all fun port => port ∉ m.services ∧ port ∉ m.sshd then some m else none
  | .deployConf conf, m => some { m with nftConf := some conf }
  | .deleteConf, m => some { m with nftConf := none }
  | .flushRules, m => some { m with table := m.table.map Table.flush }
  | .reloadNftables, m =>
      m.nftConf.map fun conf => { m with table := some ((m.table.getD Table.empty).load conf) }
  | .applyOp none, _ => none
  | .applyOp (some op), m =>
      if op.isEmpty then none
      else m.table.map fun t => { m with table := some (t.update op) }
  | .flushRuleset, m => some { m with table := none }
  | .deleteSocketConf, m => some { m with socketPorts := [Constants.ansiblePort] }
  | .deploySocketConf ports, m => ports.map fun ports => { m with socketPorts := ports }
  | .restartSocket, m => some { m with sshd := m.socketPorts }
  | .waitFor port, m => if m.Reaches port then some m else none

/-- A task under its number in the file it comes from. -/
structure Task where
  file : AnsibleAction
  number : Nat
  work : Work
  deriving DecidableEq, Repr

def step (t : Task) : Machine → Option Machine :=
  t.work.perform

/-- The task was done. -/
def Done (file : AnsibleAction) (number : Nat) (done : List Task) : Prop :=
  ∃ t ∈ done, t.file = file ∧ t.number = number

instance (file : AnsibleAction) (number : Nat) (done : List Task) :
    Decidable (Done file number done) :=
  inferInstanceAs (Decidable (∃ t ∈ done, t.file = file ∧ t.number = number))

end Tasks

section Files

variable (vars : AnsibleVars)

/-- A file that neither works on sshd nor on the firewall. -/
def elsewhere (file : AnsibleAction) : List Task :=
  [⟨file, 1, .elsewhere⟩]

def nftOp (set : NftSet) : Work :=
  .applyOp (vars.nftops.lookup set)

def throughCloudflare : Bool :=
  vars.cloudflareOnly && vars.cloudflareProxied

def checkPorts : List Task :=
  [⟨.PortsCheck, 2, .checkPorts vars.newPorts⟩]

def firewallBootstrap : List Task :=
  [⟨.FirewallBootstrap, 1, .elsewhere⟩,
   ⟨.FirewallBootstrap, 2, .elsewhere⟩,
   ⟨.FirewallBootstrap, 3, .elsewhere⟩,
   ⟨.FirewallBootstrap, 4, .elsewhere⟩,
   ⟨.FirewallBootstrap, 5, .deployConf ⟨.accept, throughCloudflare vars⟩⟩,
   ⟨.FirewallBootstrap, 6, .flushRules⟩,
   ⟨.FirewallBootstrap, 7, .reloadNftables⟩]

def outblockedUpdate : List Task :=
  [⟨.OutblockedUpdate, 1, nftOp vars .Cloudflare4⟩,
   ⟨.OutblockedUpdate, 2, nftOp vars .Cloudflare6⟩,
   ⟨.OutblockedUpdate, 3, nftOp vars .OutBlocked4⟩,
   ⟨.OutblockedUpdate, 4, nftOp vars .OutBlocked6⟩]

def delInbound : List Task :=
  [⟨.DelInbound, 1, .elsewhere⟩,
   ⟨.DelInbound, 2, nftOp vars .Inbound⟩]

def addInbound : List Task :=
  [⟨.AddInbound, 1, .elsewhere⟩,
   ⟨.AddInbound, 2, .elsewhere⟩,
   ⟨.AddInbound, 3, nftOp vars .Inbound⟩]

def firewall : List Task :=
  [⟨.Firewall, 1, .elsewhere⟩,
   ⟨.Firewall, 2, .deployConf ⟨.drop, throughCloudflare vars⟩⟩,
   ⟨.Firewall, 3, .flushRules⟩,
   ⟨.Firewall, 4, .reloadNftables⟩]

/-- The socket first listens on both ports, and on the new one alone at the end. -/
def sshSetup : List Task :=
  [⟨.SSH, 1, .elsewhere⟩,
   ⟨.SSH, 2, .deleteSocketConf⟩,
   ⟨.SSH, 3, .deploySocketConf (vars.ansiblePort.map fun port => [port, vars.sshPort].dedup)⟩,
   ⟨.SSH, 4, nftOp vars .SshPre⟩,
   ⟨.SSH, 5, .restartSocket⟩,
   ⟨.SSH, 6, .waitFor vars.sshPort⟩,
   ⟨.SSH, 7, .elsewhere⟩,
   ⟨.SSH, 8, .elsewhere⟩,
   ⟨.SSH, 9, .deploySocketConf (some [vars.sshPort])⟩,
   ⟨.SSH, 10, .restartSocket⟩,
   ⟨.SSH, 11, nftOp vars .SshPost⟩]

def baseSetup : List Task :=
  checkPorts vars ++ elsewhere .DnsReset ++ elsewhere .Basics ++ elsewhere .Cloudflare ++
    elsewhere .Acme ++ elsewhere .Nginx ++ elsewhere .DoH ++ firewallBootstrap vars ++
    outblockedUpdate vars

/-- The installation of the panel has no action of its own. -/
def fullSetup : List Task :=
  baseSetup vars ++ elsewhere .FullSetup ++ elsewhere .XuiAuth ++ elsewhere .PanelSettings ++
    addInbound vars ++ elsewhere .Bootstrap ++ elsewhere .Fail2ban ++ firewall vars ++
    sshSetup vars

def destroyServer : List Task :=
  [⟨.DestroyServer, 1, .elsewhere⟩,
   ⟨.DestroyServer, 6, .flushRuleset⟩,
   ⟨.DestroyServer, 8, .deleteConf⟩,
   ⟨.DestroyServer, 8, .deleteSocketConf⟩,
   ⟨.DestroyServer, 10, .restartSocket⟩,
   ⟨.DestroyServer, 11, .waitFor Constants.ansiblePort⟩]

def taskFile : AnsibleAction → List Task
  | .PortsCheck => checkPorts vars
  | .FirewallBootstrap => firewallBootstrap vars
  | .OutblockedUpdate => outblockedUpdate vars
  | .BaseSetup => baseSetup vars
  | .FullSetup => fullSetup vars
  | .DelInbound => delInbound vars
  | .AddInbound => addInbound vars
  | .Firewall => firewall vars
  | .SSH => sshSetup vars
  | .DestroyServer => destroyServer
  | file => elsewhere file

/-- The tasks of the master playbook, in the order in which they run. -/
def playbook : List Task :=
  vars.ansibleTasks.flatMap (taskFile vars)

end Files

end Xcplane.Playbook
