import Xcplane.DaemonCycle

/-!
Provisioning and destroying servers within a cycle: which servers the commands
accept, and what the tasks that end well change in the cloud that the daemon holds
and in the database.
-/

namespace Xcplane.Provision

open Xcplane.Types
open Xcplane.Database
open Xcplane.Reconcile
open Xcplane.DaemonCycle

variable {δ : Type}

/-- The server that an expansion provisions. Without a name it is the first one
that was never in production. -/
def expandTarget (c : Cloud) (name : Option String) : Except BoxError KetServer :=
  let fresh (s : KetServer) : Bool :=
    s.state = .Offgrid && s.enabled && s.secrets.xuiToken.isNone
  match name with
  | some name =>
      match c.firstOf name with
      | none => .error ("A server with name '" ++ name ++ "' does not exist in the cloud.")
      | some s =>
          match s.state, s.enabled, s.secrets.xuiToken with
          | _, false, _ => .error ("Server '" ++ name ++ "' is not enabled.")
          | .Offgrid, true, none => .ok s
          | .Production, _, _ => .error ("Server '" ++ name ++ "' is already a production unit.")
          | _, _, some _ =>
              .error ("Server '" ++ name ++ "' has been a production unit before. " ++
                "Do a Reload first, to refresh the secrets.")
  | none =>
      match c.servers.find? fresh with
      | some s => .ok s
      | none =>
          .error ("No fresh and enabled offgrid server is available for setup. Add a new " ++
            "server to the cloud config and reload the daemon.")

/-- The server that a destruction is performed on. -/
def destroyTarget (c : Cloud) (name : String) : Except BoxError KetServer :=
  match c.firstOf name with
  | none => .error ("Server '" ++ name ++ "' does not exist in the cloud.")
  | some s =>
      match s.state, s.enabled with
      | .Offgrid, _ => .error ("Server '" ++ s.name ++ "' is already Offgrid.")
      | .Production, false => .error ("Server '" ++ s.name ++ "' is disabled.")
      | .Production, true => .ok s

def connAt (port : UInt16) (conn : AnsibleConn) : AnsibleConn where
  ansibleHost := conn.ansibleHost
  ansiblePort := some port
  ansibleUser := conn.ansibleUser
  ansibleConnection := none

/-- What marking a server changes of it in memory, and the error that ends it. A
token that is already there cannot be set again. -/
def produced (xuiToken : String) (s : KetServer) : KetServer × Option BoxError :=
  let s := { s with state := .Production }
  match s.secrets.xuiToken with
  | some _ => (s, some xuiToken)
  | none =>
      let s := { s with secrets := { s.secrets with xuiToken := some xuiToken } }
      match s.ansibleConn with
      | none => (s, some "Couldn't get AnsibleConn in mark_server_production.")
      | some conn => ({ s with ansibleConn := some (connAt s.sshPort conn) }, none)

def retired (s : KetServer) : KetServer × Option BoxError :=
  let s := { s with state := .Offgrid }
  match s.ansibleConn with
  | none => (s, some "Couldn't get AnsibleConn in mark_server_production.")
  | some conn => ({ s with ansibleConn := some (connAt Constants.ansiblePort conn) }, none)

def putServer (c : Cloud) (s : KetServer) : Cloud :=
  { c with servers := c.servers.map fun x => if x.name = s.name then s else x }

/-- `UPDATE servers SET state = .., xui_token = .. WHERE name = ..`. -/
def storeState (name : String) (state : ServerState) (xuiToken : Option String) (db : Db) : Db :=
  { db with
    servers := db.servers.modify name (fun r => { r with state := state.toText, xuiToken })
      fun _ => rfl }

/-- What the marking of a server meets: the failures of the database and of the
config file, and what removing a directory comes to. -/
structure Marking (δ : Type) where
  update : Option BoxError
  cloudConfig : Option BoxError
  removeDirAll : String → δ → Except (BoxError × Option δ) Unit

def markServerProduction (k : Marking δ) (xuiToken : String) (c : Cloud) (s : KetServer)
    (d : Daemon δ) : Daemon δ :=
  let marked := produced xuiToken s
  let d := { d with cloud := some (putServer c marked.1) }
  match marked.2, k.update with
  | none, none => { d with db := storeState s.name .Production (some xuiToken) d.db }
  | _, _ => d

def markServerOffgrid (k : Marking δ) (c : Cloud) (s : KetServer) (d : Daemon δ) : Daemon δ :=
  let marked := retired s
  let d := { d with cloud := some (putServer c marked.1) }
  match marked.2, k.update with
  | none, none =>
      let d := { d with db := storeState s.name .Offgrid none d.db }
      match k.cloudConfig with
      | some _ => d
      | none => { d with dirs := (removeDir k.removeDirAll d.dirs s.name).1 }
  | _, _ => d

/-- The events of a daemon with its provisioning tasks. A task ends in the cycle
that started it, since the next cycle aborts it. -/
inductive Event (δ : Type)
  | cycle (e : DaemonCycle.Event δ)
  | fullSetup (k : Marking δ) (name : Option String) (xuiToken : String)
  | destroyServer (k : Marking δ) (name : String)

def step (d : Daemon δ) : Event δ → Daemon δ
  | .cycle e => DaemonCycle.step d e
  | .fullSetup k name xuiToken =>
      match d.cloud with
      | none => d
      | some c =>
          match expandTarget c name with
          | .error _ => d
          | .ok s => markServerProduction k xuiToken c s d
  | .destroyServer k name =>
      match d.cloud with
      | none => d
      | some c =>
          match destroyTarget c name with
          | .error _ => d
          | .ok s => markServerOffgrid k c s d

section Targets

variable {c : Cloud} {s : KetServer}

theorem expandTarget_ok {name : Option String} (h : expandTarget c name = .ok s) :
    s ∈ c.servers ∧ s.state = .Offgrid ∧ s.enabled = true ∧ s.secrets.xuiToken = none := by
  unfold expandTarget at h
  cases name with
  | some name =>
      simp only at h
      split at h
      · cases h
      · rename_i s' hs'
        split at h
        · cases h
        · rename_i hstate henabled htoken
          cases h
          exact ⟨(Cloud.firstOf_eq_some hs').1, hstate, henabled, htoken⟩
        · cases h
        · cases h
  | none =>
      simp only at h
      split at h
      · rename_i s' hs'
        cases h
        have hfresh := List.find?_some hs'
        simp only [Bool.and_eq_true, decide_eq_true_eq, Option.isNone_iff_eq_none] at hfresh
        exact ⟨List.mem_of_find?_eq_some hs', hfresh.1.1, hfresh.1.2, hfresh.2⟩
      · cases h

theorem destroyTarget_ok {name : String} (h : destroyTarget c name = .ok s) :
    s ∈ c.servers ∧ s.state = .Production ∧ s.enabled = true := by
  unfold destroyTarget at h
  split at h
  · cases h
  · rename_i s' hs'
    split at h
    · cases h
    · cases h
    · rename_i hstate henabled
      cases h
      exact ⟨(Cloud.firstOf_eq_some hs').1, hstate, henabled⟩

theorem mem_putServer {x : KetServer} (h : x ∈ (putServer c s).servers) :
    x = s ∨ (x ∈ c.servers ∧ x.name ≠ s.name) := by
  obtain ⟨y, hy, hx⟩ := List.mem_map.mp h
  split at hx
  · exact .inl hx.symm
  · rename_i hname
    subst hx
    exact .inr ⟨hy, hname⟩

end Targets

section Memory

variable {xuiToken token : String} {s : KetServer} {conn : AnsibleConn}

/-- A server with its state and a token set. -/
def withToken (xuiToken : String) (s : KetServer) : KetServer :=
  { s with state := .Production, secrets := { s.secrets with xuiToken := some xuiToken } }

theorem produced_of_token (h : s.secrets.xuiToken = some token) :
    produced xuiToken s = ({ s with state := .Production }, some xuiToken) := by
  simp only [produced, h]

theorem produced_without_conn (h : s.secrets.xuiToken = none) (hconn : s.ansibleConn = none) :
    produced xuiToken s =
      (withToken xuiToken s, some "Couldn't get AnsibleConn in mark_server_production.") := by
  simp only [produced, h, hconn, withToken]

theorem produced_of_conn (h : s.secrets.xuiToken = none) (hconn : s.ansibleConn = some conn) :
    produced xuiToken s =
      ({ withToken xuiToken s with ansibleConn := some (connAt s.sshPort conn) }, none) := by
  simp only [produced, h, hconn]
  rfl

/-- The ways in which marking a server in memory can end. -/
theorem produced_cases (xuiToken : String) (s : KetServer) :
    (∃ token, s.secrets.xuiToken = some token ∧
        produced xuiToken s = ({ s with state := .Production }, some xuiToken)) ∨
      (s.secrets.xuiToken = none ∧ s.ansibleConn = none ∧
        produced xuiToken s =
          (withToken xuiToken s, some "Couldn't get AnsibleConn in mark_server_production.")) ∨
      ∃ conn, s.secrets.xuiToken = none ∧ s.ansibleConn = some conn ∧
        produced xuiToken s =
          ({ withToken xuiToken s with ansibleConn := some (connAt s.sshPort conn) }, none) := by
  cases htoken : s.secrets.xuiToken with
  | some token => exact .inl ⟨token, rfl, produced_of_token htoken⟩
  | none =>
      cases hconn : s.ansibleConn with
      | none => exact .inr (.inl ⟨rfl, rfl, produced_without_conn htoken hconn⟩)
      | some conn => exact .inr (.inr ⟨conn, rfl, rfl, produced_of_conn htoken hconn⟩)

/-- Marking a server changes its state, its token and its connection. -/
theorem produced_same (xuiToken : String) (s : KetServer) :
    (produced xuiToken s).1 = { s with
      state := .Production
      ansibleConn := (produced xuiToken s).1.ansibleConn
      secrets := { s.secrets with xuiToken := (produced xuiToken s).1.secrets.xuiToken } } := by
  rcases produced_cases xuiToken s with ⟨token, -, heq⟩ | ⟨-, -, heq⟩ | ⟨conn, -, -, heq⟩
  · rw [heq]
  · rw [heq, withToken]
  · rw [heq, withToken]

theorem retired_of_conn (hconn : s.ansibleConn = some conn) :
    retired s =
      ({ s with
          state := .Offgrid
          ansibleConn := some (connAt Constants.ansiblePort conn) }, none) := by
  simp only [retired, hconn]

theorem retired_same (s : KetServer) :
    (retired s).1 = { s with state := .Offgrid, ansibleConn := (retired s).1.ansibleConn } := by
  cases hconn : s.ansibleConn with
  | none => simp only [retired, hconn]
  | some conn => rw [retired_of_conn hconn]

end Memory

section Marked

variable {k : Marking δ} {xuiToken : String} {c : Cloud} {s : KetServer} {d : Daemon δ}

theorem markServerProduction_cloud :
    (markServerProduction k xuiToken c s d).cloud = some (putServer c (produced xuiToken s).1) := by
  unfold markServerProduction
  simp only
  split
  · rfl
  · rfl

theorem markServerOffgrid_cloud :
    (markServerOffgrid k c s d).cloud = some (putServer c (retired s).1) := by
  unfold markServerOffgrid
  simp only
  split
  · split
    · rfl
    · rfl
  · rfl

theorem produced_name : (produced xuiToken s).1.name = s.name := by
  rw [produced_same]

theorem produced_healthPath :
    (produced xuiToken s).1.secrets.healthPath = s.secrets.healthPath := by
  rw [produced_same]

end Marked

end Xcplane.Provision
