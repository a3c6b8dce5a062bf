import Mathlib.Data.List.Pairwise
import Xcplane.CloudflareAccount
import Xcplane.Lib.Triple
import Xcplane.RemoteSide

/-!
The inbounds of a panel and the tasks of a Rebase that delete and add them through its API.
Any request and any other task may fail, a request with or without having taken effect.
-/

namespace Xcplane.PanelInbounds

open Xcplane.Types
open Xcplane.Lib
open Xcplane.RebaseDiff
open Xcplane.Deploy
open Xcplane.CloudflareAccount (Fate)

section Panel

/-- A client of an inbound: the one that the health checks use, or one of those generated. -/
inductive Client
  | mother (subId : String)
  | user (totalGB expiryTime : Int) (comment : String)
  deriving DecidableEq, Repr

structure XuiInbound where
  id : Nat
  remark : String
  port : UInt16
  kind : InboundKind
  clients : List Client
  deriving DecidableEq, Repr

/-- The panel lists its inbounds by their IDs, which it never gives out again. -/
structure Panel where
  inbounds : List XuiInbound
  nextId : Nat
  sorted : inbounds.Pairwise fun x y => x.id < y.id
  fresh : ∀ x ∈ inbounds, x.id < nextId

namespace Panel

variable {p : Panel} {remark : String} {port : UInt16} {kind : InboundKind}
  {clients : List Client} {id : Nat}

def empty : Panel where
  inbounds := []
  nextId := 1
  sorted := List.Pairwise.nil
  fresh _ hx := nomatch hx

theorem sorted_append (x : XuiInbound) (hx : x.id = p.nextId) :
    (p.inbounds ++ [x]).Pairwise fun x y => x.id < y.id := by
  rw [List.pairwise_append]
  refine ⟨p.sorted, List.pairwise_singleton .., ?_⟩
  intro y hy z hz
  rw [List.mem_singleton.mp hz, hx]
  exact p.fresh y hy

theorem fresh_append (x : XuiInbound) (hx : x.id = p.nextId) :
    ∀ y ∈ p.inbounds ++ [x], y.id < p.nextId + 1 := by
  intro y hy
  rcases List.mem_append.mp hy with hy | hy
  · exact Nat.lt_succ_of_lt (p.fresh y hy)
  · rw [List.mem_singleton.mp hy, hx]
    exact Nat.lt_succ_self p.nextId

def add (p : Panel) (remark : String) (port : UInt16) (kind : InboundKind)
    (clients : List Client) : Panel where
  inbounds := p.inbounds ++ [{ id := p.nextId, remark, port, kind, clients }]
  nextId := p.nextId + 1
  sorted := sorted_append _ rfl
  fresh := fresh_append _ rfl

theorem sorted_filter (keep : XuiInbound → Bool) :
    (p.inbounds.filter keep).Pairwise fun x y => x.id < y.id :=
  p.sorted.filter keep

theorem fresh_filter (keep : XuiInbound → Bool) : ∀ x ∈ p.inbounds.filter keep, x.id < p.nextId :=
  fun x hx => p.fresh x (List.mem_of_mem_filter hx)

def del (p : Panel) (id : Nat) : Panel where
  inbounds := p.inbounds.filter fun x => x.id != id
  nextId := p.nextId
  sorted := sorted_filter _
  fresh := fresh_filter _

/-- The inbound with the ID gets further clients. -/
def grant (id : Nat) (clients : List Client) (x : XuiInbound) : XuiInbound :=
  if x.id = id then { x with clients := x.clients ++ clients } else x

@[simp]
theorem id_grant (x : XuiInbound) : (grant id clients x).id = x.id := by
  unfold grant
  split <;> rfl

theorem sorted_grant (id : Nat) (clients : List Client) :
    (p.inbounds.map (grant id clients)).Pairwise fun x y => x.id < y.id := by
  rw [List.pairwise_map]
  simpa using p.sorted

theorem fresh_grant (id : Nat) (clients : List Client) :
    ∀ x ∈ p.inbounds.map (grant id clients), x.id < p.nextId := by
  intro x hx
  obtain ⟨y, hy, rfl⟩ := List.mem_map.mp hx
  rw [id_grant]
  exact p.fresh y hy

def addClients (p : Panel) (id : Nat) (clients : List Client) : Panel where
  inbounds := p.inbounds.map (grant id clients)
  nextId := p.nextId
  sorted := sorted_grant id clients
  fresh := fresh_grant id clients

end Panel

end Panel

section Play

/-- The panel, the facts of the play, and the fates of the requests and tasks to come. -/
structure World where
  panel : Panel
  inboundId : String → Option Nat
  inboundNames : List String
  fates : List Fate

abbrev Play := EStateM BoxError World

variable {α : Type}

/-- A request whose fate is the next one, and which is answered where none is left. -/
def request (effect : Panel → Except BoxError (α × Panel)) : Play α := fun w =>
  let fates := w.fates.tail
  match w.fates.headD .answered, effect w.panel with
  | .refused e, _ => .error e { w with fates }
  | .lost e, .ok (_, panel) => .error e { w with panel, fates }
  | _, .error e => .error e { w with fates }
  | .answered, .ok (a, panel) => .ok a { w with panel, fates }

/-- Tasks in a row that do not work on the inbounds of the panel. -/
def aside : Play PUnit :=
  request fun p => .ok (⟨⟩, p)

/-- The name of a fact has letters, digits and underscores only. -/
def isIdentifier (name : String) : Bool :=
  name.toList.all fun c => c.isAlphanum || c == '_'

def setFact (x : XuiInbound) : Play PUnit := fun w =>
  if isIdentifier x.remark then
    .ok ⟨⟩ { w with
      inboundId := Function.update w.inboundId x.remark (some x.id)
      inboundNames := w.inboundNames ++ [x.remark] }
  else .error ("The variable name 'inbound_id_" ++ x.remark ++ "' is not valid.") w

def lookupId (name : String) : Play Nat := fun w =>
  match w.inboundId name with
  | some id => .ok id w
  | none => .error ("No variable found with this name: inbound_id_" ++ name) w

def listInbounds : Play (List XuiInbound) :=
  request fun p => .ok (p.inbounds, p)

def setFacts : Play PUnit := do
  let xuiGetInbounds ← listInbounds
  xuiGetInbounds.forM setFact

/-- `xui_del_inbound_subtasks.yaml`. -/
def delInboundSubtasks (theInbound : Inbound) : Play PUnit := do
  setFacts
  let id ← lookupId theInbound.name
  request fun p => .ok (⟨⟩, p.del id)
  aside

/-- `xui_del_inbound.yaml`. -/
def delInbound (removed : List Inbound) : Play PUnit := do
  removed.forM delInboundSubtasks
  aside

/-- `client_generator.py`, without what it draws at random. -/
def clientGenerator (theInbound : Inbound) : List Client :=
  List.replicate theInbound.total.toNat
    (.user (theInbound.traffic.toNat * 1024 * 1024 * 1024)
      (-theInbound.expiry.toNat * 3600 * 24 * 1000) theInbound.comment)

variable (refuses : Panel → Inbound → Bool)

/-- The panel may have its own objections to an inbound. -/
def postInbound (subId : String) (theInbound : Inbound) : Play Nat :=
  request fun p =>
    if refuses p theInbound then .error "xui_add_inbound.json.success is false"
    else .ok (p.nextId,
      p.add theInbound.name theInbound.port theInbound.kind [.mother subId])

/-- `xui_add_inbound_subtasks.yaml`. -/
def addInboundSubtasks (secrets : Secrets) (theInbound : Inbound) : Play PUnit := do
  match secrets.motherSubids.lookup theInbound.name with
  | none => throw ("object of type 'dict' has no attribute '" ++ theInbound.name ++ "'")
  | some subId => do
      aside
      let id ← postInbound refuses subId theInbound
      aside
      let _ ← request fun p => .ok (p.inbounds.find? fun x => x.id == id, p)
      aside

def ensurePresent (item : Inbound) : Play PUnit := fun w =>
  if w.inboundNames.contains item.name then .ok ⟨⟩ w else .error "Assertion failed" w

/-- `xui_add_client_subtasks.yaml`. -/
def addClientSubtasks (theInbound : Inbound) : Play PUnit := do
  let id ← lookupId theInbound.name
  aside
  request fun p => .ok (⟨⟩, p.addClients id (clientGenerator theInbound))
  aside

/-- `xui_add_client.yaml`. -/
def addClient (added : List Inbound) : Play PUnit := do
  setFacts
  added.forM ensurePresent
  aside
  added.forM addClientSubtasks

/-- `xui_add_inbound.yaml`. -/
def addInbound (secrets : Secrets) (added : List Inbound) : Play PUnit := do
  added.forM (addInboundSubtasks refuses secrets)
  addClient added
  aside

/-- The task of an action of a Rebase. -/
def task (run : AnsibleRun) : AnsibleAction → Play PUnit
  | .DelInbound =>
      match run.rebaseData with
      | some data => delInbound data.removedInbounds
      | none => throw "'None' has no attribute 'removed_inbounds'"
  | .AddInbound =>
      match run.rebaseData with
      | some data => addInbound refuses run.server.secrets data.addedInbounds
      | none => throw "'None' has no attribute 'added_inbounds'"
  | _ => aside

/-- `master_playbook.yaml`. -/
def masterPlaybook (run : AnsibleRun) : Play PUnit :=
  run.actions.forM (task refuses run)

def start (panel : Panel) (fates : List Fate) : World where
  panel
  inboundId _ := none
  inboundNames := []
  fates

def panelOf {ε : Type} : EStateM.Result ε World α → Panel
  | .ok _ w => w.panel
  | .error _ w => w.panel

end Play

end Xcplane.PanelInbounds
