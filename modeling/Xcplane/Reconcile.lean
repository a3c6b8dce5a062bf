import Xcplane.Cloudflare
import Xcplane.Deploy
import Xcplane.Merge

/-!
Reconciling the cloud the daemon manages with a new one: the deletion round, the
merge of the servers, their Cloudflare states and the deployment of a Rebase.
-/

namespace Xcplane.Reconcile

open Xcplane.Types
open Xcplane.Lib
open Xcplane.Cloudflare
open Xcplane.Merge
open Xcplane.RebaseDiff
open Xcplane.Deploy

variable {δ : Type}

/-- The data directories of the servers, by server name, with contents in `δ`. The
inventory and the variables that a run writes there for itself are not counted. -/
abbrev Dirs (δ : Type) := String → Option δ

structure MergeOrder (old new : Cloud) where
  names : List String
  enumerates : Enumerates names fun n => n ∈ old.names ∨ n ∈ new.names

/-- What surrounds one reconciliation. `removeDirAll` says what removing a
directory comes to and, when it fails, what is left of the directory. -/
structure ReconEnv (δ : Type) where
  forms : Forms
  removeDirAll : String → δ → Except (BoxError × Option δ) Unit
  cf : CfAnswers
  cfList : Option String
  remote : Remote

/-- What a reconciliation comes to, with the remote runs it started and those it
joined. -/
structure ReconOutcome (δ : Type) where
  result : Except BoxError Cloud
  dirs : Dirs δ
  started : List AnsibleRun
  joined : List AnsibleRun

def removeDir (removeDirAll : String → δ → Except (BoxError × Option δ) Unit) (dirs : Dirs δ)
    (name : String) : Dirs δ × Option BoxError :=
  match dirs name with
  | none => (dirs, none)
  | some d =>
      match removeDirAll name d with
      | .ok () => (Function.update dirs name none, none)
      | .error (e, left) => (Function.update dirs name left, some e)

def deletionRound (removeDirAll : String → δ → Except (BoxError × Option δ) Unit)
    (old new : Cloud) : List String → Dirs δ → Dirs δ × Option BoxError
  | [], dirs => (dirs, none)
  | n :: rest, dirs =>
      match old.collected n, new.collected n with
      | some s, none =>
          match removeDir removeDirAll dirs s.name with
          | (dirs, some e) => (dirs, some e)
          | (dirs, none) => deletionRound removeDirAll old new rest dirs
      | _, _ => deletionRound removeDirAll old new rest dirs

structure Taken where
  domains : List Host
  ips : List IpAddr

def takenAfterDeletion (old new : Cloud) : List String → Taken → Taken
  | [], taken => taken
  | n :: rest, taken =>
      match old.collected n, new.collected n with
      | some s, none =>
          takenAfterDeletion old new rest
            { domains := taken.domains.filter (· ≠ s.domain)
              ips := taken.ips.filter (· ≠ s.ip) }
      | _, _ => takenAfterDeletion old new rest taken

def takenBy (old : Cloud) : Taken where
  domains := old.servers.map KetServer.domain
  ips := old.servers.map KetServer.ip

def modeText : ReconMode → String
  | .Reload => "Reload"
  | .Remap => "Remap"
  | .Rebase => "Rebase"

/-- The round of additions and modifications: the merged servers, and the pairs
to reconfigure. -/
def mergeRound (mode : ReconMode) (old new : Cloud) : List String → Taken →
    Except BoxError (List KetServer × List (KetServer × KetServer))
  | [], _ => .ok ([], [])
  | n :: rest, taken =>
      match old.collected n, new.collected n with
      | none, some s => do
          ensure (!taken.domains.contains s.domain)
            ("[ " ++ modeText mode ++ " ] The new server '" ++ s.name ++
              "' has the same domain used in the current cloud.")
          ensure (!taken.ips.contains s.ip)
            ("[ " ++ modeText mode ++ " ] The new server '" ++ s.name ++
              "' uses an existing IP in the cloud.")
          let (merged, pairs) ← mergeRound mode old new rest
            { domains := s.domain :: taken.domains
              ips := s.ip :: taken.ips }
          .ok (s :: merged, pairs)
      | some o, some s => do
          let m ← mergeServer mode new.settings.inboundSet o s
          let (merged, pairs) ← mergeRound mode old new rest taken
          .ok (m :: merged,
            if mode = .Rebase ∧ s.state = .Production then (o, m) :: pairs else pairs)
      | some _, none => mergeRound mode old new rest taken
      | none, none => .error "Couldn't merge new & old clouds."

def refreshPairs (cloud : Cloud) (pairs : List (KetServer × KetServer)) :
    List (KetServer × KetServer) :=
  pairs.map fun p => (p.1, (cloud.collected p.2.name).getD p.2)

/-- What follows the merge: the Cloudflare states, and the remote side. -/
def finish (env : ReconEnv δ) (mode : ReconMode) (rebaseData : Option (List (String × RebaseData)))
    (finalCloud : Cloud) (pairs : List (KetServer × KetServer)) (dirs : Dirs δ) :
    ReconOutcome δ :=
  match prepareCloudflareState env.forms env.cf env.cfList finalCloud with
  | .error e =>
      { result := .error e
        dirs
        started := []
        joined := [] }
  | .ok cloud =>
      match mode, rebaseData with
      | .Rebase, none =>
          { result := .error "RebaseData is empty in a Rebase action."
            dirs
            started := []
            joined := [] }
      | .Rebase, some data =>
          let d := deployRebase env.forms env.remote data (refreshPairs cloud pairs) cloud
          { result := d.result
            dirs
            started := d.started
            joined := d.joined }
      | _, _ =>
          { result := .ok cloud
            dirs
            started := []
            joined := [] }

def reconcileCloud (env : ReconEnv δ) (old new : Cloud) (mode : ReconMode)
    (rebaseData : Option (List (String × RebaseData))) (o : MergeOrder old new)
    (dirs : Dirs δ) : ReconOutcome δ :=
  if old.servers.isEmpty then
    { result := prepareCloudflareState env.forms env.cf env.cfList new
      dirs
      started := []
      joined := [] }
  else
    match deletionRound env.removeDirAll old new o.names dirs with
    | (dirs, some e) =>
        { result := .error e
          dirs
          started := []
          joined := [] }
    | (dirs, none) =>
        match mergeRound mode old new o.names
            (takenAfterDeletion old new o.names (takenBy old)) with
        | .error e =>
            { result := .error e
              dirs
              started := []
              joined := [] }
        | .ok (servers, pairs) =>
            finish env mode rebaseData { servers, settings := new.settings } pairs dirs

end Xcplane.Reconcile
