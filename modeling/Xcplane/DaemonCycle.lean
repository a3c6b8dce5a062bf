import Xcplane.CloudConfig
import Xcplane.Database
import Xcplane.Reconcile

/-!
The daemon over its cycles: it starts from what the database holds, answers the
commands that change its cloud, and keeps nothing in memory when it stops.
-/

namespace Xcplane.DaemonCycle

open Xcplane.Types
open Xcplane.Lib
open Xcplane.Server
open Xcplane.CloudConfig
open Xcplane.Database
open Xcplane.Merge
open Xcplane.RebaseDiff
open Xcplane.Reconcile

variable {δ : Type}

/-- The daemon between two cycles. It has no cloud while it is not running. -/
structure Daemon (δ : Type) where
  cloud : Option Cloud
  db : Db
  dirs : Dirs δ

/-- What one cycle meets outside the daemon: the random draws, the orders in
which maps are gone through, the failures of the database and the text of the
config file. -/
structure Surroundings (δ : Type) where
  env : ReconEnv δ
  draws : Nat → SecretDraw
  order : ∀ old new, MergeOrder old new
  inboundOrder : InboundOrder
  iteration : ∀ new, Iteration new
  fault : Nat → Option BoxError
  cloudConfig : Except BoxError String

/-- The commands that go through a check of the config file. -/
inductive DaemonComm
  | Restart
  | Reload
  | Remap
  | Rebase (opts : RebaseOpts)

/-- The code tells whether the workspace is prepared anew before the next cycle. -/
structure DaemonNext where
  code : Int8
  mode : ReconMode
  newCloud : Cloud
  rebaseData : Option (List (String × RebaseData))

def initState (newCloud : Cloud) : DaemonNext where
  code := Constants.exitOk
  mode := .Reload
  newCloud := newCloud
  rebaseData := none

def checkAndBackup (w : Surroundings δ) (currCloud : Cloud) (config : TCloud)
    (command : DaemonComm) : Except BoxError DaemonNext := do
  let newCloud ← parseCloudConfig w.env.forms w.draws config
  match command with
  | .Restart =>
      .ok { code := Constants.exitRestart, mode := .Reload, newCloud, rebaseData := none }
  | .Reload =>
      .ok { code := Constants.exitReload, mode := .Reload, newCloud, rebaseData := none }
  | .Remap =>
      .ok { code := Constants.exitRemap, mode := .Remap, newCloud, rebaseData := none }
  | .Rebase opts => do
      let rebaseData ← createRebaseData w.env.forms opts w.inboundOrder currCloud newCloud
        (w.iteration newCloud)
      .ok
        { code := Constants.exitRebase
          mode := .Rebase
          newCloud
          rebaseData := some rebaseData }

theorem checkAndBackup_parsed {w : Surroundings δ} {currCloud : Cloud} {config : TCloud}
    {command : DaemonComm} {next : DaemonNext}
    (h : checkAndBackup w currCloud config command = .ok next) :
    parseCloudConfig w.env.forms w.draws config = .ok next.newCloud := by
  obtain ⟨new, hparse, h⟩ := bind_eq_ok_iff.mp h
  rw [hparse]
  cases command with
  | Rebase opts =>
      obtain ⟨data, _, h⟩ := bind_eq_ok_iff.mp h
      cases h
      rfl
  | Restart =>
      cases h
      rfl
  | Reload =>
      cases h
      rfl
  | Remap =>
      cases h
      rfl

/-- A cycle up to its monitoring. A cloud that cannot be written back stops the
daemon, one that cannot be applied leaves it with the old one. -/
def daemonCore (w : Surroundings δ) (next : DaemonNext) (oldCloud : Cloud) (db : Db)
    (dirs : Dirs δ) : Daemon δ :=
  let out := reconcileCloud w.env oldCloud next.newCloud next.mode next.rebaseData
    (w.order oldCloud next.newCloud) dirs
  match out.result with
  | .error _ =>
      { cloud := some oldCloud
        db
        dirs := out.dirs }
  | .ok reconCloud =>
      match updateDb w.env.forms w.fault w.cloudConfig reconCloud db with
      | (db, none) =>
          { cloud := some reconCloud
            db
            dirs := out.dirs }
      | (db, some _) =>
          { cloud := none
            db
            dirs := out.dirs }

/-- The first cycle, which takes the old cloud from the database. -/
def startDaemon (w : Surroundings δ) (config : TCloud) (d : Daemon δ) : Daemon δ :=
  match parseCloudConfig w.env.forms w.draws config with
  | .error _ => { d with cloud := none }
  | .ok newCloud =>
      let db := createDb d.db
      match loadCloud w.env.forms db with
      | .error _ => { d with cloud := none, db }
      | .ok oldCloud =>
          daemonCore w (initState newCloud) oldCloud db d.dirs

def answer (w : Surroundings δ) (config : TCloud) (command : DaemonComm) (d : Daemon δ) :
    Daemon δ :=
  match d.cloud with
  | none => d
  | some currCloud =>
      match checkAndBackup w currCloud config command with
      | .error _ => d
      | .ok next => daemonCore w next currCloud (createDb d.db) d.dirs

inductive Event (δ : Type)
  | start (w : Surroundings δ) (config : TCloud)
  | command (w : Surroundings δ) (config : TCloud) (command : DaemonComm)
  | stop

def step (d : Daemon δ) : Event δ → Daemon δ
  | .start w config => startDaemon w config d
  | .command w config command => answer w config command d
  | .stop => { d with cloud := none }

/-- The cloud that the config file of an event declares. -/
def Event.declares : Event δ → Cloud → Prop
  | .start w config, new => parseCloudConfig w.env.forms w.draws config = .ok new
  | .command w config _, new => parseCloudConfig w.env.forms w.draws config = .ok new
  | .stop, _ => False

section Outcomes

/-- How a cycle ends after the reconciliation `out`. -/
inductive Cycled (w : Surroundings δ) (old : Cloud) (db : Db) (out : ReconOutcome δ)
    (d' : Daemon δ) : Prop
  | failed (e : BoxError) (hresult : out.result = .error e)
      (hd : d' = { cloud := some old, db, dirs := out.dirs })
  | stopped (c : Cloud) (db' : Db) (e : BoxError) (hresult : out.result = .ok c)
      (hupdate : updateDb w.env.forms w.fault w.cloudConfig c db = (db', some e))
      (hd : d' = { cloud := none, db := db', dirs := out.dirs })
  | applied (c : Cloud) (db' : Db) (hresult : out.result = .ok c)
      (hupdate : updateDb w.env.forms w.fault w.cloudConfig c db = (db', none))
      (hd : d' = { cloud := some c, db := db', dirs := out.dirs })

theorem daemonCore_cycled (w : Surroundings δ) (next : DaemonNext) (old : Cloud) (db : Db)
    (dirs : Dirs δ) :
    Cycled w old db
      (reconcileCloud w.env old next.newCloud next.mode next.rebaseData
        (w.order old next.newCloud) dirs)
      (daemonCore w next old db dirs) := by
  unfold daemonCore
  simp only
  split
  · rename_i e hresult
    exact .failed e hresult rfl
  · rename_i c hresult
    split
    · rename_i db' hupdate
      exact .applied c db' hresult hupdate rfl
    · rename_i db' e hupdate
      exact .stopped c db' e hresult hupdate rfl

/-- How the daemon starts: without a cloud, or with a Reload of what the database
holds. -/
inductive Began (w : Surroundings δ) (config : TCloud) (d d' : Daemon δ) : Prop
  | unparsed (hd : d' = { d with cloud := none })
  | unloaded (hd : d' = { d with cloud := none, db := createDb d.db })
  | cycled (new old : Cloud) (hparse : parseCloudConfig w.env.forms w.draws config = .ok new)
      (hload : loadCloud w.env.forms (createDb d.db) = .ok old)
      (hd : d' = daemonCore w (initState new) old
        (createDb d.db) d.dirs)

theorem startDaemon_began (w : Surroundings δ) (config : TCloud) (d : Daemon δ) :
    Began w config d (startDaemon w config d) := by
  unfold startDaemon
  split
  · exact .unparsed rfl
  · rename_i new hparse
    simp only
    split
    · exact .unloaded rfl
    · rename_i old hload
      exact .cycled new old hparse hload rfl

/-- What a command does: nothing, or a cycle from the cloud that the daemon has. -/
inductive Commanded (w : Surroundings δ) (config : TCloud) (command : DaemonComm)
    (d d' : Daemon δ) : Prop
  | off (hcloud : d.cloud = none) (hd : d' = d)
  | refused (curr : Cloud) (e : BoxError) (hcloud : d.cloud = some curr)
      (hcheck : checkAndBackup w curr config command = .error e) (hd : d' = d)
  | accepted (curr : Cloud) (next : DaemonNext) (hcloud : d.cloud = some curr)
      (hcheck : checkAndBackup w curr config command = .ok next)
      (hd : d' = daemonCore w next curr (createDb d.db) d.dirs)

theorem answer_commanded (w : Surroundings δ) (config : TCloud) (command : DaemonComm)
    (d : Daemon δ) : Commanded w config command d (answer w config command d) := by
  unfold answer
  split
  · rename_i hcloud
    exact .off hcloud rfl
  · rename_i curr hcloud
    split
    · rename_i e hcheck
      exact .refused curr e hcloud hcheck rfl
    · rename_i next hcheck
      exact .accepted curr next hcloud hcheck rfl

end Outcomes

end Xcplane.DaemonCycle
