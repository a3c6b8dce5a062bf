import Xcplane.LatestBackup
import Xcplane.Lib.Threads
import Xcplane.RunFiles
import Xcplane.Specimen

/-!
Any number of Ansible runs at once: each of them is played on the inventory that it has written
itself, as long as no server has two runs of one kind at a time.
-/

namespace Xcplane.RunFiles

open Xcplane.Types
open Xcplane.Lib
open Xcplane.RebaseDiff
open Xcplane.Deploy
open Xcplane.RebasePlan
open Xcplane.Naming
open Xcplane.Stamps

section Jobs

/-- What the daemon runs Ansible for. -/
inductive Job
  | rebase
  | renewal
  | nginxRestart
  | nginxRestoreConfig
  | xrayRestart
  | xrayRestoreDB
  | fullSetup
  | destroyServer
  deriving DecidableEq, Repr

/-- The one action of each job but a Rebase. -/
def Job.action : Job → Option AnsibleAction
  | .rebase => none
  | .renewal => some .Acme
  | .nginxRestart => some .NginxRestart
  | .nginxRestoreConfig => some .NginxRestoreConfig
  | .xrayRestart => some .XrayRestart
  | .xrayRestoreDB => some .XrayRestoreDB
  | .fullSetup => some .FullSetup
  | .destroyServer => some .DestroyServer

/-- The run has the actions of the job: those planned for its server, or the one. -/
def Performs (F : Forms) (run : AnsibleRun) (job : Job) : Prop :=
  match job.action with
  | none => ∃ old, planActions F old run.server run.rebaseData = .ok run.actions
  | some a => run.actions = [a]

end Jobs

section Steps

/-- What a file holds. One that is being written is empty at first. -/
inductive Content
  | empty
  | inventory (hosts : Inventory)
  | text

abbrev Files := RunFile → Option Content

inductive Point
  | absent
  | opened
  | written
  | described
  | pinged (hosts : Option Inventory)
  | played (hosts : Option Inventory)
  | logged
  | ended

/-- A run goes on, at some time, or it fails or is aborted. -/
inductive Event
  | next (now : Stamp)
  | fail

def readInventory (run : AnsibleRun) (files : Files) : Option Inventory :=
  match files (inventoryPath run) with
  | some (.inventory hosts) => some hosts
  | _ => none

def put (files : Files) (file : RunFile) (content : Content) : Files :=
  Function.update files file (some content)

def perform (run : AnsibleRun) (conn : AnsibleConn) (e : Event) (files : Files) (point : Point) :
    Files × Point :=
  match e, point with
  | .next _, .absent => (put files (inventoryPath run) .empty, .opened)
  | .next _, .opened =>
      (put files (inventoryPath run) (.inventory (inventory run.server conn)), .written)
  | .next _, .written => (put files (ansibleVarsPath run) .text, .described)
  | .next _, .described => (files, .pinged (readInventory run files))
  | .next _, .pinged _ => (files, .played (readInventory run files))
  | .next now, .played _ => (put files (stdoutPath run now) .text, .logged)
  | .next now, .logged => (put files (stderrPath run now) .text, .ended)
  | .next _, .ended => (files, .ended)
  | .fail, _ => (files, .ended)

def Point.alive : Point → Bool
  | .absent => false
  | .ended => false
  | _ => true

def Point.over : Point → Bool
  | .ended => true
  | _ => false

variable {ι : Type} (runs : ι → AnsibleRun) (conns : ι → AnsibleConn)

def step [DecidableEq ι] : Threads Files ι Point → ι × Event → Threads Files ι Point :=
  advance fun i e files point => perform (runs i) (conns i) e files point

def start (files : Files) : Threads Files ι Point where
  shared := files
  own _ := .absent

variable (job : ι → Job)

/-- While the run is there, no other one on a server of its name has its job. -/
def OneOfAKind (w : Threads Files ι Point) (e : ι × Event) : Prop :=
  (w.own e.1).over = false → ∀ j, j ≠ e.1 → (w.own j).alive = true →
    (runs j).server.name = (runs e.1).server.name → job j ≠ job e.1

end Steps

section Apart

variable {F : Forms} {run run' : AnsibleRun} {job job' : Job}

/-- What is planned for a Rebase is never the renewal of the certificate alone. -/
theorem planActions_ne_renewal {old new : KetServer} {data : Option RebaseData} :
    planActions F old new data ≠ .ok [.Acme] := by
  intro hplan
  obtain ⟨oldState, newState, -, -, hactions⟩ := planActions_eq_ok_iff.mp hplan
  have hmem : ∀ a, a ∈ specActions F old new → a = .Acme := by
    intro a ha
    have hsorted : a ∈ sortUnique (specActions F old new ++
        proxyActions old new oldState newState ++ outblockActions old new ++
          inboundActions data) := by
      simp only [mem_sortUnique, List.mem_append]
      exact .inl (.inl (.inl ha))
    rw [← hactions] at hsorted
    exact List.mem_singleton.mp hsorted
  have hacme : AnsibleAction.Acme ∈ specActions F old new := by
    have hsorted : AnsibleAction.Acme ∈ sortUnique (specActions F old new ++
        proxyActions old new oldState newState ++ outblockActions old new ++
          inboundActions data) := by
      rw [← hactions]
      exact List.mem_singleton.mpr rfl
    simp only [mem_sortUnique, List.mem_append] at hsorted
    rcases hsorted with ((h | h) | h) | h
    · exact h
    · simp [proxyActions] at h
    · cases mem_outblockActions h
    · have hinbounds := mem_inboundActions h
      simp at hinbounds
  have hnginx : AnsibleAction.Nginx ∈ specActions F old new := by
    simp only [specActions, List.mem_append, List.mem_ite_nil_right] at hacme ⊢
    simp only [List.mem_cons, List.not_mem_nil, reduceCtorEq, or_false, false_or, and_false,
      or_true, and_true] at hacme ⊢
    simp [hacme]
  cases hmem _ hnginx

theorem action_injective : Function.Injective Job.action := by
  intro job job' h
  cases job <;> cases job' <;> first | rfl | cases h

/-- The action of another job is not all that a Rebase does. -/
theorem planActions_ne_action {old new : KetServer} {data : Option RebaseData} {a : AnsibleAction}
    (ha : job.action = some a) : planActions F old new data ≠ .ok [a] := by
  intro hplan
  have hplanned := mem_planned hplan (List.mem_singleton.mpr rfl)
  cases job with
  | rebase => cases ha
  | renewal =>
      cases ha
      exact planActions_ne_renewal hplan
  | _ =>
      cases ha
      exact absurd hplanned (by decide)

/-- Two jobs never have the same actions. -/
theorem job_eq (h : Performs F run job) (h' : Performs F run' job')
    (hactions : run.actions = run'.actions) : job = job' := by
  apply action_injective
  unfold Performs at h h'
  cases ha : job.action with
  | none =>
      cases ha' : job'.action with
      | none => rfl
      | some a' =>
          rw [ha] at h
          rw [ha'] at h'
          obtain ⟨old, hplan⟩ := h
          rw [hactions, h'] at hplan
          exact absurd hplan (planActions_ne_action ha')
  | some a =>
      rw [ha] at h
      cases ha' : job'.action with
      | none =>
          rw [ha'] at h'
          obtain ⟨old, hplan⟩ := h'
          rw [← hactions, h] at hplan
          exact absurd hplan (planActions_ne_action ha)
      | some a' =>
          rw [ha'] at h'
          rw [h, h'] at hactions
          exact congrArg some (List.singleton_injective hactions)

end Apart

section Order

variable {actions : List AnsibleAction}

theorem sortUnique_of_sorted (h : actions.Pairwise fun a b => a.id ≤ b.id ∧ a ≠ b) :
    sortUnique actions = actions := by
  have hsorted : actions.Pairwise fun a b => a.id ≤ b.id := h.imp And.left
  have hnodup : actions.Nodup := h.imp And.right
  rw [sortUnique, hsorted.insertionSort_eq, hnodup.dedup]

/-- The actions of a job are in order as they are. -/
theorem Performs.sorted {F : Forms} {run : AnsibleRun} {job : Job} (h : Performs F run job) :
    sortUnique run.actions = run.actions := by
  apply sortUnique_of_sorted
  unfold Performs at h
  cases ha : job.action with
  | none =>
      rw [ha] at h
      obtain ⟨old, hplan⟩ := h
      obtain ⟨oldState, newState, -, -, hactions⟩ := planActions_eq_ok_iff.mp hplan
      rw [hactions]
      exact sortUnique_pairwise _
  | some a =>
      rw [ha] at h
      rw [h]
      exact List.pairwise_singleton _ _

end Order

section Isolation

variable {ι : Type} {F : Forms} {runs : ι → AnsibleRun} {conns : ι → AnsibleConn}
  {job : ι → Job} {i j : ι} {files files' : Files} {point point' : Point} {e : Event}

/-- The inventory of the run is in its file from when it is written until it is read for the last
time, and what is read is that inventory. -/
def Facts (runs : ι → AnsibleRun) (conns : ι → AnsibleConn) (i : ι) (files : Files) :
    Point → Prop
  | .written => files (inventoryPath (runs i)) =
      some (.inventory (inventory (runs i).server (conns i)))
  | .described => files (inventoryPath (runs i)) =
      some (.inventory (inventory (runs i).server (conns i)))
  | .pinged hosts => files (inventoryPath (runs i)) =
      some (.inventory (inventory (runs i).server (conns i))) ∧
        hosts = some (inventory (runs i).server (conns i))
  | .played hosts => hosts = some (inventory (runs i).server (conns i))
  | _ => True

/-- The facts only depend on the file of the inventory. -/
theorem Facts.of_eq (h : Facts runs conns i files point)
    (hfile : files' (inventoryPath (runs i)) = files (inventoryPath (runs i))) :
    Facts runs conns i files' point := by
  cases point with
  | written => exact hfile.trans h
  | described => exact hfile.trans h
  | pinged hosts => exact ⟨hfile.trans h.1, h.2⟩
  | _ => exact h

theorem inventoryPath_ne_ansibleVarsPath (run : AnsibleRun) :
    inventoryPath run ≠ ansibleVarsPath run := by
  intro h
  have hname : runName run ++ "inventory.json" = runName run ++ "general_vars.yaml" :=
    congrArg RunFile.filename h
  have htext := congrArg String.toList hname
  rw [String.toList_append, String.toList_append] at htext
  exact absurd (List.append_cancel_left htext) (by decide)

theorem readInventory_of_eq {run : AnsibleRun} {hosts : Inventory}
    (h : files (inventoryPath run) = some (.inventory hosts)) :
    readInventory run files = some hosts := by
  rw [readInventory, h]

/-- What a run does, it does to its own files and for its own facts. -/
theorem Facts.perform (h : Facts runs conns i files point) :
    Facts runs conns i (perform (runs i) (conns i) e files point).1
      (perform (runs i) (conns i) e files point).2 := by
  cases e with
  | fail => trivial
  | next now =>
      cases point with
      | opened => exact Function.update_self ..
      | written =>
          exact (Function.update_of_ne (inventoryPath_ne_ansibleVarsPath (runs i)) ..).trans h
      | described => exact ⟨h, readInventory_of_eq h⟩
      | pinged hosts => exact readInventory_of_eq h.1
      | _ => trivial

theorem perform_of_notMem {run : AnsibleRun} {conn : AnsibleConn} {file : RunFile}
    (h : point.over = false → ∀ now, file ∉ paths run now now) :
    (perform run conn e files point).1 file = files file := by
  have hput : ∀ (now : Stamp) {path : RunFile} {content : Content}, point.over = false →
      path ∈ paths run now now → put files path content file = files file := by
    intro now path content hover hpath
    apply Function.update_of_ne
    rintro rfl
    exact h hover now hpath
  cases e with
  | fail => rfl
  | next now =>
      cases point with
      | absent => exact hput now rfl (by simp [paths])
      | opened => exact hput now rfl (by simp [paths])
      | written => exact hput now rfl (by simp [paths])
      | played hosts => exact hput now rfl (by simp [paths])
      | logged => exact hput now rfl (by simp [paths])
      | _ => rfl

theorem facts_of_not_alive (h : point.alive = false) : Facts runs conns i files point := by
  cases point with
  | absent => trivial
  | ended => trivial
  | _ => cases h

theorem noninterference (hjobs : ∀ i, Performs F (runs i) (job i))
    (hproper : ∀ i, isProper (runs i).server.name = true) :
    Noninterference (fun i e files point => perform (runs i) (conns i) e files point)
      (OneOfAKind runs job) (fun _ => True) (Facts runs conns) where
  keeps i e w hw _ := ⟨trivial, (hw.own i).perform⟩
  others i j e w hne hw hkind := by
    cases halive : (w.own j).alive with
    | false => exact facts_of_not_alive halive
    | true =>
        refine (hw.own j).of_eq (perform_of_notMem ?_)
        intro hover now hmem
        have hown : inventoryPath (runs j) ∈ paths (runs j) now now := List.mem_cons_self
        obtain ⟨hname, hactions⟩ :=
          name_and_actions_of_mem_paths (hproper j) (hproper i) hown hmem
        rw [(hjobs j).sorted, (hjobs i).sorted] at hactions
        exact hkind hover j hne halive hname (job_eq (hjobs j) (hjobs i) hactions)

variable [DecidableEq ι]

/-- In every interleaving of any number of runs in which no server has two runs of one kind at a
time, each run is played on the inventory that it has written itself. -/
theorem own_inventory (hjobs : ∀ i, Performs F (runs i) (job i))
    (hproper : ∀ i, isProper (runs i).server.name = true) {files : Files}
    {events : List (ι × Event)}
    (h : Along (step runs conns) (OneOfAKind runs job) (start files) events) (i : ι)
    (hosts : Option Inventory)
    (hread : (run (step runs conns) (start files) events).own i = .pinged hosts ∨
      (run (step runs conns) (start files) events).own i = .played hosts) :
    hosts = some (inventory (runs i).server (conns i)) := by
  have hstart : Holds (fun _ => True) (Facts runs conns) (start files : Threads Files ι Point) :=
    ⟨trivial, fun _ => trivial⟩
  have hrun : Facts runs conns i (run (step runs conns) (start files) events).shared
      ((run (step runs conns) (start files) events).own i) :=
    ((noninterference hjobs hproper).run hstart h).own i
  rcases hread with hread | hread
  · rw [hread] at hrun
    exact hrun.2
  · rw [hread] at hrun
    exact hrun

end Isolation

section Instances

open Xcplane.Specimen

/-- The renewal of the certificate of `alpha`, and a restart of its Nginx. -/
def twoRuns (restart : Bool) : AnsibleRun where
  server := alpha
  actions := if restart then [.NginxRestart] else [.Acme]
  rebaseData := none

def twoJobs (restart : Bool) : Job :=
  if restart then .nginxRestart else .renewal

/-- The two runs take turns until the first of them is played. -/
def turns : List (Bool × Event) :=
  [false, true, true, false, true, false, true, false, true, false].map
    fun i => (i, .next LatestBackup.january)

instance (w : Threads Files Bool Point) (e : Bool × Event) :
    Decidable (OneOfAKind twoRuns twoJobs w e) :=
  inferInstanceAs (Decidable ((w.own e.1).over = false → ∀ _, _))

theorem performs_twoRuns (i : Bool) : Performs forms (twoRuns i) (twoJobs i) := by
  cases i with
  | false => rfl
  | true => rfl

theorem own_inventory_turns :
    ∃ hosts, (run (step twoRuns fun _ => conn "1.1.1.1" 79) (start fun _ => none) turns).own false =
        .played hosts ∧ hosts = some (inventory alpha (conn "1.1.1.1" 79)) := by
  have hturns : Along (step twoRuns fun _ => conn "1.1.1.1" 79) (OneOfAKind twoRuns twoJobs)
      (start fun _ => none) turns := by
    decide +kernel
  exact ⟨_, rfl, own_inventory performs_twoRuns (by decide) hturns false _ (.inr rfl)⟩

end Instances

end Xcplane.RunFiles
