import Xcplane.Provision

/-!
The command loop of the daemon with its full-setup and destruction tasks: the
requests in its channel, the registry of tasks, and the inquiry by which a task that
has completed finds out whether it is the last one.
-/

namespace Xcplane.SetupTasks

open Xcplane.Types
open Xcplane.DaemonCycle
open Xcplane.Provision

inductive TaskEntry
  | FullSetup (server : String)
  | DestroyServer (server : String)
  deriving DecidableEq, Repr

/-- How far a task is: it works until its remote run has ended and the server is
marked, then it waits for the answer to its inquiry. One that finds another task
running ends, and one that does not sends a Reload and waits for its answer. -/
inductive Stage
  | working
  | inquiring
  | clear
  | reloading
  | ended
  deriving DecidableEq, Repr

structure Task where
  entry : TaskEntry
  cycle : Nat
  stage : Stage
  deriving DecidableEq, Repr

/-- The commands that come through the socket. All but the ones that concern the
tasks are `Other`. -/
inductive CliCommand
  | Expand (server : Option String)
  | Destroy (server : String)
  | Check (comm : DaemonComm)
  | Shutdown
  | Other

inductive Request
  | cli (command : CliCommand)
  | SetupInquiry (entry : TaskEntry) (sender : Nat)
  | Reload (sender : Nat)

/-- The daemon in its command loop. Tasks are numbered in the order in which they
are spawned, and a handle in the registry is the number of its task. `completed` says
that a task has completed in this cycle, and `reloadSent` that a Reload was sent since
the last one did. -/
structure Core where
  running : Bool
  cycle : Nat
  cloud : Cloud
  tasks : List Task
  taskmap : List (TaskEntry × Nat)
  queue : List Request
  completed : Bool
  reloadSent : Bool

/-- What a command comes to that goes through a check of the config file: it is
refused, it ends the cycle with the cloud of the next one, or the daemon stops. -/
inductive Verdict
  | refused
  | applied (cloud : Cloud)
  | stopped

def isFullSetup : TaskEntry → Bool
  | .FullSetup _ => true
  | .DestroyServer _ => false

def isFinished (d : Core) (i : Nat) : Bool :=
  d.tasks[i]?.all fun t => t.stage = .ended

def setStage (i : Nat) (stage : Stage) (d : Core) : Core :=
  { d with tasks := d.tasks.modify i fun t => { t with stage } }

def spawnTask (entry : TaskEntry) (d : Core) : Core :=
  { d with
    tasks := d.tasks ++ [⟨entry, d.cycle, .working⟩]
    taskmap :=
      if entry ∈ d.taskmap.map Prod.fst then d.taskmap
      else d.taskmap ++ [(entry, d.tasks.length)] }

def removeEntry (entry : TaskEntry) (d : Core) : Core :=
  { d with taskmap := d.taskmap.filter fun p => p.1 ≠ entry }

/-- Only one full setup runs at a time. -/
def expandCloud (name : Option String) (d : Core) : Core :=
  match expandTarget d.cloud name with
  | .error _ => d
  | .ok s =>
      match d.taskmap.find? fun p => isFullSetup p.1 with
      | none => spawnTask (.FullSetup s.name) d
      | some (entry, i) =>
          if isFinished d i then spawnTask (.FullSetup s.name) (removeEntry entry d) else d

def performServerDestruction (name : String) (d : Core) : Core :=
  match destroyTarget d.cloud name with
  | .error _ => d
  | .ok s =>
      if .DestroyServer s.name ∈ d.taskmap.map Prod.fst then d
      else spawnTask (.DestroyServer s.name) d

/-- The inquirer is removed from the registry before the others are looked at. -/
def setupInquiry (entry : TaskEntry) (sender : Nat) (d : Core) : Core :=
  let d := removeEntry entry d
  let found := d.taskmap.any fun p => !isFinished d p.2
  match d.tasks[sender]?.map Task.stage with
  | some .inquiring => setStage sender (if found then .ended else .clear) d
  | _ => d

/-- The answer to the Reload of a task, whatever it is, ends the task. -/
def answerReload (sender : Nat) (d : Core) : Core :=
  match d.tasks[sender]?.map Task.stage with
  | some .reloading => setStage sender .ended d
  | _ => d

def abortAll (d : Core) : Core :=
  { d with
    tasks := d.tasks.mapIdx fun i t =>
      if i ∈ d.taskmap.map Prod.snd then { t with stage := .ended } else t
    taskmap := [] }

def checked (verdict : Verdict) (d : Core) : Core :=
  match verdict with
  | .refused => d
  | .applied cloud =>
      { abortAll d with
        cycle := d.cycle + 1
        cloud
        completed := false
        reloadSent := false }
  | .stopped => { abortAll d with running := false }

def answer (verdict : Verdict) (d : Core) : Request → Core
  | .cli (.Expand name) => expandCloud name d
  | .cli (.Destroy name) => performServerDestruction name d
  | .cli (.Check _) => checked verdict d
  | .cli .Shutdown => { abortAll d with running := false }
  | .cli .Other => d
  | .SetupInquiry entry sender => setupInquiry entry sender d
  | .Reload sender => checked verdict (answerReload sender d)

/-- Marking the server of a task. Its change is seen in the cloud of its own cycle. -/
def markServer (t : Task) (xuiToken : String) (d : Core) : Core :=
  if t.cycle = d.cycle then
    match t.entry with
    | .FullSetup name =>
        match d.cloud.firstOf name with
        | none => d
        | some s => { d with cloud := putServer d.cloud (produced xuiToken s).1 }
    | .DestroyServer name =>
        match d.cloud.firstOf name with
        | none => d
        | some s => { d with cloud := putServer d.cloud (retired s).1 }
  else d

def isReload : CliCommand → Bool
  | .Check .Reload => true
  | _ => false

/-- A command is sent, the daemon processes the first request, a task completes or
fails, and one that was told that no other is running sends its Reload. A task that
fails may have marked its server before. -/
inductive Event
  | send (command : CliCommand)
  | process (verdict : Verdict)
  | complete (i : Nat) (xuiToken : String)
  | fail (i : Nat) (marked : Option String)
  | reload (i : Nat)

def step (d : Core) : Event → Core
  | .send command =>
      { d with
        queue := d.queue ++ [.cli command]
        reloadSent := d.reloadSent || isReload command }
  | .process verdict =>
      match d.running, d.queue with
      | true, request :: rest => answer verdict { d with queue := rest } request
      | _, _ => d
  | .complete i xuiToken =>
      match d.tasks[i]? with
      | some ⟨entry, cycle, .working⟩ =>
          let d := markServer ⟨entry, cycle, .working⟩ xuiToken (setStage i .inquiring d)
          { d with
            queue := d.queue ++ [.SetupInquiry entry i]
            completed := true
            reloadSent := false }
      | _ => d
  | .fail i marked =>
      match d.tasks[i]? with
      | some ⟨entry, cycle, .working⟩ =>
          let d := setStage i .ended d
          match marked with
          | none => d
          | some xuiToken => markServer ⟨entry, cycle, .working⟩ xuiToken d
      | _ => d
  | .reload i =>
      match d.tasks[i]? with
      | some ⟨_, _, .clear⟩ =>
          let d := setStage i .reloading d
          { d with
            queue := d.queue ++ [.Reload i]
            reloadSent := true }
      | _ => d

/-- A cycle at its beginning. -/
def begin (cloud : Cloud) : Core where
  running := true
  cycle := 0
  cloud := cloud
  tasks := []
  taskmap := []
  queue := []
  completed := false
  reloadSent := false

section Tasks

variable {d : Core} {i j : Nat} {stage : Stage} {entry : TaskEntry}

theorem getElem?_setStage : (setStage i stage d).tasks[j]? =
    if i = j then (d.tasks[j]?).map fun t => { t with stage } else d.tasks[j]? := by
  show (d.tasks.modify i _)[j]? = _
  rw [List.getElem?_modify]
  split
  · rfl
  · exact Option.map_id'

theorem getElem?_spawnTask : (spawnTask entry d).tasks[j]? =
    if j = d.tasks.length then some ⟨entry, d.cycle, .working⟩ else d.tasks[j]? := by
  show (d.tasks ++ [_])[j]? = _
  rw [List.getElem?_append]
  split
  · rename_i hlt
    rw [if_neg (by omega)]
  · rename_i hge
    by_cases hj : j = d.tasks.length
    · simp [hj]
    · rw [if_neg hj, List.getElem?_eq_none (by simp; omega), List.getElem?_eq_none (by omega)]

theorem getElem?_abortAll : (abortAll d).tasks[j]? =
    (d.tasks[j]?).map fun t =>
      if j ∈ d.taskmap.map Prod.snd then { t with stage := .ended } else t := by
  show (d.tasks.mapIdx _)[j]? = _
  rw [List.getElem?_mapIdx]

theorem isFinished_eq_true : isFinished d i = true ↔
    ∀ t, d.tasks[i]? = some t → t.stage = .ended := by
  unfold isFinished
  cases d.tasks[i]? with
  | none => simp
  | some t => simp

theorem markServer_frame (t : Task) (xuiToken : String) (d : Core) :
    ∃ cloud, markServer t xuiToken d = { d with cloud } := by
  unfold markServer
  split
  · split
    · split
      · exact ⟨d.cloud, rfl⟩
      · exact ⟨_, rfl⟩
    · split
      · exact ⟨d.cloud, rfl⟩
      · exact ⟨_, rfl⟩
  · exact ⟨d.cloud, rfl⟩

end Tasks

section Starting

variable {d d' : Core} {name : Option String}

/-- What a request that may start a task does: the new task is the last one, and the
channel stays as it is. -/
structure Starts (d d' : Core) : Prop where
  tasks : d'.tasks = d.tasks ∨ ∃ entry, d'.tasks = d.tasks ++ [⟨entry, d.cycle, .working⟩]
  queue : d'.queue = d.queue
  flags : d'.completed = d.completed ∧ d'.reloadSent = d.reloadSent

theorem starts_refl : Starts d d :=
  ⟨.inl rfl, rfl, rfl, rfl⟩

theorem spawnTask_starts {entry : TaskEntry} : Starts d (spawnTask entry d) :=
  ⟨.inr ⟨entry, rfl⟩, rfl, rfl, rfl⟩

theorem expandCloud_starts : Starts d (expandCloud name d) := by
  unfold expandCloud
  split
  · exact starts_refl
  · split
    · exact spawnTask_starts
    · split
      · exact ⟨.inr ⟨_, rfl⟩, rfl, rfl, rfl⟩
      · exact starts_refl

theorem performServerDestruction_starts {name : String} :
    Starts d (performServerDestruction name d) := by
  unfold performServerDestruction
  split
  · exact starts_refl
  · split
    · exact starts_refl
    · exact spawnTask_starts

theorem Starts.getElem? (h : Starts d d') {j : Nat} {t : Task} (ht : d.tasks[j]? = some t) :
    d'.tasks[j]? = some t := by
  rcases h.tasks with htasks | ⟨entry, htasks⟩
  · rw [htasks, ht]
  · have hlt := (List.getElem?_eq_some_iff.mp ht).1
    rw [htasks, List.getElem?_append_left hlt, ht]

end Starting

section Registry

variable {d : Core} {i : Nat} {entry : TaskEntry}

def Registrable : Stage → Prop
  | .working => True
  | .inquiring => True
  | .clear => False
  | .reloading => False
  | .ended => True

/-- The registry holds tasks that were not answered yet, each under its own entry,
and an inquiry names the entry of its sender. -/
structure Registry (d : Core) : Prop where
  keyed : ∀ entry i, (entry, i) ∈ d.taskmap →
    ∃ t, d.tasks[i]? = some t ∧ t.entry = entry ∧ Registrable t.stage
  inquirers : ∀ entry i, .SetupInquiry entry i ∈ d.queue →
    ∃ t, d.tasks[i]? = some t ∧ t.entry = entry

theorem Registry.sameTasks {d' : Core} (h : Registry d) (htasks : d'.tasks = d.tasks)
    (htaskmap : ∀ p ∈ d'.taskmap, p ∈ d.taskmap)
    (hqueue : ∀ entry i, .SetupInquiry entry i ∈ d'.queue → .SetupInquiry entry i ∈ d.queue) :
    Registry d' where
  keyed entry i hp := by
    rw [htasks]
    exact h.keyed entry i (htaskmap _ hp)
  inquirers entry i hr := by
    rw [htasks]
    exact h.inquirers entry i (hqueue entry i hr)

theorem Registry.removeEntry (h : Registry d) : Registry (removeEntry entry d) :=
  h.sameTasks rfl (fun _ hp => List.mem_of_mem_filter hp) fun _ _ hr => hr

theorem Registry.setStage {stage : Stage} (h : Registry d)
    (hstage : Registrable stage ∨ ∀ entry, (entry, i) ∉ d.taskmap) :
    Registry (setStage i stage d) where
  keyed entry j hp := by
    obtain ⟨t, ht, hentry, hregistrable⟩ := h.keyed entry j hp
    rw [getElem?_setStage, ht]
    by_cases hij : i = j
    · subst hij
      rw [if_pos rfl]
      exact ⟨_, rfl, hentry, hstage.resolve_right fun hnone => hnone entry hp⟩
    · rw [if_neg hij]
      exact ⟨t, rfl, hentry, hregistrable⟩
  inquirers entry j hr := by
    obtain ⟨t, ht, hentry⟩ := h.inquirers entry j hr
    rw [getElem?_setStage, ht]
    split
    · exact ⟨_, rfl, hentry⟩
    · exact ⟨t, rfl, hentry⟩

theorem Registry.spawnTask (h : Registry d) : Registry (spawnTask entry d) where
  keyed entry' j hp := by
    rw [getElem?_spawnTask]
    have hmem : (entry', j) ∈ d.taskmap ∨ (entry', j) = (entry, d.tasks.length) := by
      simp only [SetupTasks.spawnTask] at hp
      split at hp
      · exact .inl hp
      · simpa using hp
    rcases hmem with hp | hp
    · obtain ⟨t, ht, hentry⟩ := h.keyed entry' j hp
      have hlt := (List.getElem?_eq_some_iff.mp ht).1
      rw [if_neg (by omega)]
      exact ⟨t, ht, hentry⟩
    · cases hp
      rw [if_pos rfl]
      exact ⟨_, rfl, rfl, trivial⟩
  inquirers entry' j hr := by
    obtain ⟨t, ht, hentry⟩ := h.inquirers entry' j hr
    have hlt := (List.getElem?_eq_some_iff.mp ht).1
    rw [getElem?_spawnTask, if_neg (by omega)]
    exact ⟨t, ht, hentry⟩

theorem Registry.abortAll (h : Registry d) : Registry (abortAll d) where
  keyed entry j hp := by cases hp
  inquirers entry j hr := by
    obtain ⟨t, ht, hentry⟩ := h.inquirers entry j hr
    rw [getElem?_abortAll, ht]
    refine ⟨_, rfl, ?_⟩
    split
    · exact hentry
    · exact hentry

theorem Registry.checked {verdict : Verdict} (h : Registry d) : Registry (checked verdict d) := by
  cases verdict with
  | refused => exact h
  | applied cloud => exact ⟨h.abortAll.keyed, h.abortAll.inquirers⟩
  | stopped => exact ⟨h.abortAll.keyed, h.abortAll.inquirers⟩

theorem Registry.expandCloud {name : Option String} (h : Registry d) :
    Registry (expandCloud name d) := by
  unfold SetupTasks.expandCloud
  split
  · exact h
  · split
    · exact h.spawnTask
    · split
      · exact h.removeEntry.spawnTask
      · exact h

theorem Registry.performServerDestruction {name : String} (h : Registry d) :
    Registry (performServerDestruction name d) := by
  unfold SetupTasks.performServerDestruction
  split
  · exact h
  · split
    · exact h
    · exact h.spawnTask

/-- After its inquiry a task is not registered any more. -/
theorem Registry.not_mem_removeEntry (h : Registry d)
    (hsender : ∃ t, d.tasks[i]? = some t ∧ t.entry = entry) :
    ∀ entry', (entry', i) ∉ (SetupTasks.removeEntry entry d).taskmap := by
  intro entry' hp
  obtain ⟨hp, hne⟩ := List.mem_filter.mp hp
  obtain ⟨t, ht, hentry⟩ := hsender
  obtain ⟨t', ht', hentry', _⟩ := h.keyed entry' i hp
  rw [ht, Option.some.injEq] at ht'
  subst ht'
  rw [← hentry', hentry] at hne
  simp at hne

theorem Registry.setupInquiry (h : Registry d)
    (hsender : ∃ t, d.tasks[i]? = some t ∧ t.entry = entry) :
    Registry (setupInquiry entry i d) := by
  unfold SetupTasks.setupInquiry
  simp only
  split
  · exact h.removeEntry.setStage (.inr (h.not_mem_removeEntry hsender))
  · exact h.removeEntry

theorem Registry.answerReload (h : Registry d) : Registry (answerReload i d) := by
  have hended : Registrable .ended := trivial
  unfold SetupTasks.answerReload
  split
  · exact h.setStage (.inl hended)
  · exact h

theorem Registry.markServer {t : Task} {xuiToken : String} (h : Registry d) :
    Registry (markServer t xuiToken d) := by
  obtain ⟨cloud, hmark⟩ := markServer_frame t xuiToken d
  rw [hmark]
  exact ⟨h.keyed, h.inquirers⟩

theorem Registry.pop {request : Request} {rest : List Request} (h : Registry d)
    (hqueue : d.queue = request :: rest) : Registry { d with queue := rest } :=
  h.sameTasks rfl (fun _ hp => hp) fun entry i hr => by
    rw [hqueue]
    exact List.mem_cons_of_mem request hr

theorem Registry.answer {verdict : Verdict} {request : Request} {rest : List Request}
    (h : Registry d) (hqueue : d.queue = request :: rest) :
    Registry (answer verdict { d with queue := rest } request) := by
  have hrest := h.pop hqueue
  cases request with
  | cli command =>
      cases command with
      | Expand name => exact hrest.expandCloud
      | Destroy name => exact hrest.performServerDestruction
      | Check comm => exact hrest.checked
      | Shutdown => exact ⟨hrest.abortAll.keyed, hrest.abortAll.inquirers⟩
      | Other => exact hrest
  | SetupInquiry entry sender =>
      refine hrest.setupInquiry (h.inquirers entry sender ?_)
      rw [hqueue]
      exact List.mem_cons_self
  | Reload sender => exact hrest.answerReload.checked

theorem Registry.enqueue {request : Request} (h : Registry d)
    (hsender : ∀ entry i, request = .SetupInquiry entry i →
      ∃ t, d.tasks[i]? = some t ∧ t.entry = entry) (completed reloadSent : Bool) :
    Registry { d with queue := d.queue ++ [request], completed, reloadSent } where
  keyed := h.keyed
  inquirers entry i hr := by
    rcases List.mem_append.mp hr with hr | hr
    · exact h.inquirers entry i hr
    · exact hsender entry i (List.mem_singleton.mp hr).symm

theorem Registry.step (d : Core) (e : Event) (h : Registry d) : Registry (step d e) := by
  cases e with
  | send command =>
      refine h.enqueue ?_ _ _
      rintro _ _ ⟨⟩
  | process verdict =>
      simp only [SetupTasks.step]
      split
      · rename_i hqueue
        exact h.answer hqueue
      · exact h
  | complete i xuiToken =>
      simp only [SetupTasks.step]
      split
      · rename_i entry cycle hi
        have hinquiring : Registrable .inquiring := trivial
        refine (h.setStage (.inl hinquiring)).markServer.enqueue ?_ _ _
        rintro _ _ ⟨⟩
        obtain ⟨cloud, hmark⟩ := markServer_frame ⟨entry, cycle, .working⟩ xuiToken
          (SetupTasks.setStage i .inquiring d)
        refine ⟨⟨entry, cycle, .inquiring⟩, ?_, rfl⟩
        rw [hmark]
        show (SetupTasks.setStage i .inquiring d).tasks[i]? = _
        rw [getElem?_setStage, if_pos rfl, hi]
        rfl
      · exact h
  | fail i marked =>
      simp only [SetupTasks.step]
      split
      · have hended : Registrable .ended := trivial
        split
        · exact h.setStage (.inl hended)
        · exact (h.setStage (.inl hended)).markServer
      · exact h
  | reload i =>
      simp only [SetupTasks.step]
      split
      · rename_i entry cycle hi
        have hnone : ∀ entry, (entry, i) ∉ d.taskmap := by
          intro entry' hp
          obtain ⟨t, ht, _, hregistrable⟩ := h.keyed entry' i hp
          rw [hi, Option.some.injEq] at ht
          subst ht
          exact hregistrable
        refine (h.setStage (.inr hnone)).enqueue ?_ _ _
        rintro _ _ ⟨⟩
      · exact h

theorem registry_begin (cloud : Cloud) : Registry (begin cloud) where
  keyed := by
    rintro _ _ ⟨⟩
  inquirers := by
    rintro _ _ ⟨⟩

end Registry

end Xcplane.SetupTasks
