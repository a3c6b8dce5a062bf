import Xcplane.ReloadRace
import Xcplane.Connections

/-!
The remote runs of the setup and destruction tasks: that no two of them exclude each
other in progress, and which servers a full setup is started on.
-/

namespace Xcplane.SetupExclusion

open Xcplane.Types
open Xcplane.Lib
open Xcplane.DaemonCycle
open Xcplane.Provision
open Xcplane.SetupTasks
open Xcplane.ReloadRace

section Model

/-- The command loop and the tasks whose remote run was begun. A task first counts
down, and it can only end after that. -/
structure Work where
  core : Core
  begun : List Nat

inductive Event
  | core (e : SetupTasks.Event)
  | startRun (i : Nat)

def step (w : Work) : Event → Work
  | .core (.complete i xuiToken) =>
      if i ∈ w.begun then { w with core := SetupTasks.step w.core (.complete i xuiToken) } else w
  | .core (.fail i marked) =>
      if i ∈ w.begun then { w with core := SetupTasks.step w.core (.fail i marked) } else w
  | .core e => { w with core := SetupTasks.step w.core e }
  | .startRun i =>
      match w.core.tasks[i]? with
      | some ⟨_, _, .working⟩ => { w with begun := i :: w.begun }
      | _ => w

def startWork (cloud : Cloud) : Work where
  core := begin cloud
  begun := []

end Model

section Property

/-- The server that an entry of the registry is about. -/
def serverOf : TaskEntry → String
  | .FullSetup name => name
  | .DestroyServer name => name

def Fresh (s : KetServer) : Prop :=
  s.enabled = true ∧ s.state = .Offgrid ∧ s.secrets.xuiToken = none

instance : DecidablePred Fresh := fun s =>
  inferInstanceAs (Decidable (s.enabled = true ∧ s.state = .Offgrid ∧ s.secrets.xuiToken = none))

def InProgress (w : Work) (i : Nat) (t : Task) : Prop :=
  w.core.tasks[i]? = some t ∧ t.stage = .working ∧ i ∈ w.begun

/-- Two full setups exclude each other, and a full setup and the destruction of the
same server. -/
def Conflicting : TaskEntry → TaskEntry → Prop
  | .FullSetup _, .FullSetup _ => True
  | .FullSetup name, .DestroyServer name' => name = name'
  | .DestroyServer name, .FullSetup name' => name = name'
  | .DestroyServer _, .DestroyServer _ => False

def Exclusive (w : Work) : Prop :=
  ∀ (i j : Nat) (t t' : Task), InProgress w i t → InProgress w j t' → i ≠ j →
    ¬ Conflicting t.entry t'.entry

/-- The run of a full setup starts on a fresh server of the cloud. -/
def StartsFresh (w : Work) : Event → Prop
  | .startRun i => ∀ t ∈ w.core.tasks[i]?, t.stage = .working → i ∉ w.begun →
      isFullSetup t.entry = true →
        t.cycle = w.core.cycle ∧
          ∃ s ∈ w.core.cloud.servers, s.name = serverOf t.entry ∧ Fresh s
  | .core _ => True

def Excludes (w : Work) (e : Event) : Prop :=
  Exclusive (step w e) ∧ StartsFresh w e

def SparesRun (w : Work) : Event → Prop
  | .core e => Spares w.core e
  | .startRun _ => True

/-- A cloud that a command applies has servers of different names. -/
def Named : SetupTasks.Event → Prop
  | .process (.applied cloud) => cloud.names.Nodup
  | _ => True

def NamedRun : Event → Prop
  | .core e => Named e
  | .startRun _ => True

instance (w : Work) : ∀ e, Decidable (SparesRun w e)
  | .core e => inferInstanceAs (Decidable (Spares w.core e))
  | .startRun _ => isTrue trivial

end Property

section Marking

variable {d : Core} {c : Cloud} {s x : KetServer} {t : Task} {xuiToken : String}

theorem markServer_tasks (t : Task) (xuiToken : String) (d : Core) :
    (markServer t xuiToken d).tasks = d.tasks ∧
      (markServer t xuiToken d).cycle = d.cycle := by
  obtain ⟨cloud, hmark⟩ := markServer_frame t xuiToken d
  rw [hmark]
  exact ⟨rfl, rfl⟩

theorem names_putServer : (putServer c s).names = c.names := by
  show (c.servers.map _).map KetServer.name = c.servers.map KetServer.name
  rw [List.map_map]
  apply List.map_congr_left
  intro y _
  simp only [Function.comp_apply]
  split
  · rename_i hname
    exact hname.symm
  · rfl

theorem mem_putServer_of_ne (hx : x ∈ c.servers) (hname : x.name ≠ s.name) :
    x ∈ (putServer c s).servers :=
  List.mem_map.mpr ⟨x, hx, if_neg hname⟩

theorem retired_name : (retired s).1.name = s.name := by
  simp only [retired]
  split <;> rfl

/-- Marking the server of a task leaves the other servers of the cloud as they are. -/
theorem markServer_cloud :
    (markServer t xuiToken d).cloud.names = d.cloud.names ∧
      ∀ x ∈ d.cloud.servers, x.name ≠ serverOf t.entry →
        x ∈ (markServer t xuiToken d).cloud.servers := by
  have hput : ∀ name s s', d.cloud.firstOf name = some s → s'.name = s.name →
      (putServer d.cloud s').names = d.cloud.names ∧
        ∀ x ∈ d.cloud.servers, x.name ≠ name → x ∈ (putServer d.cloud s').servers := by
    intro name s s' hs hname
    refine ⟨names_putServer, fun x hx hne => mem_putServer_of_ne hx ?_⟩
    rw [hname, (Cloud.firstOf_eq_some hs).2]
    exact hne
  simp only [markServer]
  split
  · cases hentry : t.entry with
    | FullSetup name =>
        simp only [serverOf]
        cases hs : d.cloud.firstOf name with
        | none => exact ⟨rfl, fun _ hx _ => hx⟩
        | some s => exact hput name s _ hs produced_name
    | DestroyServer name =>
        simp only [serverOf]
        cases hs : d.cloud.firstOf name with
        | none => exact ⟨rfl, fun _ hx _ => hx⟩
        | some s => exact hput name s _ hs retired_name
  · exact ⟨rfl, fun _ hx _ => hx⟩

end Marking

section Invariant

variable {d d' : Core} {t t' : Task} {i j : Nat}

/-- What a task at work needs of its server. -/
def Needs : TaskEntry → KetServer → Prop
  | .FullSetup _, s => Fresh s
  | .DestroyServer _, s => s.enabled = true ∧ s.state = .Production

/-- The cloud has the server of the task in the state in which the task was started. -/
def Suits (d : Core) (t : Task) : Prop :=
  t.cycle = d.cycle ∧
    ∃ s ∈ d.cloud.servers, s.name = serverOf t.entry ∧ Needs t.entry s

structure Steady (d : Core) : Prop where
  tracked : Tracked d
  names : d.cloud.names.Nodup
  suits : ∀ (i : Nat) (t : Task), d.tasks[i]? = some t → t.stage = .working → Suits d t

/-- Two tasks at work are about different servers. -/
theorem Steady.server_ne (h : Steady d) (ht : d.tasks[i]? = some t) (hworking : t.stage = .working)
    (ht' : d.tasks[j]? = some t') (hworking' : t'.stage = .working) (hij : i ≠ j) :
    serverOf t.entry ≠ serverOf t'.entry := by
  intro hname
  obtain ⟨-, s, hs, hsname, hneeds⟩ := h.suits i t ht hworking
  obtain ⟨-, s', hs', hsname', hneeds'⟩ := h.suits j t' ht' hworking'
  have hsame : s = s' :=
    List.inj_on_of_nodup_map h.names hs hs' (by rw [hsname, hsname', hname])
  subst hsame
  have hentry : t.entry = t'.entry := by
    cases hentry : t.entry with
    | FullSetup name =>
        cases hentry' : t'.entry with
        | FullSetup name' =>
            rw [hentry, hentry'] at hname
            exact congrArg TaskEntry.FullSetup hname
        | DestroyServer name' =>
            rw [hentry] at hneeds
            rw [hentry'] at hneeds'
            cases hneeds.2.1.symm.trans hneeds'.2
    | DestroyServer name =>
        cases hentry' : t'.entry with
        | FullSetup name' =>
            rw [hentry] at hneeds
            rw [hentry'] at hneeds'
            cases hneeds'.2.1.symm.trans hneeds.2
        | DestroyServer name' =>
            rw [hentry, hentry'] at hname
            exact congrArg TaskEntry.DestroyServer hname
  have hmem := h.tracked.active i t ht (.inl hworking)
  have hmem' := h.tracked.active j t' ht' (.inl hworking')
  rw [← hentry] at hmem'
  have hindex := List.inj_on_of_nodup_map h.tracked.keys hmem hmem' rfl
  exact hij (Prod.mk.inj hindex).2

theorem Steady.not_conflicting (h : Steady d) (ht : d.tasks[i]? = some t)
    (hworking : t.stage = .working) (ht' : d.tasks[j]? = some t') (hworking' : t'.stage = .working)
    (hij : i ≠ j) : ¬ Conflicting t.entry t'.entry := by
  intro hconflict
  have hne := h.server_ne ht hworking ht' hworking' hij
  have hmem := h.tracked.active i t ht (.inl hworking)
  have hmem' := h.tracked.active j t' ht' (.inl hworking')
  cases hentry : t.entry with
  | FullSetup name =>
      cases hentry' : t'.entry with
      | FullSetup name' =>
          rw [hentry] at hmem
          rw [hentry'] at hmem'
          have hsame := h.tracked.oneSetup _ hmem _ hmem' rfl rfl
          exact hij (Prod.mk.inj hsame).2
      | DestroyServer name' =>
          rw [hentry, hentry'] at hconflict hne
          exact hne hconflict
  | DestroyServer name =>
      cases hentry' : t'.entry with
      | FullSetup name' =>
          rw [hentry, hentry'] at hconflict hne
          exact hne hconflict
      | DestroyServer name' =>
          rw [hentry, hentry'] at hconflict
          exact hconflict

theorem Steady.sameCloud (h : Steady d) (htracked : Tracked d') (hcloud : d'.cloud = d.cloud)
    (hcycle : d'.cycle = d.cycle)
    (htasks : ∀ (i : Nat) (t : Task), d'.tasks[i]? = some t → t.stage = .working →
      d.tasks[i]? = some t ∨ Suits d t) : Steady d' where
  tracked := htracked
  names := hcloud ▸ h.names
  suits i t ht hworking := by
    have hsuits : Suits d t := by
      rcases htasks i t ht hworking with hold | hnew
      · exact h.suits i t hold hworking
      · exact hnew
    rw [Suits, hcloud, hcycle]
    exact hsuits

theorem steady_of_quiet (htracked : Tracked d) (hnames : d.cloud.names.Nodup) (hquiet : Quiet d) :
    Steady d where
  tracked := htracked
  names := hnames
  suits i t ht hworking := absurd (.inl hworking) (hquiet i t ht)

/-- The request starts the task of the entry. -/
structure Spawns (entry : TaskEntry) (d d' : Core) : Prop where
  tasks : d'.tasks = d.tasks ++ [⟨entry, d.cycle, .working⟩]
  cloud : d'.cloud = d.cloud
  cycle : d'.cycle = d.cycle

theorem expandCloud_spawns (d : Core) (name : Option String) :
    expandCloud name d = d ∨
      ∃ s ∈ d.cloud.servers, Fresh s ∧ Spawns (.FullSetup s.name) d (expandCloud name d) := by
  rw [expandCloud]
  cases htarget : expandTarget d.cloud name with
  | error e => exact .inl rfl
  | ok s =>
      obtain ⟨hs, hstate, henabled, htoken⟩ := expandTarget_ok htarget
      simp only
      split
      · exact .inr ⟨s, hs, ⟨henabled, hstate, htoken⟩, rfl, rfl, rfl⟩
      · split
        · exact .inr ⟨s, hs, ⟨henabled, hstate, htoken⟩, rfl, rfl, rfl⟩
        · exact .inl rfl

theorem performServerDestruction_spawns (d : Core) (name : String) :
    performServerDestruction name d = d ∨
      ∃ s ∈ d.cloud.servers, (s.enabled = true ∧ s.state = .Production) ∧
        Spawns (.DestroyServer s.name) d (performServerDestruction name d) := by
  rw [performServerDestruction]
  cases htarget : destroyTarget d.cloud name with
  | error e => exact .inl rfl
  | ok s =>
      obtain ⟨hs, hstate, henabled⟩ := destroyTarget_ok htarget
      simp only
      split
      · exact .inl rfl
      · exact .inr ⟨s, hs, ⟨henabled, hstate⟩, rfl, rfl, rfl⟩

theorem Steady.spawns (h : Steady d) {entry : TaskEntry} (htracked : Tracked d')
    (hspawns : Spawns entry d d')
    (hneeds : ∃ s ∈ d.cloud.servers, s.name = serverOf entry ∧ Needs entry s) : Steady d' := by
  apply h.sameCloud htracked hspawns.cloud hspawns.cycle
  intro i t ht _
  have hsame : (spawnTask entry d).tasks[i]? = some t := by
    rw [← ht, hspawns.tasks]
    rfl
  rw [getElem?_spawnTask] at hsame
  split at hsame
  · cases hsame
    exact .inr ⟨rfl, hneeds⟩
  · exact .inl hsame

theorem Steady.expandCloud (h : Steady d) (name : Option String) :
    Steady (expandCloud name d) := by
  rcases expandCloud_spawns d name with hsame | ⟨s, hs, hfresh, hspawns⟩
  · rw [hsame]
    exact h
  · exact h.spawns h.tracked.expandCloud hspawns ⟨s, hs, rfl, hfresh⟩

theorem Steady.performServerDestruction (h : Steady d) (name : String) :
    Steady (performServerDestruction name d) := by
  rcases performServerDestruction_spawns d name with hsame | ⟨s, hs, hstate, hspawns⟩
  · rw [hsame]
    exact h
  · exact h.spawns h.tracked.performServerDestruction hspawns ⟨s, hs, rfl, hstate⟩

theorem Steady.checked (h : Steady d) {verdict : Verdict}
    (hnamed : ∀ cloud, verdict = .applied cloud → cloud.names.Nodup) :
    Steady (checked verdict d) := by
  have htracked : Tracked (SetupTasks.checked verdict d) := h.tracked.checked
  cases verdict with
  | refused => exact h
  | applied cloud =>
      exact steady_of_quiet htracked (hnamed cloud rfl) (quiet_abortAll h.tracked)
  | stopped => exact steady_of_quiet htracked h.names (quiet_abortAll h.tracked)

theorem Steady.setStage (h : Steady d) {stage : Stage} (htracked : Tracked (setStage i stage d))
    (hworking : stage ≠ .working) : Steady (setStage i stage d) := by
  apply h.sameCloud htracked rfl rfl
  intro j t ht hstage
  rw [getElem?_setStage] at ht
  split at ht
  · obtain ⟨t', -, rfl⟩ := Option.map_eq_some_iff.mp ht
    exact absurd hstage hworking
  · exact .inl ht

theorem Steady.answerReload (h : Steady d) : Steady (answerReload i d) := by
  have htracked : Tracked (SetupTasks.answerReload i d) := h.tracked.answerReload
  rw [SetupTasks.answerReload] at htracked ⊢
  split at htracked
  · exact h.setStage htracked (by decide)
  · exact h

theorem Steady.setupInquiry (h : Steady d) {entry : TaskEntry}
    (htracked : Tracked (setupInquiry entry i d))
    (hasked : ∀ t, d.tasks[i]? = some t → t.stage ≠ .working) :
    Steady (setupInquiry entry i d) := by
  have hinquired : Inquired entry i d (SetupTasks.setupInquiry entry i d) := setupInquiry_inquired
  have hframe : (SetupTasks.setupInquiry entry i d).cloud = d.cloud ∧
      (SetupTasks.setupInquiry entry i d).cycle = d.cycle := by
    cases hinquired with
    | gone _ hd' => exact ⟨by rw [hd']; rfl, by rw [hd']; rfl⟩
    | found hd' => exact ⟨by rw [hd']; rfl, by rw [hd']; rfl⟩
    | last _ hd' => exact ⟨by rw [hd']; rfl, by rw [hd']; rfl⟩
  apply h.sameCloud htracked hframe.1 hframe.2
  intro j t ht hworking
  rcases hinquired.task hasked ht with ⟨-, -, hnot⟩ | ⟨-, hold⟩
  · exact absurd hworking hnot
  · exact .inl hold

theorem Steady.answer {verdict : Verdict} {request : Request} {rest : List Request}
    (h : Steady d) (hqueue : d.queue = request :: rest)
    (hspares : ∀ p ∈ d.taskmap, takesOut request p = true → isFinished d p.2 = true)
    (hnamed : ∀ cloud, verdict = .applied cloud → cloud.names.Nodup) :
    Steady (answer verdict { d with queue := rest } request) := by
  have htracked : Tracked (SetupTasks.answer verdict { d with queue := rest } request) :=
    h.tracked.answer hqueue hspares
  have hrest : Steady { d with queue := rest } :=
    h.sameCloud (h.tracked.pop hqueue) rfl rfl fun _ _ ht _ => .inl ht
  cases request with
  | cli command =>
      cases command with
      | Expand name => exact hrest.expandCloud name
      | Destroy name => exact hrest.performServerDestruction name
      | Check comm => exact hrest.checked hnamed
      | Shutdown => exact steady_of_quiet htracked h.names (quiet_abortAll hrest.tracked)
      | Other => exact hrest
  | SetupInquiry entry sender =>
      obtain ⟨-, hasked, -⟩ := h.tracked.inquirer hqueue hspares
      exact hrest.setupInquiry htracked hasked
  | Reload sender => exact hrest.answerReload.checked hnamed

/-- A task at work ends, and its server is marked or not. -/
theorem Steady.leaves (h : Steady d) {stage : Stage} (ht : d.tasks[i]? = some t)
    (hworking : t.stage = .working) (hstage : stage ≠ .working) (htracked : Tracked d')
    (htasks : d'.tasks = (SetupTasks.setStage i stage d).tasks) (hcycle : d'.cycle = d.cycle)
    (hcloud : d'.cloud.names = d.cloud.names ∧
      ∀ x ∈ d.cloud.servers, x.name ≠ serverOf t.entry → x ∈ d'.cloud.servers) : Steady d' where
  tracked := htracked
  names := by
    rw [hcloud.1]
    exact h.names
  suits j t' ht' hworking' := by
    rw [htasks, getElem?_setStage] at ht'
    split at ht'
    · obtain ⟨t'', -, rfl⟩ := Option.map_eq_some_iff.mp ht'
      exact absurd hworking' hstage
    · rename_i hij
      obtain ⟨hsame, s, hs, hname, hneeds⟩ := h.suits j t' ht' hworking'
      have hne := h.server_ne ht hworking ht' hworking' hij
      refine ⟨hsame.trans hcycle.symm, s, hcloud.2 s hs ?_, hname, hneeds⟩
      rw [hname]
      exact Ne.symm hne

theorem Steady.step (d : Core) (e : SetupTasks.Event) (h : Steady d)
    (hkept : Spares d e ∧ Named e) : Steady (SetupTasks.step d e) := by
  obtain ⟨hspares, hnamed⟩ := hkept
  have htracked : Tracked (SetupTasks.step d e) := Tracked.step d e h.tracked hspares
  cases e with
  | send command => exact h.sameCloud htracked rfl rfl fun _ _ ht _ => .inl ht
  | process verdict =>
      simp only [SetupTasks.step]
      split
      · rename_i request rest hrunning hqueue
        apply h.answer hqueue (hspares hrunning request (by rw [hqueue]; rfl))
        rintro cloud rfl
        exact hnamed
      · exact h
  | complete i xuiToken =>
      simp only [SetupTasks.step] at htracked ⊢
      split at htracked
      · rename_i entry cycle hi
        have hframe := markServer_tasks ⟨entry, cycle, .working⟩ xuiToken
          (SetupTasks.setStage i .inquiring d)
        exact h.leaves hi rfl (by decide) htracked hframe.1 hframe.2 markServer_cloud
      · exact h
  | fail i marked =>
      simp only [SetupTasks.step] at htracked ⊢
      split at htracked
      · rename_i entry cycle hi
        cases marked with
        | none =>
            exact h.leaves hi rfl (by decide) htracked rfl rfl ⟨rfl, fun _ hx _ => hx⟩
        | some xuiToken =>
            have hframe := markServer_tasks ⟨entry, cycle, .working⟩ xuiToken
              (SetupTasks.setStage i .ended d)
            exact h.leaves hi rfl (by decide) htracked hframe.1 hframe.2 markServer_cloud
      · exact h
  | reload i =>
      simp only [SetupTasks.step] at htracked ⊢
      split at htracked
      · rename_i entry cycle hi
        apply h.sameCloud htracked rfl rfl
        intro j t ht hworking
        have ht : (SetupTasks.setStage i .reloading d).tasks[j]? = some t := ht
        rw [getElem?_setStage] at ht
        split at ht
        · obtain ⟨t', -, rfl⟩ := Option.map_eq_some_iff.mp ht
          cases hworking
        · exact .inl ht
      · exact h

end Invariant

section Results

variable {w : Work} {e : Event}

theorem steady_step (w : Work) (e : Event) (h : Steady w.core)
    (hkept : SparesRun w e ∧ NamedRun e) :
    Steady (step w e).core := by
  cases e with
  | startRun i =>
      simp only [step]
      split <;> exact h
  | core e =>
      have hnext : Steady (SetupTasks.step w.core e) := Steady.step w.core e h hkept
      cases e with
      | complete i xuiToken =>
          simp only [step]
          split
          · exact hnext
          · exact h
      | fail i marked =>
          simp only [step]
          split
          · exact hnext
          · exact h
      | send command => exact hnext
      | process verdict => exact hnext
      | reload i => exact hnext

theorem exclusive_of_steady (h : Steady w.core) : Exclusive w := by
  rintro i j t t' ⟨ht, hworking, -⟩ ⟨ht', hworking', -⟩ hij
  exact h.not_conflicting ht hworking ht' hworking' hij

theorem startsFresh_of_steady (h : Steady w.core) : StartsFresh w e := by
  cases e with
  | core e => trivial
  | startRun i =>
      intro t ht hworking _ hsetup
      obtain ⟨hcycle, s, hs, hname, hneeds⟩ := h.suits i t ht hworking
      refine ⟨hcycle, s, hs, hname, ?_⟩
      cases hentry : t.entry with
      | FullSetup name =>
          rw [hentry] at hneeds
          exact hneeds
      | DestroyServer name =>
          rw [hentry] at hsetup
          cases hsetup

theorem steady_start {cloud : Cloud} (hnames : cloud.names.Nodup) :
    Steady (startWork cloud).core :=
  steady_of_quiet (tracked_begin cloud) hnames (by simp [Quiet, startWork, begin])

/-- While no inquiry takes a running task of another sender out of the registry, the
remote runs exclude each other and full setups start on fresh servers only. -/
theorem run_excludes {cloud : Cloud} {events : List Event} (hnames : cloud.names.Nodup)
    (hnamed : ∀ e ∈ events, NamedRun e)
    (hspares : Along step SparesRun (startWork cloud) events) :
    Along step Excludes (startWork cloud) events := by
  have hall : Along step (fun w e => SparesRun w e ∧ NamedRun e) (startWork cloud) events :=
    along_and hspares (along_of_forall fun e he _ => hnamed e he)
  refine along_of_inv steady_step ?_ (steady_start hnames) hall
  intro w e hinv hkept
  exact ⟨exclusive_of_steady (steady_step w e hinv hkept), startsFresh_of_steady hinv⟩

end Results

section Instances

open Xcplane.Specimen

/-- `beta` is set up while `alpha` is destroyed. -/
def setUpAndDestroyed : List Event :=
  [.core (.send (.Expand none)), .core (.process .refused),
    .core (.send (.Destroy "alpha")), .core (.process .refused), .startRun 0, .startRun 1,
    .core (.complete 0 "token"), .core (.process .refused), .core (.fail 1 none)]

theorem run_excludes_setUpAndDestroyed :
    Along step Excludes (startWork (cloud [alpha, beta])) setUpAndDestroyed :=
  run_excludes (by decide +kernel) (by simp [setUpAndDestroyed, NamedRun, Named])
    (by decide +kernel)

def gamma : KetServer :=
  { beta with
    name := "gamma"
    ip := cloudflareDns
    domain := .domain "c.example.org" }

/-- The setup of `beta` completes while a Remap, a Reload and another Expand are waiting
in the channel. -/
def overtaken : List Event :=
  [.core (.send (.Expand (some "beta"))), .core (.process .refused), .startRun 0,
    .core (.send (.Check .Remap)), .core (.send (.Check .Reload)),
    .core (.send (.Expand (some "beta"))), .core (.complete 0 "token")]

/-- The cloud after a command that is processed with `beta` and `gamma` declared Offgrid. -/
def appliedBy (command : DaemonComm) (c : Cloud) : Option Cloud :=
  let config := declared [{ beta with inbounds := [direct] }, { gamma with inbounds := [direct] }]
  match checkAndBackup (Connections.surroundings cf) c config command with
  | .error _ => none
  | .ok next => (daemonCore (Connections.surroundings cf) next c .empty dirs).cloud

def held : Cloud := (run step (startWork (cloud [beta, gamma])) overtaken).core.cloud

def remapped : Cloud := (appliedBy .Remap held).getD held

def reloaded : Cloud := (appliedBy .Reload remapped).getD remapped

/-- The inquiry of the first setup of `beta` is answered while the second one runs. -/
def outdatedInquiry : List Event :=
  [.core (.process (.applied remapped)), .core (.process (.applied reloaded)),
    .core (.process .refused), .core (.process .refused),
    .core (.send (.Expand (some "gamma"))), .core (.process .refused), .startRun 1, .startRun 2]

theorem some_getD {c : Cloud} {o : Option Cloud} (h : o.isSome = true) : o = some (o.getD c) := by
  cases o with
  | none => cases h
  | some _ => rfl

theorem run_outdatedInquiry_conflicts :
    appliedBy .Remap held = some remapped ∧ appliedBy .Reload remapped = some reloaded ∧
      ¬ Along step Excludes (startWork (cloud [beta, gamma])) (overtaken ++ outdatedInquiry) := by
  refine ⟨some_getD (by decide +kernel), some_getD (by decide +kernel), ?_⟩
  rintro ⟨_, _, _, _, _, _, _, _, _, _, _, _, _, _, ⟨hlast, _⟩, _⟩
  have htasks : (run step (startWork (cloud [beta, gamma]))
      (overtaken ++ outdatedInquiry)).core.tasks =
        [⟨.FullSetup "beta", 0, .ended⟩, ⟨.FullSetup "beta", 2, .working⟩,
          ⟨.FullSetup "gamma", 2, .working⟩] := by
    decide +kernel
  have hbegun : (run step (startWork (cloud [beta, gamma])) (overtaken ++ outdatedInquiry)).begun =
      [2, 1, 0] := by
    decide +kernel
  refine hlast 1 2 ⟨.FullSetup "beta", 2, .working⟩ ⟨.FullSetup "gamma", 2, .working⟩ ⟨?_, rfl, ?_⟩
    ⟨?_, rfl, ?_⟩ (by decide) trivial
  · exact congrArg (fun tasks => tasks[1]?) htasks
  · exact hbegun ▸ (by decide : 1 ∈ [2, 1, 0])
  · exact congrArg (fun tasks => tasks[2]?) htasks
  · exact hbegun ▸ (by decide : 2 ∈ [2, 1, 0])

end Instances

end Xcplane.SetupExclusion
