import Xcplane.OneFix
import Xcplane.SetupExclusion
import Xcplane.XuiTokens

/-!
The Ansible runs of the daemon over its cycles: which task of which cycle each of them
belongs to, and which of them the end of a cycle stops.
-/

namespace Xcplane.CycleRuns

open Xcplane.Types
open Xcplane.Lib
open Xcplane.Service
open Xcplane.DaemonCycle
open Xcplane.SetupTasks
open Xcplane.ReloadRace
open Xcplane.SetupExclusion
open Xcplane.OneFix
open Xcplane.XuiTokens (prodServers)

section Model

/-- The entries of the task map for the tasks that a cycle starts by itself. -/
inductive StandingEntry
  | Monitor (server : String) (kind : SvcKind)
  | AcmeChecker (server : String)
  deriving DecidableEq, Repr

/-- A monitor with the corrective runs it has spawned, or a checker of a certificate
that is in its run or waits for the next one. -/
inductive Body
  | monitor (w : Watch) (mon : Monitor)
  | acmeChecker (inRun : Bool)

structure StandingTask where
  entry : StandingEntry
  cycle : Nat
  aborted : Bool
  body : Body

/-- A cycle begins with its reconciliation, which is that of a Rebase or not. Then its
monitoring starts and it serves requests. -/
inductive Phase
  | reconciling (rebase : Bool)
  | serving
  deriving DecidableEq, Repr

structure Fleet where
  work : Work
  standing : List StandingTask
  standingMap : List (StandingEntry × Nat)
  phase : Phase

/-- An aborted task drops its own run and the check in flight. The corrective runs are
tasks of their own, and nothing but their handles is dropped. -/
def halt : Body → Body
  | .monitor w mon => .monitor w { mon with checking := none }
  | .acmeChecker _ => .acmeChecker false

def abortStanding (f : Fleet) : Fleet :=
  { f with
    standing := f.standing.mapIdx fun n t =>
      if n ∈ f.standingMap.map Prod.snd then { t with aborted := true, body := halt t.body }
      else t
    standingMap := [] }

/-- The kind of the command that ends the cycle, if the first request does. -/
def endsCycle (d : Core) (verdict : Verdict) : Option Bool :=
  match verdict, d.running, d.queue with
  | .applied _, true, .cli (.Check (.Rebase _)) :: _ => some true
  | .applied _, true, .cli (.Check _) :: _ => some false
  | .applied _, true, .Reload _ :: _ => some false
  | _, _, _ => none

inductive BodyEvent
  | service (e : Service.Event)
  | acmeRun
  | acmeDone

def stepBody (aborted : Bool) : Body → BodyEvent → Body
  | .monitor w mon, .service (.finish id outcome) =>
      .monitor w (Service.step w mon (.finish id outcome))
  | .monitor w mon, .service e =>
      if aborted then .monitor w mon else .monitor w (Service.step w mon e)
  | .acmeChecker inRun, .acmeRun => .acmeChecker (inRun || !aborted)
  | .acmeChecker _, .acmeDone => .acmeChecker false
  | body, _ => body

def newEntry : DashAction where
  svcHealth := .Unknown
  fixTry := 0
  fixAction := none

def watchOf (c : Cloud) (s : KetServer) (kind : SvcKind) : Watch where
  kind := kind
  inbounds := s.inboundNames
  autoFix := c.settings.autoFix
  fixThreshold := c.settings.fixThreshold.toNat

/-- The tasks that are started for a server under monitoring. -/
def tasksOf (history : String → SvcKind → SvcStatus) (c : Cloud) (s : KetServer) :
    List (StandingEntry × Body) :=
  ([SvcKind.Ssh, SvcKind.Nginx] ++ s.inboundNames.map SvcKind.Xray).map (fun kind =>
    (.Monitor s.name kind,
      .monitor (watchOf c s kind)
        (start (watchOf c s kind) (history s.name kind) fun _ => some newEntry))) ++
    [(.AcmeChecker s.name, .acmeChecker false)]

def spawnStanding (f : Fleet) (p : StandingEntry × Body) : Fleet :=
  if p.1 ∈ f.standingMap.map Prod.fst then f
  else
    { f with
      standing := f.standing ++ [⟨p.1, f.work.core.cycle, false, p.2⟩]
      standingMap := f.standingMap ++ [(p.1, f.standing.length)] }

/-- What happens to the daemon: to its command loop and the setup tasks, to a standing
task, or to the cycle, whose reconciliation starts the remote actions of a Rebase and
ends with the monitoring. -/
inductive Event
  | work (e : SetupExclusion.Event)
  | standing (n : Nat) (e : BodyEvent)
  | deploy
  | monitoring (history : String → SvcKind → SvcStatus)

/-- No request is answered while a cycle reconciles. -/
def process (f : Fleet) (verdict : Verdict) : Fleet :=
  match f.phase with
  | .reconciling _ => f
  | .serving =>
      let f' := { f with work := SetupExclusion.step f.work (.core (.process verdict)) }
      match endsCycle f.work.core verdict with
      | some rebase => { abortStanding f' with phase := .reconciling rebase }
      | none => if f'.work.core.running then f' else abortStanding f'

def step (f : Fleet) : Event → Fleet
  | .work (.core (.process verdict)) => process f verdict
  | .work e => { f with work := SetupExclusion.step f.work e }
  | .standing n e =>
      { f with
        standing := f.standing.modify n fun t => { t with body := stepBody t.aborted t.body e } }
  | .deploy => f
  | .monitoring history =>
      match f.phase with
      | .serving => f
      | .reconciling _ =>
          { ((prodServers f.work.core.cloud).flatMap
              (tasksOf history f.work.core.cloud)).foldl spawnStanding f with phase := .serving }

/-- The daemon in the reconciliation of its first cycle. -/
def startFleet (cloud : Cloud) : Fleet where
  work := startWork cloud
  standing := []
  standingMap := []
  phase := .reconciling false

end Model

section Property

def fixes : Body → List Nat
  | .monitor _ mon => alive mon
  | .acmeChecker _ => []

/-- The task itself is in a run, or in a check of its service. -/
def Occupied : Body → Prop
  | .monitor _ mon => mon.checking ≠ none
  | .acmeChecker inRun => inRun = true

/-- Nothing that was started in an earlier cycle is still running. -/
structure NoneOutlives (f : Fleet) : Prop where
  setups : ∀ (i : Nat) (t : Task), InProgress f.work i t → ¬ t.cycle < f.work.core.cycle
  standing : ∀ t ∈ f.standing, t.cycle < f.work.core.cycle → ¬ Occupied t.body ∧ fixes t.body = []

/-- The remote actions of a Rebase start when nothing of an earlier cycle is running. -/
def DeploysAlone (f : Fleet) : Event → Prop
  | .deploy => f.phase = .reconciling true → NoneOutlives f
  | _ => True

/-- A Rebase ends a cycle only when no corrective run is unfinished, and no inquiry takes
a running task of another sender out of the registry. -/
def EndsCalmly (f : Fleet) : Event → Prop
  | .work (.core (.process verdict)) => f.phase = .serving →
      Spares f.work.core (.process verdict) ∧
        (endsCycle f.work.core verdict = some true → ∀ t ∈ f.standing, fixes t.body = [])
  | _ => True

instance (f : Fleet) : ∀ e, Decidable (EndsCalmly f e)
  | .work (.core (.process _)) =>
      inferInstanceAs (Decidable (_ → Spares _ _ ∧ (_ → ∀ t ∈ f.standing, fixes t.body = [])))
  | .work (.core (.send _)) => isTrue trivial
  | .work (.core (.complete _ _)) => isTrue trivial
  | .work (.core (.fail _ _)) => isTrue trivial
  | .work (.core (.reload _)) => isTrue trivial
  | .work (.startRun _) => isTrue trivial
  | .standing _ _ => isTrue trivial
  | .deploy => isTrue trivial
  | .monitoring _ => isTrue trivial

end Property

section Stopping

variable {f : Fleet} {d : Core} {t : StandingTask} {n : Nat} {verdict : Verdict}

theorem not_occupied_halt (body : Body) : ¬ Occupied (halt body) := by
  cases body with
  | monitor w mon => exact fun h => h rfl
  | acmeChecker inRun => exact Bool.false_ne_true

theorem fixes_halt (body : Body) : fixes (halt body) = fixes body := by
  cases body <;> rfl

theorem not_occupied_stepBody {body : Body} {e : BodyEvent} (h : ¬ Occupied body) :
    ¬ Occupied (stepBody true body e) := by
  cases body with
  | monitor w mon =>
      cases e with
      | service e => cases e <;> exact h
      | acmeRun => exact h
      | acmeDone => exact h
  | acmeChecker inRun =>
      have hidle : inRun = false := by simpa [Occupied] using h
      subst hidle
      cases e <;> exact h

/-- An aborted task starts no corrective run. -/
theorem fixes_stepBody {body : Body} {e : BodyEvent} (h : fixes body = []) :
    fixes (stepBody true body e) = [] := by
  cases body with
  | acmeChecker inRun => cases e <;> rfl
  | monitor w mon =>
      cases e with
      | acmeRun => exact h
      | acmeDone => exact h
      | service e =>
          cases e with
          | finish id outcome =>
              apply List.eq_nil_iff_forall_not_mem.mpr
              intro id' hid'
              have hold : id' ∈ alive mon := alive_finish hid'
              have hnil : alive mon = [] := h
              rw [hnil] at hold
              cases hold
          | _ => exact h

theorem getElem?_abortStanding : (abortStanding f).standing[n]? =
    (f.standing[n]?).map fun t =>
      if n ∈ f.standingMap.map Prod.snd then { t with aborted := true, body := halt t.body }
      else t := by
  show (f.standing.mapIdx _)[n]? = _
  rw [List.getElem?_mapIdx]

theorem step_process {request : Request} {rest : List Request} (hrunning : d.running = true)
    (hqueue : d.queue = request :: rest) :
    SetupTasks.step d (.process verdict) = answer verdict { d with queue := rest } request := by
  simp only [SetupTasks.step]
  split
  · rename_i request' rest' _ hqueue'
    rw [hqueue] at hqueue'
    cases hqueue'
    rfl
  · rename_i hnone
    exact (hnone request rest hrunning hqueue).elim

/-- A command that ends the cycle leaves no setup task at work. -/
theorem quiet_of_endsCycle {rebase : Bool} (h : Tracked d)
    (hends : endsCycle d verdict = some rebase) : Quiet (SetupTasks.step d (.process verdict)) := by
  unfold endsCycle at hends
  split at hends
  · rename_i hrunning hqueue
    rw [step_process hrunning hqueue]
    exact quiet_abortAll (h.pop hqueue)
  · rename_i hrunning hqueue
    rw [step_process hrunning hqueue]
    exact quiet_abortAll (h.pop hqueue)
  · rename_i hrunning hqueue
    rw [step_process hrunning hqueue]
    exact quiet_abortAll (h.pop hqueue).answerReload
  · cases hends

/-- Only a request starts a setup task. -/
theorem quiet_step {e : SetupTasks.Event} (h : Quiet d) (he : ∀ verdict, e ≠ .process verdict) :
    Quiet (SetupTasks.step d e) := by
  have hworking : ∀ (i : Nat) (entry : TaskEntry) (cycle : Nat),
      d.tasks[i]? ≠ some ⟨entry, cycle, .working⟩ :=
    fun i entry cycle hi => h i _ hi (.inl rfl)
  cases e with
  | send command => exact h
  | process verdict => exact absurd rfl (he verdict)
  | complete i xuiToken =>
      simp only [SetupTasks.step]
      split
      · rename_i hi
        exact absurd hi (hworking _ _ _)
      · exact h
  | fail i marked =>
      simp only [SetupTasks.step]
      split
      · rename_i hi
        exact absurd hi (hworking _ _ _)
      · exact h
  | reload i =>
      simp only [SetupTasks.step]
      split
      · intro j t ht hactive
        have ht : (setStage i .reloading d).tasks[j]? = some t := ht
        rw [getElem?_setStage] at ht
        split at ht
        · obtain ⟨t', -, rfl⟩ := Option.map_eq_some_iff.mp ht
          exact absurd hactive (by decide : ¬ Active .reloading)
        · exact h j t ht hactive
      · exact h

theorem quiet_work {w : Work} {e : SetupExclusion.Event} (h : Quiet w.core)
    (he : ∀ verdict, e ≠ .core (.process verdict)) : Quiet (SetupExclusion.step w e).core := by
  cases e with
  | startRun i =>
      simp only [SetupExclusion.step]
      split <;> exact h
  | core e =>
      have hcore : ∀ verdict, e ≠ .process verdict := fun verdict heq => he verdict (heq ▸ rfl)
      have hnext := quiet_step h hcore
      cases e with
      | complete i xuiToken =>
          simp only [SetupExclusion.step]
          split
          · exact hnext
          · exact h
      | fail i marked =>
          simp only [SetupExclusion.step]
          split
          · exact hnext
          · exact h
      | send command => exact hnext
      | process verdict => exact hnext
      | reload i => exact hnext

end Stopping

section Invariant

variable {f : Fleet} {t : StandingTask} {n : Nat} {verdict : Verdict}

/-- Every task that goes on is in the registry, and while a cycle reconciles none does;
in a Rebase no corrective run is left either. -/
structure Owned (f : Fleet) : Prop where
  tracked : Tracked f.work.core
  registered : ∀ (n : Nat) (t : StandingTask), f.standing[n]? = some t → t.aborted = false →
    (t.entry, n) ∈ f.standingMap
  halted : ∀ t ∈ f.standing, t.aborted = true → ¬ Occupied t.body
  quiet : ∀ rebase, f.phase = .reconciling rebase → Quiet f.work.core
  stopped : ∀ rebase, f.phase = .reconciling rebase → ∀ t ∈ f.standing, t.aborted = true
  healed : f.phase = .reconciling true → ∀ t ∈ f.standing, fixes t.body = []

theorem Owned.abortStanding (h : Owned f) :
    (∀ t ∈ (abortStanding f).standing, t.aborted = true ∧ ¬ Occupied t.body) ∧
      ((∀ t ∈ f.standing, fixes t.body = []) →
        ∀ t ∈ (abortStanding f).standing, fixes t.body = []) := by
  have hcases : ∀ t ∈ (CycleRuns.abortStanding f).standing, ∃ t' ∈ f.standing,
      (t.aborted = true ∧ t.body = halt t'.body) ∨ (t = t' ∧ t.aborted = true) := by
    intro t ht
    obtain ⟨n, hn⟩ := List.mem_iff_getElem?.mp ht
    rw [getElem?_abortStanding] at hn
    obtain ⟨t', ht', rfl⟩ := Option.map_eq_some_iff.mp hn
    refine ⟨t', List.mem_of_getElem? ht', ?_⟩
    split
    · exact .inl ⟨rfl, rfl⟩
    · rename_i hnot
      refine .inr ⟨rfl, ?_⟩
      by_contra haborted
      exact hnot (List.mem_map_of_mem (h.registered n t' ht' (by simpa using haborted)))
  constructor
  · intro t ht
    obtain ⟨t', ht', ⟨haborted, hbody⟩ | ⟨rfl, haborted⟩⟩ := hcases t ht
    · exact ⟨haborted, hbody ▸ not_occupied_halt t'.body⟩
    · exact ⟨haborted, h.halted t ht' haborted⟩
  · intro hnil t ht
    obtain ⟨t', ht', ⟨-, hbody⟩ | ⟨rfl, -⟩⟩ := hcases t ht
    · rw [hbody, fixes_halt]
      exact hnil t' ht'
    · exact hnil t ht'

theorem Owned.work (h : Owned f) {e : SetupExclusion.Event}
    (he : ∀ verdict, e ≠ .core (.process verdict)) :
    Owned { f with work := SetupExclusion.step f.work e } where
  tracked := by
    cases e with
    | startRun i =>
        simp only [SetupExclusion.step]
        split <;> exact h.tracked
    | core e =>
        have hspares : Spares f.work.core e := by
          cases e with
          | process verdict => exact absurd rfl (he verdict)
          | _ => trivial
        have hnext : Tracked (SetupTasks.step f.work.core e) :=
          Tracked.step f.work.core e h.tracked hspares
        cases e with
        | complete i xuiToken =>
            simp only [SetupExclusion.step]
            split
            · exact hnext
            · exact h.tracked
        | fail i marked =>
            simp only [SetupExclusion.step]
            split
            · exact hnext
            · exact h.tracked
        | send command => exact hnext
        | process verdict => exact hnext
        | reload i => exact hnext
  registered := h.registered
  halted := h.halted
  quiet rebase hphase := quiet_work (h.quiet rebase hphase) he
  stopped := h.stopped
  healed := h.healed

theorem Owned.process (h : Owned f)
    (hcalm : EndsCalmly f (.work (.core (.process verdict)))) : Owned (process f verdict) := by
  obtain ⟨work, standing, standingMap, phase⟩ := f
  cases phase with
  | reconciling rebase => exact h
  | serving =>
      obtain ⟨hspares, hhealed⟩ := hcalm rfl
      have htracked : Tracked (SetupTasks.step work.core (.process verdict)) :=
        Tracked.step work.core _ h.tracked hspares
      have hserving : Owned
          ⟨SetupExclusion.step work (.core (.process verdict)), standing, standingMap, .serving⟩ :=
        ⟨htracked, h.registered, h.halted, by rintro _ ⟨⟩, by rintro _ ⟨⟩, by rintro ⟨⟩⟩
      obtain ⟨hstopped, hnil⟩ := hserving.abortStanding
      have hnone : ∀ (n : Nat) (t : StandingTask), (CycleRuns.abortStanding
          ⟨SetupExclusion.step work (.core (.process verdict)), standing, standingMap,
            .serving⟩).standing[n]? = some t → t.aborted = false →
            (t.entry, n) ∈ ([] : List (StandingEntry × Nat)) := by
        intro n t ht haborted
        rw [(hstopped t (List.mem_of_getElem? ht)).1] at haborted
        cases haborted
      simp only [CycleRuns.process]
      cases hends : endsCycle work.core verdict with
      | some rebase =>
          refine ⟨htracked, hnone, fun t ht _ => (hstopped t ht).2, ?_, ?_, ?_⟩
          · intro _ _
            exact quiet_of_endsCycle h.tracked hends
          · intro _ _ t ht
            exact (hstopped t ht).1
          · intro hrebase
            cases hrebase
            exact hnil (hhealed hends)
      | none =>
          simp only
          split
          · exact hserving
          · exact ⟨htracked, hnone, fun t ht _ => (hstopped t ht).2, by rintro _ ⟨⟩,
              by rintro _ ⟨⟩, by rintro ⟨⟩⟩

theorem mem_modify {g : StandingTask → StandingTask} (ht : t ∈ f.standing.modify n g) :
    t ∈ f.standing ∨ ∃ t' ∈ f.standing, t = g t' := by
  obtain ⟨m, hm⟩ := List.mem_iff_getElem?.mp ht
  rw [List.getElem?_modify] at hm
  obtain ⟨t', ht', hg⟩ := Option.map_eq_some_iff.mp hm
  split at hg
  · exact .inr ⟨t', List.mem_of_getElem? ht', hg.symm⟩
  · exact .inl (hg ▸ List.mem_of_getElem? ht')

theorem Owned.standing (h : Owned f) (e : BodyEvent) :
    Owned (step f (.standing n e)) where
  tracked := h.tracked
  registered m t ht haborted := by
    have ht : (f.standing.modify n _)[m]? = some t := ht
    rw [List.getElem?_modify] at ht
    obtain ⟨t', ht', hg⟩ := Option.map_eq_some_iff.mp ht
    split at hg
    · subst hg
      exact h.registered m t' ht' haborted
    · subst hg
      exact h.registered m t' ht' haborted
  halted t ht haborted := by
    rcases mem_modify ht with hold | ⟨t', ht', rfl⟩
    · exact h.halted t hold haborted
    · have haborted : t'.aborted = true := haborted
      simp only [haborted]
      exact not_occupied_stepBody (h.halted t' ht' haborted)
  quiet := h.quiet
  stopped rebase hphase t ht := by
    rcases mem_modify ht with hold | ⟨t', ht', rfl⟩
    · exact h.stopped rebase hphase t hold
    · exact h.stopped rebase hphase t' ht'
  healed hphase t ht := by
    rcases mem_modify ht with hold | ⟨t', ht', rfl⟩
    · exact h.healed hphase t hold
    · simp only [h.stopped true hphase t' ht']
      exact fixes_stepBody (h.healed hphase t' ht')

theorem Owned.serve (h : Owned f) : Owned { f with phase := .serving } where
  tracked := h.tracked
  registered := h.registered
  halted := h.halted
  quiet := by
    rintro _ ⟨⟩
  stopped := by
    rintro _ ⟨⟩
  healed := by
    rintro ⟨⟩

theorem Owned.spawn (h : Owned { f with phase := .serving }) (p : StandingEntry × Body) :
    Owned { spawnStanding f p with phase := .serving } := by
  rw [spawnStanding]
  split
  · exact h
  · refine ⟨h.tracked, ?_, ?_, by rintro _ ⟨⟩, by rintro _ ⟨⟩, by rintro ⟨⟩⟩
    · intro n t ht haborted
      have ht : (f.standing ++ [⟨p.1, f.work.core.cycle, false, p.2⟩])[n]? = some t := ht
      show (t.entry, n) ∈ f.standingMap ++ [(p.1, f.standing.length)]
      rw [List.mem_append, List.mem_singleton]
      rcases Nat.lt_trichotomy n f.standing.length with hlt | heq | hgt
      · rw [List.getElem?_append_left hlt] at ht
        exact .inl (h.registered n t ht haborted)
      · subst heq
        rw [List.getElem?_concat_length] at ht
        cases ht
        exact .inr rfl
      · rw [List.getElem?_eq_none (by simp; omega)] at ht
        cases ht
    · intro t ht haborted
      rcases List.mem_append.mp ht with hold | hnew
      · exact h.halted t hold haborted
      · rw [List.mem_singleton.mp hnew] at haborted
        cases haborted

theorem Owned.spawnAll {tasks : List (StandingEntry × Body)}
    (h : Owned { f with phase := .serving }) :
    Owned { tasks.foldl spawnStanding f with phase := .serving } := by
  induction tasks generalizing f with
  | nil => exact h
  | cons p tasks ih => exact ih (h.spawn p)

theorem Owned.step (f : Fleet) (e : Event) (h : Owned f) (hcalm : EndsCalmly f e) :
    Owned (step f e) := by
  cases e with
  | work e =>
      cases e with
      | startRun i => exact h.work (by rintro _ ⟨⟩)
      | core e =>
          cases e with
          | process verdict => exact h.process hcalm
          | send command => exact h.work (by rintro _ ⟨⟩)
          | complete i xuiToken => exact h.work (by rintro _ ⟨⟩)
          | fail i marked => exact h.work (by rintro _ ⟨⟩)
          | reload i => exact h.work (by rintro _ ⟨⟩)
  | standing n e => exact h.standing e
  | deploy => exact h
  | monitoring history =>
      simp only [CycleRuns.step]
      cases hphase : f.phase with
      | serving => exact h
      | reconciling rebase => exact h.serve.spawnAll

theorem Owned.noneOutlives (h : Owned f) (hphase : f.phase = .reconciling true) :
    NoneOutlives f where
  setups i t hprogress := absurd (.inl hprogress.2.1) (h.quiet true hphase i t hprogress.1)
  standing t ht _ := ⟨h.halted t ht (h.stopped true hphase t ht), h.healed hphase t ht⟩

theorem owned_start (cloud : Cloud) : Owned (startFleet cloud) where
  tracked := tracked_begin cloud
  registered := by
    rintro _ _ ⟨⟩
  halted := by
    rintro _ ⟨⟩
  quiet := by simp [Quiet, startFleet, startWork, begin]
  stopped := by
    rintro _ _ _ ⟨⟩
  healed := by
    rintro _ _ ⟨⟩

end Invariant

section Results

/-- When every Rebase waits for the corrective runs, its remote actions start with
nothing of an earlier cycle running. -/
theorem run_deploys_alone {cloud : Cloud} {events : List Event}
    (hcalm : Along step EndsCalmly (startFleet cloud) events) :
    Along step DeploysAlone (startFleet cloud) events := by
  refine along_of_inv Owned.step ?_ (owned_start cloud) hcalm
  intro f e hinv _
  cases e with
  | deploy => exact fun hphase => hinv.noneOutlives hphase
  | _ => trivial

end Results

section Instances

open Xcplane.Specimen
open Xcplane.Escalation (calm wellStatus)

/-- Services are fixed after one failing check. -/
def quickCloud : Cloud where
  servers := [alpha]
  settings := { settings with fixThreshold := 1 }

/-- Nginx of `alpha` fails while its SSH is well, and is restarted. -/
def nginxFails : List Event :=
  [.monitoring fun _ _ => wellStatus, .standing 1 (.service (.sibling .Ssh ⟨.Ok, 0, none⟩)),
    .standing 1 (.service .tick), .standing 1 (.service (.check false calm))]

/-- A forced Rebase is processed and starts its remote actions. -/
def rebased : List Event :=
  [.work (.core (.send (.Check (.Rebase ⟨true⟩)))),
    .work (.core (.process (.applied quickCloud))), .deploy]

/-- The restart of Nginx ends, the certificate is renewed and `alpha` is destroyed. -/
def atWork : List Event :=
  [.standing 1 (.service (.finish 0 (.output true))), .standing 4 .acmeRun,
    .work (.core (.send (.Destroy "alpha"))), .work (.core (.process .refused)),
    .work (.startRun 0)]

theorem run_deploys_alone_atWork :
    Along step DeploysAlone (startFleet quickCloud) (nginxFails ++ atWork ++ rebased) :=
  run_deploys_alone (by decide +kernel)

theorem run_fix_outlives :
    ¬ Along step DeploysAlone (startFleet quickCloud) (nginxFails ++ rebased) := by
  rintro ⟨_, _, _, _, _, _, hdeploy, _⟩
  have hphase : (run step (startFleet quickCloud) (nginxFails ++ rebased)).phase =
      .reconciling true := by
    decide +kernel
  have hfix : (run step (startFleet quickCloud) (nginxFails ++ rebased)).standing.any
      (fun t => decide (t.cycle < 1) && !(fixes t.body).isEmpty) = true := by
    decide +kernel
  have hcycle : (run step (startFleet quickCloud) (nginxFails ++ rebased)).work.core.cycle = 1 := by
    decide +kernel
  obtain ⟨t, ht, hfixes⟩ := List.any_eq_true.mp hfix
  simp only [Bool.and_eq_true, decide_eq_true_eq] at hfixes
  have hnil := ((hdeploy hphase).standing t ht (hcycle.symm ▸ hfixes.1)).2
  rw [hnil] at hfixes
  cases hfixes.2

end Instances

end Xcplane.CycleRuns
