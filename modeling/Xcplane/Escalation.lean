import Xcplane.Service
import Xcplane.Lib.Trace

/-!
What an unhealthy check can do to the fix level of a service and to its stored
handle, for the two kinds of services that have corrective actions, and the failure
episodes of a monitor.
-/

namespace Xcplane.Escalation

open Xcplane.Types
open Xcplane.Deploy
open Xcplane.Service

section Stored

variable {kind kind' : SvcKind} {m : ActionMap} {f : DashAction → DashAction}

def stored (kind : SvcKind) (m : ActionMap) : Option Nat :=
  (m kind).bind DashAction.fixAction

theorem stored_of_entry {action : DashAction} (haction : m kind = some action) :
    stored kind m = action.fixAction := by
  simp [stored, haction]

theorem stored_setEntry {action : DashAction} (haction : m kind = some action) :
    stored kind (setEntry m kind f) = (f action).fixAction := by
  simp [stored, setEntry, haction]

theorem stored_setEntry_of_ne (hkind : kind ≠ kind') :
    stored kind (setEntry m kind' f) = stored kind m := by
  simp [stored, setEntry, hkind]

theorem stored_setEntry_of_keep (hf : ∀ action, (f action).fixAction = action.fixAction) :
    stored kind (setEntry m kind f) = stored kind m := by
  simp only [stored, setEntry, if_true]
  cases m kind with
  | none => rfl
  | some action => exact hf action

theorem stored_setEntry_of_clear (hf : ∀ action, (f action).fixAction = none) :
    stored kind (setEntry m kind f) = none := by
  simp only [stored, setEntry, if_true]
  cases m kind with
  | none => rfl
  | some action => exact hf action

theorem siblingHealthCheck_setEntry (hkind : kind ≠ kind') :
    siblingHealthCheck (setEntry m kind' f) kind = siblingHealthCheck m kind := by
  simp [siblingHealthCheck, setEntry, hkind]

end Stored

section Treats

def actionAt : SvcKind → Nat → Option AnsibleAction
  | .Nginx, level => (nginxFix true level).1
  | _, level => (xrayFix level).1

def siblingsHealthy (kind : SvcKind) (m : ActionMap) : Bool :=
  siblingHealthCheck m .Ssh && (decide (kind = .Nginx) || siblingHealthCheck m .Nginx)

/-- An unhealthy check comes to the corrective actions of its service. -/
def attends (w : Watch) (c : Circumstances) (status : SvcStatus) (m : ActionMap) : Bool :=
  match failedOnce c.now status with
  | .error _ => false
  | .ok status =>
      w.autoFix && decide (w.fixThreshold ≤ status.failedCount) && siblingsHealthy w.kind m

/-- Taking a finished run out of the registry is followed by a status. -/
def Keeps (kind : SvcKind) (lastXuiDb : Except BoxError (Except BoxError Unit)) (level : Nat)
    (outcome : FixOutcome) : Prop :=
  outcome.joined.isOk = true ∧
    (kind = .Nginx ∨ (skipRestore lastXuiDb (level + 1)).isOk = true)

/-- The status that is reported, if any, is sick and has a certain level. -/
def Reports (handled : Handled) (P : Nat → Prop) : Prop :=
  ∀ status, handled.status = .ok status → status.health = .Sick ∧ P status.fixTry

/-- What an unhealthy check can do at a fix level and with a stored handle: leave
both alone, start the action of the level, take a finished run out and rise, or rise
and start the next action at once. -/
inductive Treats (reached : Prop) (kind : SvcKind) (runs : List FixRun)
    (lastXuiDb : Except BoxError (Except BoxError Unit)) (level : Nat) (slot : Option Nat)
    (handled : Handled) : Prop
  | rest (hspawned : handled.spawned = none)
      (hstored : stored kind handled.actionMap = slot)
      (hreports : Reports handled fun level' => level' = level)
  | start (action : AnsibleAction) (hfree : slot = none)
      (haction : actionAt kind level = some action)
      (hspawned : handled.spawned = some action)
      (hstored : stored kind handled.actionMap = some runs.length)
      (hreports : Reports handled fun level' => level' = level)
      (hok : handled.status.isOk = true)
  | harvest (hreached : reached) (hlevel : level < 2) (id : Nat) (hid : slot = some id)
      (outcome : FixOutcome) (hfinished : finished runs id = some outcome)
      (hspawned : handled.spawned = none)
      (hstored : stored kind handled.actionMap = none)
      (hreports : Reports handled fun level' => level + 1 ≤ level')
      (hkeeps : Keeps kind lastXuiDb level outcome → handled.status.isOk = true)
  | advance (hkind : kind = .Nginx) (hreached : reached) (hlevel : level < 2) (id : Nat)
      (hid : slot = some id)
      (outcome : FixOutcome) (hfinished : finished runs id = some outcome)
      (action : AnsibleAction) (haction : actionAt kind (level + 1) = some action)
      (hspawned : handled.spawned = some action)
      (hstored : stored kind handled.actionMap = some runs.length)
      (hreports : Reports handled fun level' => level' = level + 1)
      (hok : handled.status.isOk = true)

theorem Treats.imp {reached reached' : Prop} {kind : SvcKind} {runs : List FixRun}
    {lastXuiDb : Except BoxError (Except BoxError Unit)} {level : Nat} {slot : Option Nat}
    {handled : Handled} (h : Treats reached kind runs lastXuiDb level slot handled)
    (himp : reached → reached') : Treats reached' kind runs lastXuiDb level slot handled := by
  cases h with
  | rest hspawned hstored hreports => exact .rest hspawned hstored hreports
  | start action hfree haction hspawned hstored hreports hok =>
      exact .start action hfree haction hspawned hstored hreports hok
  | harvest hreached hlevel id hid outcome hfinished hspawned hstored hreports hkeeps =>
      exact .harvest (himp hreached) hlevel id hid outcome hfinished hspawned hstored hreports
        hkeeps
  | advance hkind hreached hlevel id hid outcome hfinished action haction hspawned hstored
      hreports hok =>
      exact .advance hkind (himp hreached) hlevel id hid outcome hfinished action haction
        hspawned hstored hreports hok

end Treats

section Checks

variable {w : Watch} {runs : List FixRun} {c : Circumstances} {status : SvcStatus}
  {m : ActionMap} {lastXuiDb : Except BoxError (Except BoxError Unit)}

theorem reports_ok {handled : Handled} {P : Nat → Prop} (hstatus : handled.status = .ok status)
    (hsick : status.health = .Sick) (hlevel : P status.fixTry) : Reports handled P := by
  intro status' hstatus'
  have hsame : status = status' := Except.ok.inj (hstatus.symm.trans hstatus')
  subst hsame
  exact ⟨hsick, hlevel⟩

theorem reports_error {handled : Handled} {P : Nat → Prop} {e : BoxError}
    (hstatus : handled.status = .error e) : Reports handled P := by
  intro status' hstatus'
  rw [hstatus] at hstatus'
  cases hstatus'

theorem actionAt_eq_none (kind : SvcKind) {level : Nat} (hlevel : 1 < level) :
    actionAt kind level = none := by
  obtain ⟨n, rfl⟩ := Nat.exists_eq_add_of_le' hlevel
  cases kind with
  | Ssh => rfl
  | Nginx => rfl
  | Xray inbound => rfl

theorem exists_actionAt (kind : SvcKind) {level : Nat} (hlevel : level < 2) :
    ∃ action, actionAt kind level = some action := by
  have hcases : level = 0 ∨ level = 1 := by omega
  rcases hcases with rfl | rfl
  · cases kind <;> exact ⟨_, rfl⟩
  · cases kind <;> exact ⟨_, rfl⟩

theorem le_skipRestore {level level' : Nat} {info : String}
    (hskip : skipRestore lastXuiDb level = .ok (level', info)) : level ≤ level' := by
  unfold skipRestore at hskip
  split at hskip
  · split at hskip
    · cases hskip
    · cases hskip
      omega
    · cases hskip
      rfl
  · cases hskip
    rfl

/-- The corrective actions come to the registered action of the service. -/
structure Entered (kind : SvcKind) (status : SvcStatus) (m : ActionMap) (action : DashAction) :
    Prop where
  siblings : siblingsHealthy kind m = true
  level : status.fixTry < 2
  entry : m kind = some action

/-- The registry once a finished run is taken out. -/
def untied (kind : SvcKind) (m : ActionMap) : ActionMap :=
  setEntry m kind fun action => { action with fixAction := none }

def startOf (kind : SvcKind) (nextId : Nat) (status : SvcStatus) (m : ActionMap) : Handled :=
  if kind = .Nginx then nginxStart nextId status m else xrayStart nextId status m

/-- The ways through the corrective actions of a sick service, with all that was found on
the way. Nginx goes on with the next action at once, the supervisor of Xray after a look
at the backups. -/
inductive Course (kind : SvcKind) (runs : List FixRun)
    (lastXuiDb : Except BoxError (Except BoxError Unit)) (status : SvcStatus) (m : ActionMap) :
    Handled → Prop
  | closed {info : String} (hsiblings : siblingsHealthy kind m = false) :
      Course kind runs lastXuiDb status m ⟨.ok status, m, none, info⟩
  | exhausted (hsiblings : siblingsHealthy kind m = true) (hlevel : ¬ status.fixTry < 2) :
      Course kind runs lastXuiDb status m ⟨.ok status, m, none, futile⟩
  | unregistered {e : BoxError} (hlevel : status.fixTry < 2) (hentry : m kind = none) :
      Course kind runs lastXuiDb status m ⟨.error e, m, none, ""⟩
  | free {action : DashAction} (hentered : Entered kind status m action)
      (hfree : action.fixAction = none) :
      Course kind runs lastXuiDb status m (startOf kind runs.length status m)
  | running {action : DashAction} {id : Nat} {info : String}
      (hentered : Entered kind status m action) (hid : action.fixAction = some id)
      (hrunning : finished runs id = none) :
      Course kind runs lastXuiDb status m ⟨.ok status, m, none, info⟩
  | lost {action : DashAction} {id : Nat} {outcome : FixOutcome} {e : BoxError}
      (hentered : Entered kind status m action) (hid : action.fixAction = some id)
      (hfinished : finished runs id = some outcome)
      (hlost : ¬ Keeps kind lastXuiDb status.fixTry outcome) :
      Course kind runs lastXuiDb status m ⟨.error e, untied kind m, none, ""⟩
  | next {action : DashAction} {id : Nat} {outcome : FixOutcome} (hkind : kind = .Nginx)
      (hentered : Entered kind status m action) (hid : action.fixAction = some id)
      (hfinished : finished runs id = some outcome) (hjoined : outcome.joined = .ok ()) :
      Course kind runs lastXuiDb status m
        (startOf kind runs.length { status with fixTry := status.fixTry + 1 } (untied kind m))
  | counted {action : DashAction} {id : Nat} {outcome : FixOutcome} {fixTry : Nat}
      {info : String} (hentered : Entered kind status m action)
      (hid : action.fixAction = some id) (hfinished : finished runs id = some outcome)
      (hjoined : outcome.joined = .ok ())
      (hskip : skipRestore lastXuiDb (status.fixTry + 1) = .ok (fixTry, info)) :
      Course kind runs lastXuiDb status m
        ⟨.ok { status with fixTry }, untied kind m, none, info⟩

theorem nginxActions_course (lastXuiDb : Except BoxError (Except BoxError Unit)) :
    Course .Nginx runs lastXuiDb status m (nginxActions runs status m) := by
  have hsiblings : siblingsHealthy .Nginx m = siblingHealthCheck m .Ssh := by
    simp [siblingsHealthy]
  unfold nginxActions
  split
  · rename_i hssh
    rw [← hsiblings] at hssh
    split
    · rename_i hlevel
      split
      · rename_i hentry
        exact .unregistered hlevel hentry
      · rename_i action hentry
        have hentered : Entered .Nginx status m action := ⟨hssh, hlevel, hentry⟩
        split
        · rename_i hfree
          exact .free hentered hfree
        · rename_i id hid
          split
          · rename_i hrunning
            exact .running hentered hid hrunning
          · rename_i outcome hfinished
            dsimp only
            split
            · rename_i e hjoined
              refine .lost hentered hid hfinished ?_
              intro hkeeps
              rw [Keeps, hjoined] at hkeeps
              cases hkeeps.1
            · rename_i hjoined
              exact .next rfl hentered hid hfinished hjoined
    · rename_i hlevel
      exact .exhausted hssh hlevel
  · rename_i hssh
    rw [← hsiblings, Bool.not_eq_true] at hssh
    exact .closed hssh

theorem superXraySick_course :
    Course SvcKind.superXray runs c.lastXuiDb status m (superXraySick runs c status m) := by
  have hother : ¬ SvcKind.superXray = .Nginx := by decide
  have hsiblings : siblingsHealthy SvcKind.superXray m =
      (siblingHealthCheck m .Ssh && siblingHealthCheck m .Nginx) := by
    simp [siblingsHealthy, hother]
  unfold superXraySick
  split
  · rename_i hboth
    rw [← hsiblings] at hboth
    split
    · rename_i hlevel
      split
      · rename_i hentry
        exact .unregistered hlevel hentry
      · rename_i action hentry
        have hentered : Entered SvcKind.superXray status m action := ⟨hboth, hlevel, hentry⟩
        split
        · rename_i hfree
          exact .free hentered hfree
        · rename_i id hid
          split
          · rename_i hrunning
            exact .running hentered hid hrunning
          · rename_i outcome hfinished
            dsimp only
            split
            · rename_i e hjoined
              refine .lost hentered hid hfinished ?_
              intro hkeeps
              rw [Keeps, hjoined] at hkeeps
              cases hkeeps.1
            · rename_i e hskip
              refine .lost hentered hid hfinished ?_
              intro hkeeps
              rw [Keeps, hskip] at hkeeps
              rcases hkeeps.2 with hkind | hok
              · exact hother hkind
              · cases hok
            · rename_i fixTry info hjoined hskip
              exact .counted hentered hid hfinished hjoined hskip
    · rename_i hlevel
      exact .exhausted hboth hlevel
  · rename_i hboth
    rw [← hsiblings, Bool.not_eq_true] at hboth
    exact .closed hboth

theorem superXrayActions_sick (hsick : status.health = .Sick) :
    superXrayActions runs c status m = superXraySick runs c status m := by
  rw [superXrayActions, hsick]

theorem fixActions_course (hkind : w.kind = .Nginx ∨ w.kind = SvcKind.superXray)
    (hsick : status.health = .Sick) :
    Course w.kind runs c.lastXuiDb status m (fixActions w runs c status m) := by
  rcases hkind with hkind | hkind
  · have hactions : fixActions w runs c status m = nginxActions runs status m := by
      simp [fixActions, hkind]
    rw [hactions, hkind]
    exact nginxActions_course c.lastXuiDb
  · have hactions : fixActions w runs c status m = superXraySick runs c status m := by
      simp [fixActions, hkind, SvcKind.superXray, superXrayActions_sick hsick]
    rw [hactions, hkind]
    exact superXraySick_course

theorem stored_startOf {kind : SvcKind} {nextId : Nat} {action : DashAction}
    (hkind : kind = .Nginx ∨ kind = SvcKind.superXray) (haction : m kind = some action) :
    stored kind (startOf kind nextId status m).actionMap =
      (actionAt kind status.fixTry).map fun _ => nextId := by
  rcases hkind with rfl | rfl
  · exact stored_setEntry haction
  · exact stored_setEntry haction

@[simp] theorem startOf_status {kind : SvcKind} {nextId : Nat} :
    (startOf kind nextId status m).status = .ok status := by
  unfold startOf
  split
  · rfl
  · rfl

theorem startOf_spawned {kind : SvcKind} {nextId : Nat}
    (hkind : kind = .Nginx ∨ kind = SvcKind.superXray) :
    (startOf kind nextId status m).spawned = actionAt kind status.fixTry := by
  rcases hkind with rfl | rfl
  · rfl
  · rfl

theorem entry_untied {kind : SvcKind} {action : DashAction} (haction : m kind = some action) :
    untied kind m kind = some { action with fixAction := none } := by
  simp [untied, setEntry, haction]

/-- Nginx rises and starts the next action, or has none left. -/
theorem next_treats (hsick : status.health = .Sick) {action : DashAction}
    (hentered : Entered .Nginx status m action) {id : Nat} (hid : action.fixAction = some id)
    {outcome : FixOutcome} (hfinished : finished runs id = some outcome) :
    Treats (siblingsHealthy .Nginx m = true) .Nginx runs lastXuiDb status.fixTry
      (stored .Nginx m)
      (startOf .Nginx runs.length { status with fixTry := status.fixTry + 1 }
        (untied .Nginx m)) := by
  rw [← stored_of_entry hentered.entry] at hid
  have hstored : stored .Nginx (startOf .Nginx runs.length
      { status with fixTry := status.fixTry + 1 } (untied .Nginx m)).actionMap =
        (actionAt .Nginx (status.fixTry + 1)).map fun _ => runs.length :=
    stored_startOf (.inl rfl) (entry_untied hentered.entry)
  have hcases : status.fixTry + 1 < 2 ∨ 1 < status.fixTry + 1 := by
    have hlevel := hentered.level
    omega
  rcases hcases with hnext | hlast
  · obtain ⟨fix, hfix⟩ := exists_actionAt .Nginx hnext
    refine .advance rfl hentered.siblings hentered.level id hid outcome hfinished fix hfix hfix ?_
      (reports_ok rfl hsick rfl) rfl
    rw [hstored, hfix]
    rfl
  · have hfix := actionAt_eq_none .Nginx hlast
    refine .harvest hentered.siblings hentered.level id hid outcome hfinished hfix ?_
      (reports_ok rfl hsick le_rfl) fun _ => rfl
    rw [hstored, hfix]
    rfl

theorem Course.treats {kind : SvcKind} {handled : Handled}
    (hkind : kind = .Nginx ∨ kind = SvcKind.superXray) (hsick : status.health = .Sick)
    (h : Course kind runs lastXuiDb status m handled) :
    Treats (siblingsHealthy kind m = true) kind runs lastXuiDb status.fixTry (stored kind m)
      handled := by
  cases h with
  | closed hsiblings => exact .rest rfl rfl (reports_ok rfl hsick rfl)
  | exhausted hsiblings hlevel => exact .rest rfl rfl (reports_ok rfl hsick rfl)
  | unregistered hlevel hentry => exact .rest rfl rfl (reports_error rfl)
  | free hentered hfree =>
      obtain ⟨fix, hfix⟩ := exists_actionAt kind hentered.level
      refine .start fix ?_ hfix ?_ ?_ (reports_ok startOf_status hsick rfl) ?_
      · rw [stored_of_entry hentered.entry, hfree]
      · rw [startOf_spawned hkind, hfix]
      · rw [stored_startOf hkind hentered.entry, hfix]
        rfl
      · rw [startOf_status]
        rfl
  | running hentered hid hrunning => exact .rest rfl rfl (reports_ok rfl hsick rfl)
  | lost hentered hid hfinished hlost =>
      rw [← stored_of_entry hentered.entry] at hid
      exact .harvest hentered.siblings hentered.level _ hid _ hfinished rfl
        (stored_setEntry hentered.entry) (reports_error rfl) fun hkeeps => absurd hkeeps hlost
  | next hnginx hentered hid hfinished hjoined =>
      subst hnginx
      exact next_treats hsick hentered hid hfinished
  | counted hentered hid hfinished hjoined hskip =>
      rw [← stored_of_entry hentered.entry] at hid
      exact .harvest hentered.siblings hentered.level _ hid _ hfinished rfl
        (stored_setEntry hentered.entry) (reports_ok rfl hsick (le_skipRestore hskip))
        fun _ => rfl

theorem failedOnce_ok {now : Except BoxError Nat} {failed : SvcStatus}
    (hfailed : failedOnce now status = .ok failed) :
    failed.health = .Sick ∧ failed.fixTry = status.fixTry := by
  unfold failedOnce at hfailed
  dsimp only at hfailed
  split at hfailed
  · cases now with
    | error e => cases hfailed
    | ok t =>
        cases hfailed
        exact ⟨rfl, rfl⟩
  · cases hfailed
    exact ⟨rfl, rfl⟩

theorem siblingsHealthy_setEntry {kind : SvcKind} {f : DashAction → DashAction}
    (hkind : kind = .Nginx ∨ kind = SvcKind.superXray) :
    siblingsHealthy kind (setEntry m kind f) = siblingsHealthy kind m := by
  rcases hkind with rfl | rfl
  · have hssh : SvcKind.Ssh ≠ .Nginx := by decide
    simp [siblingsHealthy, siblingHealthCheck_setEntry hssh]
  · have hssh : SvcKind.Ssh ≠ SvcKind.superXray := by decide
    have hnginx : SvcKind.Nginx ≠ SvcKind.superXray := by decide
    simp [siblingsHealthy, siblingHealthCheck_setEntry hssh,
      siblingHealthCheck_setEntry hnginx]

theorem handleErr_treats (hkind : w.kind = .Nginx ∨ w.kind = SvcKind.superXray) :
    Treats (attends w c status m = true) w.kind runs c.lastXuiDb status.fixTry
      (stored w.kind m) (handleErr w runs c status m) := by
  unfold handleErr
  split
  · exact .rest rfl rfl (reports_error rfl)
  · rename_i failed hfailed
    obtain ⟨hsick, hlevel⟩ := failedOnce_ok hfailed
    obtain ⟨m', hm'⟩ : ∃ m', m' = setEntry m w.kind fun action =>
        { action with svcHealth := .Sick } := ⟨_, rfl⟩
    rw [← hm']
    have hslot : stored w.kind m' = stored w.kind m := by
      rw [hm']
      exact stored_setEntry_of_keep fun _ => rfl
    have hsiblings : siblingsHealthy w.kind m' = siblingsHealthy w.kind m := by
      rw [hm']
      exact siblingsHealthy_setEntry hkind
    dsimp only
    split
    · rename_i hreached
      have hattends : siblingsHealthy w.kind m' = true → attends w c status m = true := by
        intro hhealthy
        rw [hsiblings] at hhealthy
        simp [attends, hfailed, hreached, hhealthy]
      have htreats : Treats (siblingsHealthy w.kind m' = true) w.kind runs c.lastXuiDb
          failed.fixTry (stored w.kind m') (fixActions w runs c failed m') :=
        (fixActions_course hkind hsick).treats hkind hsick
      rw [hslot, hlevel] at htreats
      exact htreats.imp hattends
    · exact .rest rfl hslot (reports_ok rfl hsick hlevel)

end Checks

section Episodes

/-- The corrective runs that were started since the last healthy check. -/
def episode : List Check → List (Nat × AnsibleAction)
  | [] => []
  | .healthy :: _ => []
  | .unhealthy started :: checks => started.toList ++ episode checks

/-- The status that was sent to the monitor last. -/
def latest (mon : Monitor) : SvcStatus := mon.statuses.getLast?.getD mon.entry

/-- What the monitor's next event makes of a check that is in flight. -/
def handledBy (w : Watch) (mon : Monitor) : Event → Option Handled
  | .check healthy c =>
      mon.checking.map fun status =>
        handleResponse w mon.runs c healthy status mon.actionMap
  | _ => none

variable {runs : List FixRun}

theorem isSome_finished_modify {f : FixRun → FixRun} {id i : Nat}
    (hf : ∀ run, run.outcome.isSome = true → (f run).outcome.isSome = true)
    (h : (finished runs i).isSome = true) : (finished (runs.modify id f) i).isSome = true := by
  unfold finished at *
  rw [List.getElem?_modify]
  cases hrun : runs[i]? with
  | none => simp [hrun] at h
  | some run =>
      simp only [hrun, Option.bind_some] at h
      split
      · exact hf run h
      · exact h

theorem isSome_finished_append {runs' : List FixRun} {i : Nat}
    (h : (finished runs i).isSome = true) : (finished (runs ++ runs') i).isSome = true := by
  unfold finished at *
  cases hrun : runs[i]? with
  | none => simp [hrun] at h
  | some run =>
      obtain ⟨hlt, -⟩ := List.getElem?_eq_some_iff.mp hrun
      rw [List.getElem?_append_left hlt, hrun]
      simpa [hrun] using h

theorem isSome_finishRun {outcome : FixOutcome} (run : FixRun)
    (h : run.outcome.isSome = true) : (finishRun outcome run).outcome.isSome = true := by
  unfold finishRun
  cases hrun : run.outcome with
  | none => simp [hrun] at h
  | some _ => rfl

theorem latest_of_cons {mon : Monitor} {status : SvcStatus} {rest : List SvcStatus}
    (h : mon.statuses = status :: rest) :
    latest { mon with entry := status, statuses := rest } = latest mon := by
  simp [latest, h, List.getLast?_cons]

end Episodes

section Steps

variable {w : Watch} {mon : Monitor} {e : Event}

/-- The statuses that are still of use to the monitor. -/
def live (mon : Monitor) : List SvcStatus :=
  mon.entry :: (mon.statuses ++ mon.checking.toList)

/-- What a step leaves alone that neither starts nor ends a check. -/
structure Idle (w : Watch) (mon mon' : Monitor) : Prop where
  checks : mon'.checks = mon.checks
  runs : ∀ i, (finished mon.runs i).isSome = true → (finished mon'.runs i).isSome = true
  stored : stored w.kind mon'.actionMap = stored w.kind mon.actionMap
  latest : latest mon' = latest mon
  live : ∀ status ∈ live mon', status ∈ live mon
  checking : ∀ status, mon'.checking = some status → mon.checking = some status

theorem Idle.refl : Idle w mon mon where
  checks := rfl
  runs := fun _ h => h
  stored := rfl
  latest := rfl
  live := fun _ h => h
  checking := fun _ h => h

theorem idle_receive {status : SvcStatus} {rest : List SvcStatus}
    (h : mon.statuses = status :: rest) :
    Idle w mon { mon with entry := status, statuses := rest } where
  checks := rfl
  runs := fun _ h => h
  stored := rfl
  latest := latest_of_cons h
  live := by
    intro status' hstatus'
    simp only [live, h, List.mem_cons, List.mem_append] at *
    tauto
  checking := fun _ h => h

inductive Does (w : Watch) (mon : Monitor) (e : Event) : Prop
  | idle (h : Idle w mon (step w mon e))
  | tick (he : e = .tick) (hready : (mon.running && mon.checkCompleted) = true)
      (h : step w mon e = { mon with checkCompleted := false, checking := some mon.entry })
  | check (healthy : Bool) (c : Circumstances) (he : e = .check healthy c)
      (status : SvcStatus) (hchecking : mon.checking = some status)
      (h : step w mon e = applyChecker w mon healthy c status)
  | reset (aggregator : Except BoxError Unit) (he : e = .resetFix aggregator)
      (h : step w mon e = resetFix w mon aggregator)

theorem step_does (w : Watch) (mon : Monitor) (e : Event) : Does w mon e := by
  cases e with
  | tick =>
      rcases Bool.eq_false_or_eq_true (mon.running && mon.checkCompleted) with h | h
      · exact .tick rfl h (by simp only [step, h, if_true])
      · have hstep : step w mon .tick = mon := by simp [step, h]
        exact .idle (by rw [hstep]; exact .refl)
  | check healthy c =>
      cases hchecking : mon.checking with
      | none =>
          have hstep : step w mon (.check healthy c) = mon := by simp [step, hchecking]
          exact .idle (by rw [hstep]; exact .refl)
      | some status =>
          exact .check healthy c rfl status hchecking (by simp only [step, hchecking])
  | crash =>
      refine .idle ?_
      simp only [step]
      split
      · exact .refl
      · rename_i status hchecking
        refine ⟨rfl, fun _ h => h, rfl, rfl, ?_, ?_⟩
        · intro status' hstatus'
          simp only [live, List.mem_cons, List.mem_append] at *
          tauto
        · intro status' hstatus'
          cases hstatus'
  | receive =>
      refine .idle ?_
      simp only [step]
      split
      · rename_i status rest hrunning hstatuses
        exact idle_receive hstatuses
      · exact .refl
  | join =>
      refine .idle ?_
      simp only [step]
      split
      · exact ⟨rfl, fun _ h => h, rfl, rfl, fun _ h => h, fun _ h => h⟩
      · exact .refl
  | resetFix aggregator =>
      rcases Bool.eq_false_or_eq_true mon.running with h | h
      · exact .reset aggregator rfl (by simp only [step, h, if_true])
      · have hstep : step w mon (.resetFix aggregator) = mon := by simp [step, h]
        exact .idle (by rw [hstep]; exact .refl)
  | finish id outcome =>
      exact .idle ⟨rfl, fun _ h => isSome_finished_modify isSome_finishRun h, rfl, rfl,
        fun _ h => h, fun _ h => h⟩
  | sibling kind action =>
      refine .idle ?_
      simp only [step]
      split
      · exact .refl
      · rename_i hkind
        exact ⟨rfl, fun _ h => h, stored_setEntry_of_ne (Ne.symm hkind), rfl, fun _ h => h,
          fun _ h => h⟩

/-- The status of a check that ends is received later, or lost. -/
theorem applyChecker_sent {healthy : Bool} {c : Circumstances} {status : SvcStatus}
    {handled : Handled}
    (hhandled : handleResponse w mon.runs c healthy status mon.actionMap = handled) :
    (∃ sent, handled.status = .ok sent ∧
        latest (applyChecker w mon healthy c status) = sent ∧
        ∀ status' ∈ live (applyChecker w mon healthy c status),
          status' = sent ∨ status' ∈ live mon) ∨
      (¬ (handled.status.isOk = true ∧ c.aggregator.isOk = true) ∧
        latest (applyChecker w mon healthy c status) = latest mon ∧
        ∀ status' ∈ live (applyChecker w mon healthy c status), status' ∈ live mon) := by
  simp only [latest, live, applyChecker, hhandled, Option.toList_none, List.append_nil,
    List.mem_cons, List.mem_append]
  cases hstatus : handled.status with
  | error e => exact Or.inr ⟨fun h => Bool.false_ne_true h.1, rfl, by tauto⟩
  | ok sent =>
      cases hsent : c.aggregator with
      | error e => exact Or.inr ⟨fun h => Bool.false_ne_true h.2, rfl, by tauto⟩
      | ok u =>
          refine Or.inl ⟨sent, rfl, by simp, ?_⟩
          intro status' hstatus'
          simp only [List.mem_append, List.mem_singleton] at hstatus'
          tauto

theorem applyChecker_delivered {healthy : Bool} {c : Circumstances} {status : SvcStatus}
    {handled : Handled}
    (hhandled : handleResponse w mon.runs c healthy status mon.actionMap = handled)
    (hok : handled.status.isOk = true) (hdelivered : c.aggregator.isOk = true) :
    ∃ sent, handled.status = .ok sent ∧
      latest (applyChecker w mon healthy c status) = sent := by
  rcases applyChecker_sent hhandled with ⟨sent, hstatus, hlatest, -⟩ | ⟨hlost, -⟩
  · exact ⟨sent, hstatus, hlatest⟩
  · exact absurd ⟨hok, hdelivered⟩ hlost

theorem episode_applyChecker {c : Circumstances} {status : SvcStatus} :
    episode (applyChecker w mon false c status).checks =
      ((handleErr w mon.runs c status mon.actionMap).spawned.map fun action =>
        (mon.runs.length, action)).toList ++ episode mon.checks :=
  rfl

end Steps

section Rounds

def calm : Circumstances where
  now := .ok 1700000000
  lastXuiDb := .ok (.ok ())
  aggregator := .ok ()

/-- One interval of a monitor whose status is received before the next tick. -/
def interval (healthy : Bool) : List Event :=
  [.tick, .check healthy calm, .receive, .join]

def watchOf (kind : SvcKind) : Watch where
  kind := kind
  inbounds := ["direct"]
  autoFix := true
  fixThreshold := 1

def wellStatus : SvcStatus where
  health := .Ok
  failedCount := 0
  failedSince := 0
  fixTry := 0

/-- A monitor of a server whose services have been well so far. -/
def fresh (kind : SvcKind) : Monitor :=
  start (watchOf kind) wellStatus fun _ => some ⟨.Ok, 0, none⟩

end Rounds

end Xcplane.Escalation
