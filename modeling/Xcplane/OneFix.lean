import Xcplane.FixAttempts

/-!
How many corrective runs of a service are alive at once. A run goes on without its
handle, so what counts is which steps take the handle of an unfinished run away.
-/

namespace Xcplane.OneFix

open Xcplane.Lib
open Xcplane.Types
open Xcplane.Deploy
open Xcplane.Service
open Xcplane.Escalation

section Property

/-- The corrective runs of the service that were spawned and have not ended. -/
def alive (mon : Monitor) : List Nat :=
  (List.range mon.runs.length).filter fun id => (finished mon.runs id).isNone

def OneAlive (mon : Monitor) : Prop := (alive mon).length ≤ 1

/-- No healthy check is handled and no reset takes effect while a run is alive. The
supervisor of Xray leaves its handle alone when it is healthy. -/
def HandleKept (w : Watch) (mon : Monitor) : Event → Prop
  | .check true _ => mon.checking ≠ none → w.kind ≠ SvcKind.superXray → alive mon = []
  | .resetFix (.ok ()) => mon.running = true → alive mon = []
  | _ => True

instance (mon : Monitor) : Decidable (OneAlive mon) :=
  inferInstanceAs (Decidable (_ ≤ _))

instance (w : Watch) (mon : Monitor) : ∀ e, Decidable (HandleKept w mon e)
  | .check true _ =>
      inferInstanceAs (Decidable (mon.checking ≠ none → w.kind ≠ SvcKind.superXray →
        alive mon = []))
  | .resetFix (.ok ()) => inferInstanceAs (Decidable (mon.running = true → alive mon = []))
  | .check false _ => isTrue trivial
  | .resetFix (.error _) => isTrue trivial
  | .tick => isTrue trivial
  | .crash => isTrue trivial
  | .receive => isTrue trivial
  | .join => isTrue trivial
  | .finish _ _ => isTrue trivial
  | .sibling _ _ => isTrue trivial

end Property

section Alive

variable {w : Watch} {mon mon' : Monitor} {e : Event} {id : Nat} {c : Circumstances}
  {status : SvcStatus}

theorem mem_alive : id ∈ alive mon ↔ id < mon.runs.length ∧ finished mon.runs id = none := by
  simp [alive]

theorem alive_eq (hruns : mon'.runs = mon.runs) : alive mon' = alive mon := by
  rw [alive, alive, hruns]

theorem alive_finish {outcome : FixOutcome} {id' : Nat}
    (hid : id ∈ alive { mon with runs := mon.runs.modify id' (finishRun outcome) }) :
    id ∈ alive mon := by
  obtain ⟨hlt, hnone⟩ := mem_alive.mp hid
  rw [List.length_modify] at hlt
  refine mem_alive.mpr ⟨hlt, ?_⟩
  by_contra hfinished
  have hsome : (finished (mon.runs.modify id' (finishRun outcome)) id).isSome = true :=
    isSome_finished_modify isSome_finishRun (Option.isSome_iff_ne_none.mpr hfinished)
  rw [hnone] at hsome
  cases hsome

/-- A step that handles no check starts no run. -/
theorem alive_of_not_check (hcheck : ∀ healthy c, e ≠ .check healthy c)
    (hid : id ∈ alive (step w mon e)) : id ∈ alive mon := by
  cases e with
  | finish id' outcome => exact alive_finish hid
  | check healthy c => exact absurd rfl (hcheck healthy c)
  | tick | crash | receive | join | sibling =>
      rw [alive_eq] at hid
      · exact hid
      · simp only [step]
        split <;> rfl
  | resetFix aggregator =>
      rw [alive_eq] at hid
      · exact hid
      · simp only [step, resetFix]
        split
        · cases aggregator <;> rfl
        · rfl

/-- Only the run that a check has just started is new. -/
theorem alive_applyChecker {healthy : Bool}
    (hid : id ∈ alive (applyChecker w mon healthy c status)) :
    id ∈ alive mon ∨
      id = mon.runs.length ∧
        (handleResponse w mon.runs c healthy status mon.actionMap).spawned ≠ none := by
  obtain ⟨hlt, hnone⟩ := mem_alive.mp hid
  cases hspawned : (handleResponse w mon.runs c healthy status mon.actionMap).spawned with
  | none =>
      rw [alive_eq] at hid
      · exact Or.inl hid
      · simp only [applyChecker, hspawned]
        exact List.append_nil mon.runs
  | some action =>
      simp only [applyChecker, hspawned, Option.map_some, Option.toList_some, List.length_append,
        List.length_singleton] at hlt hnone
      rcases Nat.lt_or_eq_of_le (Nat.le_of_lt_succ hlt) with hold | hnew
      · refine Or.inl (mem_alive.mpr ⟨hold, ?_⟩)
        rw [finished, List.getElem?_append_left hold] at hnone
        exact hnone
      · exact Or.inr ⟨hnew, Option.some_ne_none action⟩

end Alive

section Invariant

variable {w : Watch} {mon mon' : Monitor} {e : Event} {c : Circumstances} {status : SvcStatus}

/-- A run that is alive is the one whose handle is stored, and only the services with
corrective actions have one. -/
def Held (w : Watch) (mon : Monitor) : Prop :=
  ∀ id ∈ alive mon,
    stored w.kind mon.actionMap = some id ∧ (w.kind = .Nginx ∨ w.kind = SvcKind.superXray)

theorem held_of_alive_nil (hnil : alive mon = []) : Held w mon := by
  intro id hid
  rw [hnil] at hid
  cases hid

theorem Held.oneAlive (hinv : Held w mon) : OneAlive mon := by
  cases hslot : stored w.kind mon.actionMap with
  | none =>
      have hnil : alive mon = [] := by
        apply List.eq_nil_iff_forall_not_mem.mpr
        intro id hid
        have hstored := (hinv id hid).1
        rw [hslot] at hstored
        cases hstored
      rw [OneAlive, hnil]
      exact Nat.zero_le 1
  | some id =>
      have hsubset : alive mon ⊆ [id] := by
        intro id' hid'
        have hstored := (hinv id' hid').1
        rw [hslot] at hstored
        rw [Option.some.inj hstored]
        exact List.mem_singleton_self id'
      have hnodup : (alive mon).Nodup := List.nodup_range.filter _
      exact (List.subperm_of_subset hnodup hsubset).length_le

theorem Held.idle (hinv : Held w mon) (hcheck : ∀ healthy c, e ≠ .check healthy c)
    (hstored : stored w.kind (step w mon e).actionMap = stored w.kind mon.actionMap) :
    Held w (step w mon e) := by
  intro id hid
  rw [hstored]
  exact hinv id (alive_of_not_check hcheck hid)

theorem recovered_health : (recovered status).health = .Ok := by
  simp only [recovered]
  split
  · rfl
  · rename_i hwell
    by_contra hne
    exact hwell (Or.inr hne)

theorem handleOk_spawned {runs : List FixRun} {m : ActionMap} :
    (handleOk w runs c status m).spawned = none := by
  simp only [handleOk, superXrayActions, recovered_health]
  repeat' split
  all_goals rfl

theorem handleOk_actionMap {runs : List FixRun} {m : ActionMap}
    (hsuper : w.kind = SvcKind.superXray) : (handleOk w runs c status m).actionMap = m := by
  simp only [handleOk, hsuper, if_true, superXrayActions, recovered_health]

theorem handleErr_spawned {runs : List FixRun} {m : ActionMap}
    (hkind : ¬ (w.kind = .Nginx ∨ w.kind = SvcKind.superXray)) :
    (handleErr w runs c status m).spawned = none := by
  obtain ⟨hnginx, hsuper⟩ := not_or.mp hkind
  simp only [handleErr]
  cases failedOnce c.now status with
  | error e => rfl
  | ok failed =>
      cases hw : w.kind with
      | Nginx => exact absurd hw hnginx
      | Ssh =>
          simp only [fixActions, hw]
          split <;> rfl
      | Xray inbound =>
          have hinbound : inbound ≠ SvcKind.superName := by
            rintro rfl
            exact hsuper hw
          simp only [fixActions, hw, hinbound, if_false]
          split
          · split <;> rfl
          · rfl

theorem Held.healthy (hinv : Held w mon)
    (hkept : w.kind ≠ SvcKind.superXray → alive mon = []) :
    Held w (applyChecker w mon true c status) := by
  intro id hid
  rcases alive_applyChecker hid with hold | ⟨-, hspawned⟩
  · by_cases hsuper : w.kind = SvcKind.superXray
    · have hmap : (applyChecker w mon true c status).actionMap = mon.actionMap :=
        handleOk_actionMap hsuper
      rw [hmap]
      exact hinv id hold
    · rw [hkept hsuper] at hold
      cases hold
  · exact absurd handleOk_spawned hspawned

/-- A failing check starts a run only when no handle is stored or the stored one has
ended, and then stores the new one. -/
theorem Held.unhealthy (hinv : Held w mon) : Held w (applyChecker w mon false c status) := by
  by_cases hkind : w.kind = .Nginx ∨ w.kind = SvcKind.superXray
  · intro id hid
    refine ⟨?_, hkind⟩
    have htreats : Treats (attends w c status mon.actionMap = true) w.kind mon.runs c.lastXuiDb
        status.fixTry (stored w.kind mon.actionMap)
        (handleErr w mon.runs c status mon.actionMap) := handleErr_treats hkind
    -- The handle of a run that was alive before is the one the check found stored.
    have hbusy : id ∈ alive mon → ∀ id', stored w.kind mon.actionMap = some id' →
        finished mon.runs id' = none := by
      intro hold id' hid'
      have hstored := (hinv id hold).1
      rw [hid'] at hstored
      rw [Option.some.inj hstored]
      exact (mem_alive.mp hold).2
    cases htreats with
    | rest hspawned hstored hreports =>
        rcases alive_applyChecker hid with hold | ⟨-, hnew⟩
        · exact hstored.trans (hinv id hold).1
        · exact absurd hspawned hnew
    | start action hfree haction hspawned hstored hreports hok =>
        rcases alive_applyChecker hid with hold | ⟨hnew, -⟩
        · have hslot := (hinv id hold).1
          rw [hfree] at hslot
          cases hslot
        · rw [hnew]
          exact hstored
    | harvest hreached hlevel id' hid' outcome hfinished hspawned hstored hreports hkeeps =>
        rcases alive_applyChecker hid with hold | ⟨-, hnew⟩
        · have hnone := hbusy hold id' hid'
          rw [hfinished] at hnone
          cases hnone
        · exact absurd hspawned hnew
    | advance hnginx hreached hlevel id' hid' outcome hfinished action haction hspawned hstored
        hreports hok =>
        rcases alive_applyChecker hid with hold | ⟨hnew, -⟩
        · have hnone := hbusy hold id' hid'
          rw [hfinished] at hnone
          cases hnone
        · rw [hnew]
          exact hstored
  · intro id hid
    rcases alive_applyChecker hid with hold | ⟨-, hspawned⟩
    · exact absurd (hinv id hold).2 hkind
    · exact absurd (handleErr_spawned hkind) hspawned

theorem alive_resetFix {aggregator : Except BoxError Unit} :
    alive (resetFix w mon aggregator) = alive mon := by
  cases aggregator <;> rfl

theorem Held.step (mon : Monitor) (e : Event) (hinv : Held w mon) (hkept : HandleKept w mon e) :
    Held w (step w mon e) := by
  cases e with
  | check healthy c =>
      simp only [Service.step]
      cases hchecking : mon.checking with
      | none => exact hinv
      | some status =>
          cases healthy with
          | true => exact hinv.healthy (hkept (by rw [hchecking]; exact Option.some_ne_none _))
          | false => exact hinv.unhealthy
  | resetFix aggregator =>
      simp only [Service.step]
      split
      · rename_i hrunning
        cases aggregator with
        | ok u => exact held_of_alive_nil (alive_resetFix.trans (hkept hrunning))
        | error e => exact hinv
      · exact hinv
  | finish id outcome => exact hinv.idle (by rintro _ _ ⟨⟩) rfl
  | sibling kind action =>
      apply hinv.idle (by rintro _ _ ⟨⟩)
      simp only [Service.step]
      split
      · rfl
      · rename_i hkind
        exact stored_setEntry_of_ne (Ne.symm hkind)
  | tick | crash | receive | join =>
      apply hinv.idle (by rintro _ _ ⟨⟩)
      simp only [Service.step]
      split <;> rfl

/-- A handle that is dropped while its run is alive is not stored again. -/
theorem Held.alive_nil (hinv : Held w mon) (hnext : Held w mon') (halive : alive mon' = alive mon)
    (hcleared : w.kind = .Nginx ∨ w.kind = SvcKind.superXray →
      stored w.kind mon'.actionMap = none) : alive mon = [] := by
  apply List.eq_nil_iff_forall_not_mem.mpr
  intro id hid
  have hslot := (hnext id (by rw [halive]; exact hid)).1
  rw [hcleared (hinv id hid).2] at hslot
  cases hslot

theorem handleKept_of_held (hinv : Held w mon) (hnext : Held w (step w mon e)) :
    HandleKept w mon e := by
  cases e with
  | check healthy c =>
      cases healthy with
      | false => trivial
      | true =>
          intro hchecking hsuper
          obtain ⟨status, hstatus⟩ := Option.ne_none_iff_exists'.mp hchecking
          have hstep : Service.step w mon (.check true c) = applyChecker w mon true c status := by
            simp only [Service.step, hstatus]
          rw [hstep] at hnext
          apply hinv.alive_nil hnext
          · apply alive_eq
            simp only [applyChecker, handleResponse, if_true, handleOk_spawned]
            exact List.append_nil mon.runs
          · intro hkind
            have hnginx := hkind.resolve_right hsuper
            simp only [applyChecker, handleResponse, handleOk, if_true, hsuper, if_false]
            rw [hnginx]
            exact stored_setEntry_of_clear fun _ => rfl
  | resetFix aggregator =>
      cases aggregator with
      | error e => trivial
      | ok u =>
          intro hrunning
          have hstep : Service.step w mon (.resetFix (.ok u)) = resetFix w mon (.ok u) := by
            simp only [Service.step, hrunning, if_true]
          rw [hstep] at hnext
          exact hinv.alive_nil hnext rfl fun _ => stored_setEntry_of_clear fun _ => rfl
  | _ => trivial

theorem held_step_iff (mon : Monitor) (e : Event) (hinv : Held w mon) :
    Held w (step w mon e) ↔ HandleKept w mon e :=
  ⟨handleKept_of_held hinv, Held.step mon e hinv⟩

end Invariant

section Results

variable {w : Watch} {status : SvcStatus} {m : ActionMap} {events : List Event}

theorem held_start : Held w (start w status m) :=
  held_of_alive_nil rfl

/-- The steps that keep every run that is alive in the registry are exactly those that
drop no handle. -/
theorem run_held_iff :
    Along (step w) (fun mon e => Held w (step w mon e)) (start w status m) events ↔
      Along (step w) (HandleKept w) (start w status m) events :=
  along_good_iff_always held_step_iff held_start

/-- While no handle of an unfinished run is dropped, at most one corrective run of the
service is alive. -/
theorem run_one_alive (hkept : Along (step w) (HandleKept w) (start w status m) events) :
    OneAlive (start w status m) ∧
      Along (step w) (fun mon e => OneAlive (step w mon e)) (start w status m) events := by
  have hheld := run_held_iff.mpr hkept
  exact ⟨held_start.oneAlive, along_imp (fun _ _ hinv => Held.oneAlive hinv) hheld⟩

/-- The first action outlasts two failing checks, the second one starts and ends, and
then the service is well again. -/
def fixedSlowly : List Event :=
  interval false ++ interval false ++ .finish 0 (.output true) :: interval false ++
    .finish 1 (.output true) :: interval true

theorem run_one_alive_fixedSlowly :
    OneAlive (fresh .Nginx) ∧
      Along (step (watchOf .Nginx)) (fun mon e => OneAlive (step (watchOf .Nginx) mon e))
        (fresh .Nginx) fixedSlowly :=
  run_one_alive (by decide +kernel)

/-- Nginx answers once while it is being restarted. -/
def answersOnce : List Event := interval false ++ interval true ++ interval false

theorem run_answersOnce_two_alive :
    ¬ Along (step (watchOf .Nginx)) (fun mon e => OneAlive (step (watchOf .Nginx) mon e))
      (fresh .Nginx) answersOnce := by
  decide +kernel

/-- A reset does the same to the supervisor of Xray. -/
example :
    alive (run (step (watchOf SvcKind.superXray)) (fresh SvcKind.superXray)
      (interval false ++ .resetFix (.ok ()) :: interval false)) = [0, 1] := by
  decide +kernel

end Results

end Xcplane.OneFix
