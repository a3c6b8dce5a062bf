import Xcplane.SetupTasks
import Xcplane.Specimen
import Xcplane.Lib.Trace

/-!
The Reload that a completed task leaves to the last running one: whether it is sent
in the end.
-/

namespace Xcplane.DelayedReload

open Xcplane.Types
open Xcplane.Lib
open Xcplane.SetupTasks

/-- The task may still send a Reload. -/
def Able : Stage → Prop
  | .working => True
  | .inquiring => True
  | .clear => True
  | .reloading => False
  | .ended => False

instance : DecidablePred Able
  | .working => isTrue trivial
  | .inquiring => isTrue trivial
  | .clear => isTrue trivial
  | .reloading => isFalse id
  | .ended => isFalse id

/-- Once no task is running and one has completed in this cycle, a Reload was sent
after it. -/
def ReloadSent (d : Core) : Prop :=
  d.running = true → d.completed = true → (∀ t ∈ d.tasks, t.stage = .ended) →
    d.reloadSent = true

/-- A task that fails is not the last one to which another has left its Reload. -/
def LastSucceeds (d : Core) : Event → Prop
  | .fail i _ => d.running = true → d.completed = true →
      (d.tasks[i]?.any fun t => t.stage = .working) = true → d.reloadSent = true ∨
        ∃ (j : Nat) (t : Task), d.tasks[j]? = some t ∧ j ≠ i ∧ Able t.stage
  | _ => True

/-- A Reload was sent, or a task is left that may send it. -/
def Awaited (d : Core) : Prop :=
  d.reloadSent = true ∨ ∃ (j : Nat) (t : Task), d.tasks[j]? = some t ∧ Able t.stage

def Kept (d : Core) : Prop :=
  Registry d ∧ (d.running = true → d.completed = true → Awaited d)

section Steps

variable {d d' : Core}

theorem reloadSent_of_kept (h : Kept d) : ReloadSent d := by
  intro hrunning hcompleted hended
  rcases h.2 hrunning hcompleted with hsent | ⟨j, t, ht, hable⟩
  · exact hsent
  · rw [hended t (List.mem_of_getElem? ht)] at hable
    exact hable.elim

theorem Awaited.mono (h : Awaited d) (hsent : d.reloadSent = true → d'.reloadSent = true)
    (htasks : ∀ (j : Nat) (t : Task), d.tasks[j]? = some t → Able t.stage →
      ∃ t' : Task, d'.tasks[j]? = some t' ∧ Able t'.stage) : Awaited d' := by
  rcases h with h | ⟨j, t, ht, hable⟩
  · exact .inl (hsent h)
  · obtain ⟨t', ht', hable'⟩ := htasks j t ht hable
    exact .inr ⟨j, t', ht', hable'⟩

theorem Awaited.starts (h : Awaited d) (hstarts : Starts d d') : Awaited d' := by
  refine h.mono ?_ fun j t ht hable => ⟨t, hstarts.getElem? ht, hable⟩
  intro hsent
  rw [hstarts.flags.2, hsent]

theorem Awaited.setStage {i : Nat} {stage : Stage} (h : Awaited d)
    (hi : ∀ t, d.tasks[i]? = some t → Able t.stage → Able stage) :
    Awaited (setStage i stage d) := by
  refine h.mono id ?_
  intro j t ht hable
  rw [getElem?_setStage, ht]
  split
  · rename_i hij
    subst hij
    exact ⟨_, rfl, hi t ht hable⟩
  · exact ⟨t, rfl, hable⟩

theorem awaited_of_setStage {i : Nat} {stage : Stage} (hi : i < d.tasks.length)
    (hable : Able stage) : Awaited (setStage i stage d) := by
  refine .inr ⟨i, { d.tasks[i] with stage }, ?_, hable⟩
  rw [getElem?_setStage, if_pos rfl, List.getElem?_eq_getElem hi]
  rfl

theorem able_of_registrable {stage : Stage} (h : Registrable stage) (hne : stage ≠ .ended) :
    Able stage := by
  cases stage with
  | working => trivial
  | inquiring => trivial
  | clear => exact h.elim
  | reloading => exact h
  | ended => exact absurd rfl hne

/-- A task whose inquiry finds another one leaves its Reload to one that may still
send it. -/
theorem Awaited.setupInquiry {entry : TaskEntry} {i : Nat} (h : Awaited d) (hd : Registry d)
    (hsender : ∃ t, d.tasks[i]? = some t ∧ t.entry = entry) :
    Awaited (setupInquiry entry i d) := by
  unfold SetupTasks.setupInquiry
  simp only
  split
  · have hlt : i < d.tasks.length := by
      obtain ⟨t, ht, _⟩ := hsender
      exact (List.getElem?_eq_some_iff.mp ht).1
    cases hfound : (removeEntry entry d).taskmap.any
        (fun p => !isFinished (removeEntry entry d) p.2) with
    | false => exact awaited_of_setStage hlt trivial
    | true =>
        obtain ⟨⟨entry', j⟩, hp, hunfinished⟩ := List.any_eq_true.mp hfound
        have hj : j ≠ i := by
          rintro rfl
          exact hd.not_mem_removeEntry hsender entry' hp
        obtain ⟨t, ht, _, hregistrable⟩ := hd.removeEntry.keyed entry' j hp
        have hne : t.stage ≠ .ended := by
          intro hended
          have hfinished : isFinished (removeEntry entry d) j = true := by
            rw [isFinished_eq_true]
            intro t' ht'
            rw [ht, Option.some.injEq] at ht'
            rw [← ht', hended]
          rw [hfinished] at hunfinished
          cases hunfinished
        refine .inr ⟨j, t, ?_, able_of_registrable hregistrable hne⟩
        rw [getElem?_setStage, if_neg hj.symm, ht]
  · exact h

theorem Awaited.answerReload {i : Nat} (h : Awaited d) : Awaited (answerReload i d) := by
  unfold SetupTasks.answerReload
  split
  · rename_i hreloading
    refine h.setStage ?_
    intro t ht hable
    rw [ht, Option.map_some, Option.some.injEq] at hreloading
    rw [hreloading] at hable
    exact hable.elim
  · exact h

theorem awaited_checked {verdict : Verdict} (h : d.completed = true → Awaited d) :
    (checked verdict d).running = true → (checked verdict d).completed = true →
      Awaited (checked verdict d) := by
  cases verdict with
  | refused => exact fun _ => h
  | applied cloud =>
      rintro _ ⟨⟩
  | stopped =>
      rintro ⟨⟩

theorem setupInquiry_completed {entry : TaskEntry} {i : Nat} :
    (setupInquiry entry i d).completed = d.completed := by
  unfold setupInquiry
  simp only
  split
  · rfl
  · rfl

theorem answerReload_completed {i : Nat} : (answerReload i d).completed = d.completed := by
  unfold answerReload
  split
  · rfl
  · rfl

theorem awaited_answer {verdict : Verdict} {request : Request} (hd : Registry d)
    (hsender : ∀ entry i, request = .SetupInquiry entry i →
      ∃ t, d.tasks[i]? = some t ∧ t.entry = entry)
    (h : d.completed = true → Awaited d) :
    (answer verdict d request).running = true → (answer verdict d request).completed = true →
      Awaited (answer verdict d request) := by
  cases request with
  | cli command =>
      cases command with
      | Expand name =>
          intro _ hcompleted
          have hstarts : Starts d (expandCloud name d) := expandCloud_starts
          exact (h (hstarts.flags.1.symm.trans hcompleted)).starts hstarts
      | Destroy name =>
          intro _ hcompleted
          have hstarts : Starts d (performServerDestruction name d) :=
            performServerDestruction_starts
          exact (h (hstarts.flags.1.symm.trans hcompleted)).starts hstarts
      | Check comm => exact awaited_checked h
      | Shutdown =>
          rintro ⟨⟩
      | Other => exact fun _ => h
  | SetupInquiry entry sender =>
      intro _ hcompleted
      rw [answer, setupInquiry_completed] at hcompleted
      exact (h hcompleted).setupInquiry hd (hsender entry sender rfl)
  | Reload sender =>
      refine awaited_checked ?_
      intro hcompleted
      rw [answerReload_completed] at hcompleted
      exact (h hcompleted).answerReload

theorem step_kept (d : Core) (e : Event) (h : Kept d) (hlast : LastSucceeds d e) :
    Kept (step d e) := by
  refine ⟨h.1.step d e, ?_⟩
  cases e with
  | send command =>
      intro hrunning hcompleted
      refine (h.2 hrunning hcompleted).mono ?_ fun j t ht hable => ⟨t, ht, hable⟩
      intro hsent
      show (d.reloadSent || isReload command) = true
      rw [hsent, Bool.true_or]
  | process verdict =>
      simp only [step]
      split
      · rename_i hrunning hqueue
        refine awaited_answer (h.1.pop hqueue) ?_ (h.2 hrunning)
        rintro entry i rfl
        exact h.1.inquirers entry i (hqueue ▸ List.mem_cons_self)
      · exact h.2
  | complete i xuiToken =>
      simp only [step]
      split
      · rename_i entry cycle hi
        intro _ _
        obtain ⟨cloud, hmark⟩ := markServer_frame ⟨entry, cycle, .working⟩ xuiToken
          (setStage i .inquiring d)
        rw [hmark]
        refine .inr ⟨i, ⟨entry, cycle, .inquiring⟩, ?_, trivial⟩
        show (setStage i .inquiring d).tasks[i]? = _
        rw [getElem?_setStage, if_pos rfl, hi]
        rfl
      · exact h.2
  | fail i marked =>
      simp only [step]
      split
      · rename_i entry cycle hi
        have hawaited : d.running = true → d.completed = true → Awaited (setStage i .ended d) := by
          intro hrunning hcompleted
          rcases hlast hrunning hcompleted (by rw [hi]; rfl) with hsent | ⟨j, t, ht, hj, hable⟩
          · exact .inl hsent
          · refine .inr ⟨j, t, ?_, hable⟩
            rw [getElem?_setStage, if_neg hj.symm, ht]
        split
        · exact hawaited
        · rename_i xuiToken
          obtain ⟨cloud, hmark⟩ := markServer_frame ⟨entry, cycle, .working⟩ xuiToken
            (setStage i .ended d)
          rw [hmark]
          exact hawaited
      · exact h.2
  | reload i =>
      simp only [step]
      split
      · exact fun _ _ => .inl rfl
      · exact h.2

/-- A run in which no task fails as the last one after another has left its Reload
to it. -/
theorem run_reload_sent (cloud : Cloud) (events : List Event)
    (h : Along step LastSucceeds (begin cloud) events) :
    Along step (fun d e => ReloadSent (step d e)) (begin cloud) events := by
  refine along_of_inv step_kept ?_ ⟨registry_begin cloud, ?_⟩ h
  · exact fun d e hkept hlast => reloadSent_of_kept (step_kept d e hkept hlast)
  · rintro _ ⟨⟩

end Steps

section Instances

open Xcplane.Specimen

instance (d : Core) : Decidable (ReloadSent d) :=
  inferInstanceAs (Decidable (_ → _ → (∀ t ∈ d.tasks, _) → _))

/-- `beta` is being set up while `alpha` is being destroyed. -/
def bothRunning : List Event :=
  [.send (.Expand none), .process .refused, .send (.Destroy "alpha"), .process .refused]

theorem run_reload_sent_failedFirst :
    Along step (fun d e => ReloadSent (step d e)) (begin (cloud [alpha, beta]))
      (bothRunning ++ [.fail 1 none, .complete 0 "token", .process .refused, .reload 0]) := by
  refine run_reload_sent _ _ ⟨trivial, trivial, trivial, trivial, ?_, trivial, trivial, trivial,
    trivial⟩
  intro _ hcompleted
  have hnone : (run step (begin (cloud [alpha, beta])) bothRunning).completed = false := by
    decide +kernel
  exact absurd (hnone.symm.trans hcompleted) Bool.false_ne_true

/-- The setup completes while the destruction is running, and the destruction fails. -/
theorem run_left_unsent :
    ¬ Along step (fun d e => ReloadSent (step d e)) (begin (cloud [alpha, beta]))
      (bothRunning ++ [.complete 0 "token", .process .refused, .fail 1 none]) := by
  decide +kernel

end Instances

end Xcplane.DelayedReload
