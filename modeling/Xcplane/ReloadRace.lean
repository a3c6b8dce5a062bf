import Xcplane.SetupTasks
import Xcplane.Specimen
import Xcplane.Lib.Trace

/-!
The Reload that a task sends after it was told that no other is running: whether
none is running any more when the daemon processes it.
-/

namespace Xcplane.ReloadRace

open Xcplane.Types
open Xcplane.Lib
open Xcplane.SetupTasks

/-- The server of the task is still being provisioned or destroyed, or the daemon
does not know yet that it was. -/
def Active (stage : Stage) : Prop :=
  stage = .working ∨ stage = .inquiring

/-- The task was told that no other is running, and its Reload is not processed. -/
def Pending (stage : Stage) : Prop :=
  stage = .clear ∨ stage = .reloading

instance : DecidablePred Active := fun stage =>
  inferInstanceAs (Decidable (stage = .working ∨ stage = .inquiring))

instance : DecidablePred Pending := fun stage =>
  inferInstanceAs (Decidable (stage = .clear ∨ stage = .reloading))

def sender? : Request → Option Nat
  | .Reload sender => some sender
  | _ => none

/-- The inquiry takes the registered task out, which is not its sender. -/
def takesOut : Request → TaskEntry × Nat → Bool
  | .SetupInquiry entry sender, p => p.1 = entry && p.2 ≠ sender
  | _, _ => false

/-- The Reload of a task is processed when no other task is running. -/
def Undisturbed (d : Core) : Event → Prop
  | .process _ => d.running = true → ∀ sender ∈ d.queue.head?.bind sender?,
      ∀ (j : Nat) (t : Task), d.tasks[j]? = some t → j ≠ sender → ¬ Active t.stage
  | _ => True

/-- No request starts a task while a Reload is pending, and an inquiry takes no other
running task than its sender out of the registry. -/
def Separate (d : Core) : Event → Prop
  | .process _ => d.running = true → ∀ request ∈ d.queue.head?,
      (d.tasks.length <
          (answer .refused { d with queue := d.queue.tail } request).tasks.length →
        ∀ t ∈ d.tasks, ¬ Pending t.stage) ∧
      ∀ p ∈ d.taskmap, takesOut request p = true → isFinished d p.2 = true
  | _ => True

instance (d : Core) : ∀ e, Decidable (Separate d e)
  | .process _ => inferInstanceAs (Decidable (_ → ∀ request ∈ d.queue.head?, _ ∧ _))
  | .send _ => isTrue trivial
  | .complete _ _ => isTrue trivial
  | .fail _ _ => isTrue trivial
  | .reload _ => isTrue trivial

/-- No inquiry takes a task out of the registry that is running and not its sender. -/
def Spares (d : Core) : Event → Prop
  | .process _ => d.running = true → ∀ request ∈ d.queue.head?,
      ∀ p ∈ d.taskmap, takesOut request p = true → isFinished d p.2 = true
  | _ => True

instance (d : Core) : ∀ e, Decidable (Spares d e)
  | .process _ => inferInstanceAs (Decidable (_ → ∀ request ∈ d.queue.head?, _))
  | .send _ => isTrue trivial
  | .complete _ _ => isTrue trivial
  | .fail _ _ => isTrue trivial
  | .reload _ => isTrue trivial

/-- Every active task is in the registry. -/
structure Tracked (d : Core) : Prop where
  registry : Registry d
  active : ∀ (i : Nat) (t : Task), d.tasks[i]? = some t → Active t.stage →
    (t.entry, i) ∈ d.taskmap
  keys : (d.taskmap.map Prod.fst).Nodup
  oneSetup : ∀ p ∈ d.taskmap, ∀ q ∈ d.taskmap,
    isFullSetup p.1 = true → isFullSetup q.1 = true → p = q
  asked : ∀ entry i, .SetupInquiry entry i ∈ d.queue →
    ∀ t, d.tasks[i]? = some t → t.stage ≠ .working

def Quiet (d : Core) : Prop :=
  ∀ (j : Nat) (t : Task), d.tasks[j]? = some t → ¬ Active t.stage

/-- While a Reload is pending, no task is active. -/
def Alone (d : Core) : Prop :=
  (∃ t ∈ d.tasks, Pending t.stage) → Quiet d

/-- Each Reload in the channel is of another task, which waits for its answer. -/
structure Waiting (d : Core) : Prop where
  reloaders : ∀ i, .Reload i ∈ d.queue → ∃ t, d.tasks[i]? = some t ∧ t.stage = .reloading
  nodup : (d.queue.filterMap sender?).Nodup

section Tracking

variable {d : Core} {i : Nat} {entry : TaskEntry} {stage : Stage}

theorem not_active_ended : ¬ Active .ended := by
  decide

theorem not_active_of_finished (h : isFinished d i = true) {t : Task}
    (ht : d.tasks[i]? = some t) : ¬ Active t.stage := by
  rw [isFinished_eq_true.mp h t ht]
  exact not_active_ended

theorem Tracked.sameTasks {d' : Core} (h : Tracked d) (htasks : d'.tasks = d.tasks)
    (htaskmap : d'.taskmap = d.taskmap)
    (hqueue : ∀ entry i, .SetupInquiry entry i ∈ d'.queue → .SetupInquiry entry i ∈ d.queue) :
    Tracked d' where
  registry := h.registry.sameTasks htasks (fun _ hp => htaskmap ▸ hp) hqueue
  active i t ht hactive := by
    rw [htaskmap]
    exact h.active i t (htasks ▸ ht) hactive
  keys := htaskmap ▸ h.keys
  oneSetup := htaskmap ▸ h.oneSetup
  asked entry i hr t ht := h.asked entry i (hqueue entry i hr) t (htasks ▸ ht)

theorem Tracked.enqueue {request : Request} (h : Tracked d)
    (hsender : ∀ entry i, request = .SetupInquiry entry i →
      ∃ t, d.tasks[i]? = some t ∧ t.entry = entry ∧ t.stage ≠ .working)
    (completed reloadSent : Bool) :
    Tracked { d with queue := d.queue ++ [request], completed, reloadSent } where
  registry := by
    refine h.registry.enqueue ?_ completed reloadSent
    intro entry i hrequest
    obtain ⟨t, ht, hentry, _⟩ := hsender entry i hrequest
    exact ⟨t, ht, hentry⟩
  active := h.active
  keys := h.keys
  oneSetup := h.oneSetup
  asked entry i hr t ht := by
    rcases List.mem_append.mp hr with hr | hr
    · exact h.asked entry i hr t ht
    · obtain ⟨t', ht', _, hworking⟩ := hsender entry i (List.mem_singleton.mp hr).symm
      rw [ht, Option.some.injEq] at ht'
      rwa [ht']

theorem Tracked.removeEntry (h : Tracked d)
    (hfree : ∀ j, (entry, j) ∈ d.taskmap → isFinished d j = true) :
    Tracked (removeEntry entry d) where
  registry := h.registry.removeEntry
  active j t ht hactive := by
    have hp := h.active j t ht hactive
    refine List.mem_filter.mpr ⟨hp, ?_⟩
    have hne : t.entry ≠ entry := by
      rintro rfl
      exact not_active_of_finished (hfree j hp) ht hactive
    simpa using hne
  keys := (List.filter_sublist.map Prod.fst).nodup h.keys
  oneSetup p hp q hq := h.oneSetup p (List.mem_of_mem_filter hp) q (List.mem_of_mem_filter hq)
  asked := h.asked

theorem Tracked.spawnTask (h : Tracked d) (hfresh : entry ∉ d.taskmap.map Prod.fst)
    (hone : isFullSetup entry = true → ∀ p ∈ d.taskmap, isFullSetup p.1 = false) :
    Tracked (spawnTask entry d) := by
  have htaskmap : (SetupTasks.spawnTask entry d).taskmap =
      d.taskmap ++ [(entry, d.tasks.length)] := if_neg hfresh
  constructor
  · exact h.registry.spawnTask
  · intro j t ht hactive
    rw [htaskmap, List.mem_append]
    rw [getElem?_spawnTask] at ht
    split at ht
    · rename_i hj
      cases ht
      right
      rw [hj]
      exact List.mem_singleton_self _
    · exact .inl (h.active j t ht hactive)
  · rw [htaskmap, List.map_append]
    refine List.nodup_append.mpr ⟨h.keys, List.nodup_singleton _, ?_⟩
    rintro a ha b hb rfl
    rw [List.mem_singleton.mp hb] at ha
    exact hfresh ha
  · rw [htaskmap]
    intro p hp q hq hpsetup hqsetup
    rw [List.mem_append, List.mem_singleton] at hp hq
    rcases hp with hp | rfl
    · rcases hq with hq | rfl
      · exact h.oneSetup p hp q hq hpsetup hqsetup
      · rw [hone hqsetup p hp] at hpsetup
        cases hpsetup
    · rcases hq with hq | rfl
      · rw [hone hpsetup q hq] at hqsetup
        cases hqsetup
      · rfl
  · intro entry' j hr t ht
    obtain ⟨t', ht', _⟩ := h.registry.inquirers entry' j hr
    have hlt := (List.getElem?_eq_some_iff.mp ht').1
    rw [getElem?_spawnTask, if_neg (by omega)] at ht
    exact h.asked entry' j hr t ht

/-- A task that goes on stays registered, and only an active one goes on to be active. -/
theorem Tracked.setStage (h : Tracked d) (hregistry : Registry (setStage i stage d))
    (hactive : Active stage → ∀ t, d.tasks[i]? = some t → Active t.stage)
    (hworking : stage ≠ .working) : Tracked (setStage i stage d) where
  registry := hregistry
  active j t ht hstage := by
    rw [getElem?_setStage] at ht
    split at ht
    · rename_i hij
      subst hij
      obtain ⟨t', ht', rfl⟩ := Option.map_eq_some_iff.mp ht
      exact h.active i t' ht' (hactive hstage t' ht')
    · exact h.active j t ht hstage
  keys := h.keys
  oneSetup := h.oneSetup
  asked entry j hr t ht := by
    rw [getElem?_setStage] at ht
    split at ht
    · obtain ⟨t', _, rfl⟩ := Option.map_eq_some_iff.mp ht
      exact hworking
    · exact h.asked entry j hr t ht

theorem quiet_abortAll (h : Tracked d) : Quiet (abortAll d) := by
  intro j t ht hactive
  rw [getElem?_abortAll] at ht
  obtain ⟨t', ht', rfl⟩ := Option.map_eq_some_iff.mp ht
  split at hactive
  · exact not_active_ended hactive
  · rename_i hnot
    exact hnot (List.mem_map_of_mem (h.active j t' ht' hactive))

theorem Tracked.abortAll (h : Tracked d) : Tracked (abortAll d) where
  registry := h.registry.abortAll
  active j t ht hactive := (quiet_abortAll h j t ht hactive).elim
  keys := List.nodup_nil
  oneSetup := by
    rintro _ ⟨⟩
  asked entry j hr t ht := by
    rw [getElem?_abortAll] at ht
    obtain ⟨t', ht', rfl⟩ := Option.map_eq_some_iff.mp ht
    split
    · show Stage.ended ≠ .working
      decide
    · exact h.asked entry j hr t' ht'

theorem Tracked.markServer {t : Task} {xuiToken : String} (h : Tracked d) :
    Tracked (markServer t xuiToken d) := by
  obtain ⟨cloud, hmark⟩ := markServer_frame t xuiToken d
  rw [hmark]
  exact h.sameTasks rfl rfl fun _ _ hr => hr

end Tracking

section Requests

variable {d : Core} {verdict : Verdict}

/-- The registry after a request that may start a task. -/
theorem Tracked.expandCloud {name : Option String} (h : Tracked d) :
    Tracked (expandCloud name d) := by
  unfold SetupTasks.expandCloud
  split
  · exact h
  · rename_i s _
    split
    · rename_i hnone
      have hfree : ∀ p ∈ d.taskmap, isFullSetup p.1 = false := by
        intro p hp
        simpa using List.find?_eq_none.mp hnone p hp
      refine h.spawnTask ?_ fun _ => hfree
      intro hmem
      obtain ⟨p, hp, hentry⟩ := List.mem_map.mp hmem
      have hfalse := hfree p hp
      rw [hentry] at hfalse
      cases hfalse
    · rename_i entry i hfound
      have hmem := List.mem_of_find?_eq_some hfound
      have hsetup : isFullSetup entry = true := by simpa using List.find?_some hfound
      split
      · rename_i hfinished
        have hremoved : Tracked (SetupTasks.removeEntry entry d) := by
          refine h.removeEntry ?_
          intro j hj
          have heq := h.oneSetup _ hj _ hmem hsetup hsetup
          cases heq
          exact hfinished
        have hfree : ∀ p ∈ (SetupTasks.removeEntry entry d).taskmap, isFullSetup p.1 = false := by
          intro p hp
          obtain ⟨hp, hne⟩ := List.mem_filter.mp hp
          by_contra hpsetup
          have heq := h.oneSetup p hp _ hmem (by simpa using hpsetup) hsetup
          rw [heq] at hne
          simp at hne
        refine hremoved.spawnTask ?_ fun _ => hfree
        intro hmem
        obtain ⟨p, hp, hentry⟩ := List.mem_map.mp hmem
        have hfalse := hfree p hp
        rw [hentry] at hfalse
        cases hfalse
      · exact h

theorem Tracked.performServerDestruction {name : String} (h : Tracked d) :
    Tracked (performServerDestruction name d) := by
  unfold SetupTasks.performServerDestruction
  split
  · exact h
  · split
    · exact h
    · rename_i hfresh
      refine h.spawnTask hfresh ?_
      rintro ⟨⟩

theorem Tracked.checked (h : Tracked d) : Tracked (checked verdict d) := by
  cases verdict with
  | refused => exact h
  | applied cloud => exact h.abortAll.sameTasks rfl rfl fun _ _ hr => hr
  | stopped => exact h.abortAll.sameTasks rfl rfl fun _ _ hr => hr

theorem Tracked.answerReload {i : Nat} (h : Tracked d) : Tracked (answerReload i d) := by
  unfold SetupTasks.answerReload
  split
  · have hended : Registrable .ended := trivial
    refine h.setStage (h.registry.setStage (.inl hended)) ?_ (by decide)
    exact fun hactive => absurd hactive not_active_ended
  · exact h

/-- What an inquiry does: nothing but take the entry out when its sender does not wait
any more, and else the sender ends or is told that no other task is running. -/
inductive Inquired (entry : TaskEntry) (i : Nat) (d d' : Core) : Prop
  | gone (hstage : ∀ t, d.tasks[i]? = some t → t.stage ≠ .inquiring)
      (hd' : d' = removeEntry entry d)
  | found (hd' : d' = setStage i .ended (removeEntry entry d))
  | last (hlast : ∀ p ∈ (removeEntry entry d).taskmap, isFinished d p.2 = true)
      (hd' : d' = setStage i .clear (removeEntry entry d))

theorem setupInquiry_inquired {entry : TaskEntry} {i : Nat} :
    Inquired entry i d (setupInquiry entry i d) := by
  unfold setupInquiry
  simp only
  split
  · cases hfound : (removeEntry entry d).taskmap.any
        (fun p => !isFinished (removeEntry entry d) p.2) with
    | true => exact .found rfl
    | false =>
        refine .last ?_ rfl
        intro p hp
        show isFinished (removeEntry entry d) p.2 = true
        simpa using List.any_eq_false.mp hfound p hp
  · rename_i hstage
    refine .gone ?_ rfl
    intro t ht hinquiring
    refine hstage ?_
    show d.tasks[i]?.map Task.stage = some .inquiring
    rw [ht, Option.map_some, hinquiring]

/-- After an inquiry its sender is not active, and no other task has changed. -/
theorem Inquired.task {entry : TaskEntry} {i : Nat} {d' : Core} (h : Inquired entry i d d')
    (hasked : ∀ t, d.tasks[i]? = some t → t.stage ≠ .working) {j : Nat} {t : Task}
    (ht : d'.tasks[j]? = some t) :
    (j = i ∧ ¬ Active t.stage ∧ t.stage ≠ .working) ∨ (j ≠ i ∧ d.tasks[j]? = some t) := by
  have hset : ∀ stage, ¬ Active stage → stage ≠ .working →
      (setStage i stage (removeEntry entry d)).tasks[j]? = some t →
        (j = i ∧ ¬ Active t.stage ∧ t.stage ≠ .working) ∨ (j ≠ i ∧ d.tasks[j]? = some t) := by
    intro stage hactive hworking ht
    rw [getElem?_setStage] at ht
    split at ht
    · rename_i hij
      obtain ⟨t', _, rfl⟩ := Option.map_eq_some_iff.mp ht
      exact .inl ⟨hij.symm, hactive, hworking⟩
    · rename_i hij
      exact .inr ⟨Ne.symm hij, ht⟩
  cases h with
  | gone hstage hd' =>
      rw [hd'] at ht
      rcases eq_or_ne j i with rfl | hj
      · refine .inl ⟨rfl, ?_, hasked t ht⟩
        rintro (hworking | hinquiring)
        · exact hasked t ht hworking
        · exact hstage t ht hinquiring
      · exact .inr ⟨hj, ht⟩
  | found hd' => exact hset .ended (by decide) (by decide) (hd' ▸ ht)
  | last _ hd' => exact hset .clear (by decide) (by decide) (hd' ▸ ht)

theorem Inquired.frame {entry : TaskEntry} {i : Nat} {d' : Core} (h : Inquired entry i d d') :
    d'.taskmap = (removeEntry entry d).taskmap ∧ d'.queue = d.queue := by
  cases h with
  | gone _ hd' => exact ⟨by rw [hd'], by rw [hd']; rfl⟩
  | found hd' => exact ⟨by rw [hd']; rfl, by rw [hd']; rfl⟩
  | last _ hd' => exact ⟨by rw [hd']; rfl, by rw [hd']; rfl⟩

/-- The inquiry of a task ends its registration, and that of no other active one. -/
theorem Tracked.setupInquiry {entry : TaskEntry} {i : Nat} (h : Tracked d)
    (hsender : ∃ t, d.tasks[i]? = some t ∧ t.entry = entry)
    (hasked : ∀ t, d.tasks[i]? = some t → t.stage ≠ .working)
    (hfree : ∀ j, (entry, j) ∈ d.taskmap → j = i ∨ isFinished d j = true) :
    Tracked (setupInquiry entry i d) := by
  have hinquired : Inquired entry i d (SetupTasks.setupInquiry entry i d) := setupInquiry_inquired
  obtain ⟨htaskmap, hqueue⟩ := hinquired.frame
  constructor
  · exact h.registry.setupInquiry hsender
  · intro j t ht hactive
    rcases hinquired.task hasked ht with ⟨_, hnot, _⟩ | ⟨hj, hold⟩
    · exact absurd hactive hnot
    · have hp := h.active j t hold hactive
      rw [htaskmap]
      refine List.mem_filter.mpr ⟨hp, ?_⟩
      have hne : t.entry ≠ entry := by
        rintro rfl
        rcases hfree j hp with heq | hfinished
        · exact hj heq
        · exact not_active_of_finished hfinished hold hactive
      simpa using hne
  · rw [htaskmap]
    exact (List.filter_sublist.map Prod.fst).nodup h.keys
  · rw [htaskmap]
    exact fun p hp q hq =>
      h.oneSetup p (List.mem_of_mem_filter hp) q (List.mem_of_mem_filter hq)
  · intro entry' j hr t ht
    rw [hqueue] at hr
    rcases hinquired.task hasked ht with ⟨_, _, hworking⟩ | ⟨_, ht⟩
    · exact hworking
    · exact h.asked entry' j hr t ht

end Requests

section Steps

variable {d : Core} {e : Event}

/-- A working task goes on to a stage in which it is still registered. -/
theorem Tracked.goOn {i : Nat} {entry : TaskEntry} {cycle : Nat} (h : Tracked d)
    (hi : d.tasks[i]? = some ⟨entry, cycle, .working⟩) (stage : Stage)
    (hregistrable : Registrable stage) (hworking : stage ≠ .working) :
    Tracked (SetupTasks.setStage i stage d) := by
  refine h.setStage (h.registry.setStage (.inl hregistrable)) ?_ hworking
  intro _ t ht
  rw [hi, Option.some.injEq] at ht
  subst ht
  exact .inl rfl

theorem Tracked.sendReload {i : Nat} {entry : TaskEntry} {cycle : Nat} (h : Tracked d)
    (hi : d.tasks[i]? = some ⟨entry, cycle, .clear⟩) :
    Tracked (SetupTasks.setStage i .reloading d) := by
  refine h.setStage (h.registry.setStage (.inr ?_))
    (fun hactive => absurd hactive (by decide)) (by decide)
  intro entry' hp
  obtain ⟨t, ht, _, hregistrable⟩ := h.registry.keyed entry' i hp
  rw [hi, Option.some.injEq] at ht
  subst ht
  exact hregistrable

theorem Tracked.pop {request : Request} {rest : List Request} (h : Tracked d)
    (hqueue : d.queue = request :: rest) : Tracked { d with queue := rest } :=
  h.sameTasks rfl rfl fun entry i hr => by
    rw [hqueue]
    exact List.mem_cons_of_mem request hr

/-- The sender of the first request, if it is an inquiry. -/
theorem Tracked.inquirer {entry : TaskEntry} {sender : Nat} {rest : List Request}
    (h : Tracked d) (hqueue : d.queue = .SetupInquiry entry sender :: rest)
    (hspares : ∀ p ∈ d.taskmap, takesOut (.SetupInquiry entry sender) p = true →
      isFinished d p.2 = true) :
    (∃ t, d.tasks[sender]? = some t ∧ t.entry = entry) ∧
      (∀ t, d.tasks[sender]? = some t → t.stage ≠ .working) ∧
      ∀ j, (entry, j) ∈ d.taskmap → j = sender ∨ isFinished d j = true := by
  have hmem : .SetupInquiry entry sender ∈ d.queue := by
    rw [hqueue]
    exact List.mem_cons_self
  refine ⟨h.registry.inquirers entry sender hmem, h.asked entry sender hmem, ?_⟩
  intro j hp
  rw [or_iff_not_imp_left]
  intro hj
  exact hspares (entry, j) hp (by simp [takesOut, hj])

theorem Tracked.answer {verdict : Verdict} {request : Request} {rest : List Request}
    (h : Tracked d) (hqueue : d.queue = request :: rest)
    (hspares : ∀ p ∈ d.taskmap, takesOut request p = true → isFinished d p.2 = true) :
    Tracked (SetupTasks.answer verdict { d with queue := rest } request) := by
  have hrest := h.pop hqueue
  cases request with
  | cli command =>
      cases command with
      | Expand name => exact hrest.expandCloud
      | Destroy name => exact hrest.performServerDestruction
      | Check comm => exact hrest.checked
      | Shutdown => exact hrest.abortAll.sameTasks rfl rfl fun _ _ hr => hr
      | Other => exact hrest
  | SetupInquiry entry sender =>
      obtain ⟨hsender, hasked, hfree⟩ := h.inquirer hqueue hspares
      exact hrest.setupInquiry hsender hasked hfree
  | Reload sender => exact hrest.answerReload.checked

theorem Tracked.complete {i : Nat} {entry : TaskEntry} {cycle : Nat} {xuiToken : String}
    (h : Tracked d) (hi : d.tasks[i]? = some ⟨entry, cycle, .working⟩)
    (completed reloadSent : Bool) :
    let marked := SetupTasks.markServer ⟨entry, cycle, .working⟩ xuiToken
      (SetupTasks.setStage i .inquiring d)
    Tracked
      { marked with
        queue := marked.queue ++ [.SetupInquiry entry i]
        completed
        reloadSent } := by
  have hinquiring := h.goOn hi .inquiring trivial (by decide)
  refine hinquiring.markServer.enqueue ?_ completed reloadSent
  rintro _ _ ⟨⟩
  obtain ⟨cloud, hmark⟩ := markServer_frame ⟨entry, cycle, .working⟩ xuiToken
    (SetupTasks.setStage i .inquiring d)
  refine ⟨⟨entry, cycle, .inquiring⟩, ?_, rfl, by rintro ⟨⟩⟩
  rw [hmark]
  show (SetupTasks.setStage i .inquiring d).tasks[i]? = _
  rw [getElem?_setStage, if_pos rfl, hi]
  rfl

theorem Tracked.step (d : Core) (e : Event) (h : Tracked d) (hspares : Spares d e) :
    Tracked (SetupTasks.step d e) := by
  cases e with
  | send command => exact h.sameTasks rfl rfl (by simp [SetupTasks.step])
  | process verdict =>
      simp only [SetupTasks.step]
      split
      · rename_i request rest hrunning hqueue
        exact h.answer hqueue (hspares hrunning request (by rw [hqueue]; rfl))
      · exact h
  | complete i xuiToken =>
      simp only [SetupTasks.step]
      split
      · rename_i entry cycle hi
        exact h.complete hi true false
      · exact h
  | fail i marked =>
      simp only [SetupTasks.step]
      split
      · rename_i entry cycle hi
        have hended := h.goOn hi .ended trivial (by decide)
        split
        · exact hended
        · exact hended.markServer
      · exact h
  | reload i =>
      simp only [SetupTasks.step]
      split
      · rename_i entry cycle hi
        refine (h.sendReload hi).enqueue ?_ _ _
        rintro _ _ ⟨⟩
      · exact h

theorem tracked_begin (cloud : Cloud) : Tracked (begin cloud) where
  registry := registry_begin cloud
  active := by simp [begin]
  keys := List.nodup_nil
  oneSetup := by simp [begin]
  asked := by simp [begin]

end Steps

section Pending

variable {d d' : Core} {i : Nat} {stage : Stage} {verdict : Verdict}

theorem alone_of_quiet (h : Quiet d) : Alone d :=
  fun _ => h

theorem Alone.mono (h : Alone d)
    (hpending : (∃ t ∈ d'.tasks, Pending t.stage) → ∃ t ∈ d.tasks, Pending t.stage)
    (hactive : ∀ (j : Nat) (t : Task), d'.tasks[j]? = some t → Active t.stage →
      ∃ t' : Task, d.tasks[j]? = some t' ∧ Active t'.stage) : Alone d' := by
  intro hex j t ht htactive
  obtain ⟨t', ht', htactive'⟩ := hactive j t ht htactive
  exact h (hpending hex) j t' ht' htactive'

theorem Alone.setStage (h : Alone d)
    (hpending : Pending stage → ∀ t, d.tasks[i]? = some t → Pending t.stage)
    (hactive : Active stage → ∀ t, d.tasks[i]? = some t → Active t.stage) :
    Alone (setStage i stage d) := by
  refine h.mono ?_ ?_
  · rintro ⟨t, ht, htpending⟩
    obtain ⟨j, ht⟩ := List.mem_iff_getElem?.mp ht
    rw [getElem?_setStage] at ht
    split at ht
    · rename_i hij
      subst hij
      obtain ⟨t', ht', rfl⟩ := Option.map_eq_some_iff.mp ht
      exact ⟨t', List.mem_of_getElem? ht', hpending htpending t' ht'⟩
    · exact ⟨t, List.mem_of_getElem? ht, htpending⟩
  · intro j t ht htactive
    rw [getElem?_setStage] at ht
    split at ht
    · rename_i hij
      subst hij
      obtain ⟨t', ht', rfl⟩ := Option.map_eq_some_iff.mp ht
      exact ⟨t', ht', hactive htactive t' ht'⟩
    · exact ⟨t, ht, htactive⟩

theorem Alone.setStage_ended (h : Alone d) : Alone (SetupTasks.setStage i .ended d) :=
  h.setStage (fun hpending => absurd hpending (by decide))
    fun hactive => absurd hactive not_active_ended

theorem Alone.answerReload (h : Alone d) : Alone (answerReload i d) := by
  unfold SetupTasks.answerReload
  split
  · exact h.setStage_ended
  · exact h

theorem alone_checked (hd : Tracked d) (h : Alone d) : Alone (checked verdict d) := by
  cases verdict with
  | refused => exact h
  | applied cloud => exact alone_of_quiet (quiet_abortAll hd)
  | stopped => exact alone_of_quiet (quiet_abortAll hd)

theorem Alone.starts (h : Alone d) (hstarts : Starts d d')
    (hnone : d.tasks.length < d'.tasks.length → ∀ t ∈ d.tasks, ¬ Pending t.stage) :
    Alone d' := by
  rcases hstarts.tasks with htasks | ⟨entry, htasks⟩
  · unfold Alone Quiet
    rw [htasks]
    exact h
  · have hnone := hnone (by rw [htasks]; simp)
    rintro ⟨t, ht, hpending⟩
    rw [htasks, List.mem_append, List.mem_singleton] at ht
    rcases ht with ht | rfl
    · exact absurd hpending (hnone t ht)
    · exact absurd hpending (by decide : ¬ Pending .working)

theorem Alone.setupInquiry {entry : TaskEntry} (h : Alone d)
    (hd' : Tracked (setupInquiry entry i d))
    (hasked : ∀ t, d.tasks[i]? = some t → t.stage ≠ .working) :
    Alone (setupInquiry entry i d) := by
  have hinquired : Inquired entry i d (SetupTasks.setupInquiry entry i d) := setupInquiry_inquired
  cases hinquired with
  | gone _ heq =>
      rw [heq]
      exact h
  | found heq =>
      rw [heq]
      exact Alone.setStage_ended h
  | last hlast heq =>
      apply alone_of_quiet
      intro j t ht hactive
      rcases setupInquiry_inquired.task hasked ht with ⟨_, hnot, _⟩ | ⟨_, hold⟩
      · exact hnot hactive
      · have hp := hd'.active j t ht hactive
        rw [setupInquiry_inquired.frame.1] at hp
        exact not_active_of_finished (hlast _ hp) hold hactive

end Pending

section Channel

variable {d d' : Core} {i : Nat} {stage : Stage} {verdict : Verdict} {request : Request}

theorem Waiting.mono (h : Waiting d) (hqueue : d'.queue.Sublist d.queue)
    (htasks : ∀ (j : Nat) (t : Task), .Reload j ∈ d'.queue → d.tasks[j]? = some t →
      t.stage = .reloading → ∃ t' : Task, d'.tasks[j]? = some t' ∧ t'.stage = .reloading) :
    Waiting d' where
  reloaders j hr := by
    obtain ⟨t, ht, hstage⟩ := h.reloaders j (hqueue.mem hr)
    exact htasks j t hr ht hstage
  nodup := (hqueue.filterMap sender?).nodup h.nodup

theorem Waiting.setStage (h : Waiting d) (hi : .Reload i ∉ d.queue) :
    Waiting (setStage i stage d) := by
  refine h.mono (List.Sublist.refl _) ?_
  intro j t hr ht hreloading
  have hij : i ≠ j := by
    rintro rfl
    exact hi hr
  exact ⟨t, by rw [getElem?_setStage, if_neg hij, ht], hreloading⟩

theorem Waiting.starts (h : Waiting d) (hstarts : Starts d d') : Waiting d' := by
  refine h.mono (hstarts.queue ▸ List.Sublist.refl _) ?_
  exact fun j t _ ht hreloading => ⟨t, hstarts.getElem? ht, hreloading⟩

theorem Waiting.abortAll (h : Waiting d) (hd : Registry d) : Waiting (abortAll d) := by
  refine h.mono (List.Sublist.refl _) ?_
  intro j t _ ht hreloading
  have hnot : j ∉ d.taskmap.map Prod.snd := by
    intro hj
    obtain ⟨⟨entry, j'⟩, hp, rfl⟩ := List.mem_map.mp hj
    obtain ⟨t', ht', _, hregistrable⟩ := hd.keyed entry j' hp
    rw [ht, Option.some.injEq] at ht'
    subst ht'
    rw [hreloading] at hregistrable
    exact hregistrable
  refine ⟨t, ?_, hreloading⟩
  rw [getElem?_abortAll, ht, Option.map_some, if_neg hnot]

theorem Waiting.checked (h : Waiting d) (hd : Registry d) : Waiting (checked verdict d) := by
  cases verdict with
  | refused => exact h
  | applied cloud => exact ⟨(h.abortAll hd).reloaders, (h.abortAll hd).nodup⟩
  | stopped => exact ⟨(h.abortAll hd).reloaders, (h.abortAll hd).nodup⟩

theorem Waiting.answerReload (h : Waiting d) (hi : .Reload i ∉ d.queue) :
    Waiting (answerReload i d) := by
  unfold SetupTasks.answerReload
  split
  · exact h.setStage hi
  · exact h

theorem not_mem_of_stage (h : Waiting d) {t : Task} (ht : d.tasks[i]? = some t)
    (hstage : t.stage ≠ .reloading) : .Reload i ∉ d.queue := by
  intro hr
  obtain ⟨t', ht', hreloading⟩ := h.reloaders i hr
  rw [ht, Option.some.injEq] at ht'
  subst ht'
  exact hstage hreloading

theorem Waiting.setupInquiry {entry : TaskEntry} (h : Waiting d) :
    Waiting (setupInquiry entry i d) := by
  have hremoved : Waiting (removeEntry entry d) := ⟨h.reloaders, h.nodup⟩
  unfold SetupTasks.setupInquiry
  simp only
  split
  · rename_i hinquiring
    obtain ⟨t, ht, hstage⟩ := Option.map_eq_some_iff.mp hinquiring
    refine hremoved.setStage (not_mem_of_stage hremoved ht ?_)
    rw [hstage]
    decide
  · exact hremoved

theorem Waiting.append (h : Waiting d) (hrequest : sender? request = none)
    (completed reloadSent : Bool) :
    Waiting { d with queue := d.queue ++ [request], completed, reloadSent } where
  reloaders j hr := by
    rcases List.mem_append.mp hr with hr | hr
    · exact h.reloaders j hr
    · rw [← List.mem_singleton.mp hr] at hrequest
      cases hrequest
  nodup := by
    show ((d.queue ++ [request]).filterMap sender?).Nodup
    rw [List.filterMap_append, List.filterMap_cons_none hrequest, List.filterMap_nil,
      List.append_nil]
    exact h.nodup

theorem mem_senders {queue : List Request} : i ∈ queue.filterMap sender? ↔ .Reload i ∈ queue := by
  rw [List.mem_filterMap]
  constructor
  · rintro ⟨request, hr, hsender⟩
    cases request with
    | cli command => cases hsender
    | SetupInquiry entry sender => cases hsender
    | Reload sender =>
        cases hsender
        exact hr
  · exact fun hr => ⟨_, hr, rfl⟩

theorem Waiting.reload (h : Waiting (SetupTasks.setStage i .reloading d))
    (hi : i < d.tasks.length) (hfresh : .Reload i ∉ d.queue) (reloadSent : Bool) :
    Waiting { SetupTasks.setStage i .reloading d with
      queue := d.queue ++ [.Reload i]
      reloadSent } where
  reloaders j hr := by
    rcases List.mem_append.mp hr with hr | hr
    · exact h.reloaders j hr
    · cases List.mem_singleton.mp hr
      refine ⟨{ d.tasks[i] with stage := .reloading }, ?_, rfl⟩
      show (SetupTasks.setStage i .reloading d).tasks[i]? = _
      rw [getElem?_setStage, if_pos rfl, List.getElem?_eq_getElem hi]
      rfl
  nodup := by
    show ((d.queue ++ [Request.Reload i]).filterMap sender?).Nodup
    rw [List.filterMap_append]
    refine List.nodup_append.mpr ⟨h.nodup, List.nodup_singleton i, ?_⟩
    rintro a ha b hb rfl
    rw [List.mem_singleton.mp hb] at ha
    exact hfresh (mem_senders.mp ha)

theorem Waiting.not_mem_rest {rest : List Request} (h : Waiting d)
    (hqueue : d.queue = .Reload i :: rest) : .Reload i ∉ rest := by
  have hnodup := h.nodup
  rw [hqueue] at hnodup
  intro hr
  exact (List.nodup_cons.mp hnodup).1 (mem_senders.mpr hr)

end Channel

section Runs

variable {d : Core}

structure Inv (d : Core) : Prop where
  tracked : Tracked d
  alone : Alone d
  waiting : Waiting d

theorem Inv.markServer {t : Task} {xuiToken : String} (h : Inv d) :
    Inv (markServer t xuiToken d) := by
  obtain ⟨cloud, hmark⟩ := markServer_frame t xuiToken d
  rw [hmark]
  exact ⟨h.tracked.sameTasks rfl rfl fun _ _ hr => hr, h.alone,
    ⟨h.waiting.reloaders, h.waiting.nodup⟩⟩

theorem Inv.pop {request : Request} {rest : List Request} (h : Inv d)
    (hqueue : d.queue = request :: rest) : Inv { d with queue := rest } where
  tracked := h.tracked.pop hqueue
  alone := h.alone
  waiting := by
    refine h.waiting.mono ?_ fun j t _ ht hstage => ⟨t, ht, hstage⟩
    rw [hqueue]
    exact List.sublist_cons_self request rest

theorem Inv.starts {d' : Core} (h : Inv d) (htracked : Tracked d') (hstarts : Starts d d')
    (hnone : d.tasks.length < d'.tasks.length → ∀ t ∈ d.tasks, ¬ Pending t.stage) : Inv d' where
  tracked := htracked
  alone := h.alone.starts hstarts hnone
  waiting := h.waiting.starts hstarts

theorem Inv.checked {verdict : Verdict} (h : Inv d) : Inv (checked verdict d) where
  tracked := h.tracked.checked
  alone := alone_checked h.tracked h.alone
  waiting := h.waiting.checked h.tracked.registry

theorem Inv.stopped (h : Inv d) : Inv { abortAll d with running := false } := by
  show Inv (SetupTasks.checked .stopped d)
  exact h.checked

/-- What the daemon makes of the first request, `d` being its state without it. -/
theorem Inv.answer {verdict : Verdict} {request : Request} (h : Inv d)
    (hstarts : d.tasks.length < (answer .refused d request).tasks.length →
      ∀ t ∈ d.tasks, ¬ Pending t.stage)
    (hinquiry : ∀ entry sender, request = .SetupInquiry entry sender →
      (∃ t, d.tasks[sender]? = some t ∧ t.entry = entry) ∧
      (∀ t, d.tasks[sender]? = some t → t.stage ≠ .working) ∧
      ∀ j, (entry, j) ∈ d.taskmap → j = sender ∨ isFinished d j = true)
    (hreload : ∀ sender, request = .Reload sender → .Reload sender ∉ d.queue) :
    Inv (answer verdict d request) := by
  cases request with
  | cli command =>
      cases command with
      | Expand name =>
          exact h.starts h.tracked.expandCloud expandCloud_starts hstarts
      | Destroy name =>
          exact h.starts h.tracked.performServerDestruction performServerDestruction_starts
            hstarts
      | Check comm => exact h.checked
      | Shutdown => exact h.stopped
      | Other => exact h
  | SetupInquiry entry sender =>
      obtain ⟨hsender, hasked, hfree⟩ := hinquiry entry sender rfl
      have htracked := h.tracked.setupInquiry hsender hasked hfree
      exact ⟨htracked, h.alone.setupInquiry htracked hasked, h.waiting.setupInquiry⟩
  | Reload sender =>
      have hanswered : Inv (answerReload sender d) :=
        ⟨h.tracked.answerReload, h.alone.answerReload,
          h.waiting.answerReload (hreload sender rfl)⟩
      exact hanswered.checked

/-- A working task goes on to a stage in which it is still registered. -/
theorem Inv.goOn {i : Nat} {entry : TaskEntry} {cycle : Nat} (h : Inv d)
    (hi : d.tasks[i]? = some ⟨entry, cycle, .working⟩) (stage : Stage)
    (hregistrable : Registrable stage) (hpending : ¬ Pending stage)
    (hworking : stage ≠ .working) : Inv (setStage i stage d) where
  tracked := h.tracked.goOn hi stage hregistrable hworking
  alone := by
    refine h.alone.setStage (fun h => absurd h hpending) ?_
    intro _ t ht
    rw [hi, Option.some.injEq] at ht
    subst ht
    exact .inl rfl
  waiting := by
    refine h.waiting.setStage (not_mem_of_stage h.waiting hi ?_)
    rintro ⟨⟩

theorem Inv.sendReload {i : Nat} {entry : TaskEntry} {cycle : Nat} (h : Inv d)
    (hi : d.tasks[i]? = some ⟨entry, cycle, .clear⟩) : Inv (setStage i .reloading d) where
  tracked := h.tracked.sendReload hi
  alone := by
    refine h.alone.setStage ?_ fun hactive => absurd hactive (by decide)
    intro _ t ht
    rw [hi, Option.some.injEq] at ht
    subst ht
    exact .inl rfl
  waiting := by
    refine h.waiting.setStage (not_mem_of_stage h.waiting hi ?_)
    rintro ⟨⟩

theorem step_inv (d : Core) (e : Event) (h : Inv d) (hseparate : Separate d e) :
    Inv (step d e) := by
  cases e with
  | send command =>
      exact ⟨h.tracked.sameTasks rfl rfl (by simp [step]), h.alone, h.waiting.append rfl _ _⟩
  | process verdict =>
      simp only [step]
      split
      · rename_i request rest hrunning hqueue
        obtain ⟨hstarts, hfree⟩ := hseparate hrunning request (by rw [hqueue]; rfl)
        rw [hqueue, List.tail_cons] at hstarts
        refine (h.pop hqueue).answer hstarts ?_ ?_
        · rintro entry sender rfl
          exact h.tracked.inquirer hqueue hfree
        · rintro sender rfl
          exact h.waiting.not_mem_rest hqueue
      · exact h
  | complete i xuiToken =>
      simp only [step]
      split
      · rename_i entry cycle hi
        have hinquiring : Inv (setStage i .inquiring d) := h.goOn hi .inquiring trivial
          (by decide) (by decide)
        have hmarked : Inv (markServer ⟨entry, cycle, .working⟩ xuiToken
          (setStage i .inquiring d)) := hinquiring.markServer
        exact ⟨h.tracked.complete hi true false, hmarked.alone,
          hmarked.waiting.append rfl _ _⟩
      · exact h
  | fail i marked =>
      simp only [step]
      split
      · rename_i entry cycle hi
        have hended : Inv (setStage i .ended d) := h.goOn hi .ended trivial (by decide) (by decide)
        split
        · exact hended
        · exact hended.markServer
      · exact h
  | reload i =>
      simp only [step]
      split
      · rename_i entry cycle hi
        have hlt := (List.getElem?_eq_some_iff.mp hi).1
        have hfresh : .Reload i ∉ d.queue := not_mem_of_stage h.waiting hi (by rintro ⟨⟩)
        have hreloading : Inv (setStage i .reloading d) := h.sendReload hi
        refine ⟨hreloading.tracked.enqueue ?_ _ _, hreloading.alone,
          hreloading.waiting.reload hlt hfresh _⟩
        rintro _ _ ⟨⟩
      · exact h

theorem undisturbed_of_inv (d : Core) (e : Event) (h : Inv d) : Undisturbed d e := by
  cases e with
  | process verdict =>
      intro _ sender hhead j t ht _
      obtain ⟨request, hrequest, hsender⟩ := Option.bind_eq_some_iff.mp hhead
      have hmem : .Reload sender ∈ d.queue :=
        mem_senders.mp (List.mem_filterMap.mpr ⟨request, List.mem_of_mem_head? hrequest, hsender⟩)
      obtain ⟨t', ht', hreloading⟩ := h.waiting.reloaders sender hmem
      exact h.alone ⟨t', List.mem_of_getElem? ht', .inr hreloading⟩ j t ht
  | send command => trivial
  | complete i xuiToken => trivial
  | fail i marked => trivial
  | reload i => trivial

theorem inv_begin (cloud : Cloud) : Inv (begin cloud) where
  tracked := tracked_begin cloud
  alone := by simp [Alone, begin]
  waiting :=
    { reloaders := by simp [begin]
      nodup := List.nodup_nil }

/-- In a run that keeps the tasks separate, no Reload of a task is processed while
another task is running. -/
theorem run_undisturbed (cloud : Cloud) (events : List Event)
    (h : Along step Separate (begin cloud) events) :
    Along step Undisturbed (begin cloud) events :=
  along_of_inv step_inv (fun d e h _ => undisturbed_of_inv d e h) (inv_begin cloud) h

end Runs

section Instances

open Xcplane.Specimen

/-- `beta` is set up, and its task is told that no other is running. -/
def setUpAlone : List Event :=
  [.send (.Expand none), .process .refused, .complete 0 "token", .process .refused]

def reloadOf (cloud : Cloud) : List Event :=
  [.reload 0, .process (.applied cloud)]

theorem run_undisturbed_setUp :
    Along step Undisturbed (begin (cloud [alpha, beta]))
      (setUpAlone ++ reloadOf (cloud [alpha, beta])) :=
  run_undisturbed _ _ (by decide +kernel)

/-- A destruction is started between the answer to the inquiry and the Reload, and the
Reload aborts it. -/
theorem run_destruction_aborted :
    ¬ Along step Undisturbed (begin (cloud [alpha, beta]))
      (setUpAlone ++ [.send (.Destroy "alpha"), .process .refused] ++
        reloadOf (cloud [alpha, beta])) := by
  have hactive : ((run step (begin (cloud [alpha, beta]))
      (setUpAlone ++ [.send (.Destroy "alpha"), .process .refused, .reload 0])).tasks[1]?).any
        (fun t => Active t.stage) = true := by
    decide +kernel
  obtain ⟨t, ht, hactive⟩ := (Option.any_eq_true _ _).mp hactive
  rintro ⟨_, _, _, _, _, _, _, hprocess, _⟩
  exact hprocess (by decide +kernel) 0 (by decide +kernel) 1 t ht (by decide)
    (by simpa using hactive)

end Instances

end Xcplane.ReloadRace
