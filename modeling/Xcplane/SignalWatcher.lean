import Xcplane.SetupTasks
import Xcplane.Lib.Trace

/-!
The watcher of the signals: the task that each cycle starts at its beginning, which
takes one signal and ends with the answer to its request.
-/

namespace Xcplane.SignalWatcher

open Xcplane.Lib
open Xcplane.SetupTasks (CliCommand)

section Model

inductive Signal
  | interrupt
  | terminate
  | hangup
  deriving DecidableEq, Repr

inductive Watcher
  | waiting
  | asked
  | ended
  deriving DecidableEq, Repr

/-- The requests of the watchers carry the number of their cycle. -/
inductive Request
  | cli (command : CliCommand)
  | Shutdown (cycle : Nat)
  | Reload (cycle : Nat)

inductive Phase
  | reconciling
  | serving
  | stopped
  deriving DecidableEq, Repr

/-- The daemon and the watcher of its present cycle. The watcher of an earlier one was
aborted when that cycle ended, its request may be left in the channel. -/
structure Daemon where
  phase : Phase
  cycle : Nat
  watcher : Watcher
  queue : List Request

/-- What a request comes to: the loop goes on, a new cycle begins, in which the watcher
can register its signals or not, or `daemon_core` returns an error. -/
inductive Verdict
  | refused
  | applied (registered : Bool)
  | failed

inductive Event
  | signal (s : Signal)
  | send (command : CliCommand)
  | process (verdict : Verdict)
  | settled (ok : Bool)

def sigxWatcher (registered : Bool) : Watcher :=
  if registered then .waiting else .ended

def requestOf (cycle : Nat) : Signal → Request
  | .interrupt => .Shutdown cycle
  | .terminate => .Shutdown cycle
  | .hangup => .Reload cycle

def sender? : Request → Option Nat
  | .cli _ => none
  | .Shutdown cycle => some cycle
  | .Reload cycle => some cycle

def shutdown (d : Daemon) : Daemon :=
  { d with phase := .stopped }

/-- The watcher that gets an answer ends, with an error where it is refused. -/
def answered (cycle : Nat) (d : Daemon) : Daemon :=
  if cycle = d.cycle then { d with watcher := .ended } else d

def checked (verdict : Verdict) (d : Daemon) : Daemon :=
  match verdict with
  | .refused => d
  | .applied registered =>
      { d with
        phase := .reconciling
        cycle := d.cycle + 1
        watcher := sigxWatcher registered }
  | .failed => shutdown d

def answer (verdict : Verdict) (d : Daemon) : Request → Daemon
  | .cli (.Check _) => checked verdict d
  | .cli .Shutdown => shutdown d
  | .cli _ =>
      match verdict with
      | .failed => shutdown d
      | _ => d
  | .Shutdown _ => shutdown d
  | .Reload cycle => checked verdict (answered cycle d)

/-- A signal that no watcher waits for has no effect. -/
def step (d : Daemon) : Event → Daemon
  | .signal s =>
      match d.phase, d.watcher with
      | .stopped, _ => d
      | _, .waiting =>
          { d with
            watcher := .asked
            queue := d.queue ++ [requestOf d.cycle s] }
      | _, _ => d
  | .send command => { d with queue := d.queue ++ [.cli command] }
  | .process verdict =>
      match d.phase, d.queue with
      | .serving, request :: rest => answer verdict { d with queue := rest } request
      | _, _ => d
  | .settled ok =>
      match d.phase with
      | .reconciling => { d with phase := if ok then .serving else .stopped }
      | _ => d

def startDaemon (registered : Bool) : Daemon where
  phase := .reconciling
  cycle := 0
  watcher := sigxWatcher registered
  queue := []

end Model

section Property

def own (d : Daemon) (request : Request) : Bool := sender? request = some d.cycle

/-- In its command loop and with no request of the watcher pending, the daemon has a
watcher that waits, and a termination signal leads to a request for a shutdown. -/
def Attentive (d : Daemon) : Prop :=
  d.phase = .serving → (∀ request ∈ d.queue, own d request = false) →
    d.watcher = .waiting ∧
      ∀ s ∈ [Signal.interrupt, Signal.terminate],
        (step d (.signal s)).queue = d.queue ++ [.Shutdown d.cycle]

def ownReload (d : Daemon) : Request → Bool
  | .Reload cycle => cycle = d.cycle
  | _ => false

/-- No Reload of the present watcher is refused, and a watcher that cannot register its
signals does not see the command loop. -/
def Admits (d : Daemon) : Event → Prop
  | .process .refused => d.phase = .serving → d.queue.head?.any (ownReload d) = false
  | .settled true => d.phase = .reconciling → d.watcher ≠ .ended
  | _ => True

/-- The watcher has one request in the channel while it waits for an answer. -/
structure Inv (d : Daemon) : Prop where
  pending : d.phase ≠ .stopped →
    d.queue.countP (own d) = if d.watcher = .asked then 1 else 0
  senders : ∀ request ∈ d.queue, ∀ cycle, sender? request = some cycle → cycle ≤ d.cycle

end Property

instance (d : Daemon) : ∀ e, Decidable (Admits d e)
  | .process .refused => inferInstanceAs (Decidable (_ → _ = false))
  | .settled true => inferInstanceAs (Decidable (_ → _ ≠ Watcher.ended))
  | .process (.applied _) => isTrue trivial
  | .process .failed => isTrue trivial
  | .settled false => isTrue trivial
  | .signal _ => isTrue trivial
  | .send _ => isTrue trivial

section Requests

variable {d : Daemon} {request : Request} {rest : List Request} {verdict : Verdict}

theorem attentive_iff (h : Inv d) : Attentive d ↔ (d.phase = .serving → d.watcher ≠ .ended) := by
  constructor
  · intro hattentive hserving hended
    have hpending := h.pending (by rw [hserving]; decide)
    rw [hended, if_neg (by decide), List.countP_eq_zero] at hpending
    obtain ⟨hwaiting, -⟩ := hattentive hserving fun request hr => by simpa using hpending request hr
    rw [hended] at hwaiting
    cases hwaiting
  · intro hnot hserving hnone
    have hpending := h.pending (by rw [hserving]; decide)
    have hwaiting : d.watcher = .waiting := by
      cases hwatcher : d.watcher with
      | waiting => rfl
      | ended => exact absurd hwatcher (hnot hserving)
      | asked =>
          have hzero : d.queue.countP (own d) = 0 :=
            List.countP_eq_zero.mpr fun request hr => by simp [hnone request hr]
          rw [hwatcher, if_pos rfl, hzero] at hpending
          cases hpending
    refine ⟨hwaiting, ?_⟩
    intro s hs
    simp only [step, hserving, hwaiting]
    rcases List.mem_pair.mp hs with rfl | rfl <;> rfl

theorem inv_of_stopped (hsenders : ∀ request ∈ d.queue, ∀ cycle,
    sender? request = some cycle → cycle ≤ d.cycle) (hstopped : d.phase = .stopped) : Inv d where
  pending hnot := absurd hstopped hnot
  senders := hsenders

/-- A request of no later cycle is put into the channel. -/
theorem Inv.enqueued (h : Inv d)
    (hrequest : ∀ cycle, sender? request = some cycle → cycle ≤ d.cycle) :
    ∀ request' ∈ d.queue ++ [request], ∀ cycle, sender? request' = some cycle →
      cycle ≤ d.cycle := by
  rw [List.forall_mem_append, List.forall_mem_singleton]
  exact ⟨h.senders, hrequest⟩

/-- A request that is not of the present watcher is taken from the channel. -/
theorem Inv.pop (h : Inv d) (hqueue : d.queue = request :: rest) (hown : own d request = false) :
    Inv { d with queue := rest } where
  pending hnot := by
    have hpending := h.pending hnot
    rw [hqueue, List.countP_cons_of_neg (by simp [hown])] at hpending
    exact hpending
  senders request' hr := h.senders request' (by rw [hqueue]; exact List.mem_cons_of_mem _ hr)

/-- The watcher's own request is the only one of its cycle. -/
theorem Inv.popOwn (h : Inv d) (hqueue : d.queue = request :: rest) (hown : own d request = true)
    (hserving : d.phase = .serving) :
    Inv { d with watcher := .ended, queue := rest } where
  pending hnot := by
    have hpending := h.pending (by rw [hserving]; decide)
    rw [hqueue, List.countP_cons_of_pos hown] at hpending
    have hzero : rest.countP (own d) = 0 := by
      split at hpending <;> omega
    exact hzero
  senders request' hr := h.senders request' (by rw [hqueue]; exact List.mem_cons_of_mem _ hr)

theorem Inv.checked (h : Inv d) : Inv (checked verdict d) := by
  cases verdict with
  | refused => exact h
  | failed => exact inv_of_stopped h.senders rfl
  | applied registered =>
      constructor
      · intro _
        have hzero : d.queue.countP (own (SignalWatcher.checked (.applied registered) d)) = 0 := by
          apply List.countP_eq_zero.mpr
          intro request hr hown
          have hsender : sender? request = some (d.cycle + 1) := of_decide_eq_true hown
          have hle := h.senders request hr _ hsender
          omega
        rw [if_neg]
        · exact hzero
        · show ¬ sigxWatcher registered = .asked
          cases registered <;> decide
      · intro request hr cycle hcycle
        exact Nat.le_succ_of_le (h.senders request hr cycle hcycle)

theorem Inv.answer (h : Inv d) (hqueue : d.queue = request :: rest)
    (hserving : d.phase = .serving) :
    Inv (answer verdict { d with queue := rest } request) := by
  have hsenders : ∀ request' ∈ rest, ∀ cycle, sender? request' = some cycle → cycle ≤ d.cycle :=
    fun request' hr => h.senders request' (by rw [hqueue]; exact List.mem_cons_of_mem _ hr)
  cases request with
  | cli command =>
      have hrest := h.pop hqueue rfl
      cases command with
      | Check comm => exact hrest.checked
      | Shutdown => exact inv_of_stopped hsenders rfl
      | Expand name | Destroy name | Other =>
          cases verdict with
          | failed => exact inv_of_stopped hsenders rfl
          | refused => exact hrest
          | applied registered => exact hrest
  | Shutdown cycle => exact inv_of_stopped hsenders rfl
  | Reload cycle =>
      have hanswered : Inv (answered cycle { d with queue := rest }) := by
        simp only [answered]
        split
        · rename_i hcycle
          exact h.popOwn hqueue (by simpa [own, sender?] using hcycle) hserving
        · rename_i hcycle
          exact h.pop hqueue (by simpa [own, sender?] using hcycle)
      exact hanswered.checked

theorem Inv.step (d : Daemon) (e : Event) (h : Inv d) : Inv (step d e) := by
  cases e with
  | signal s =>
      simp only [SignalWatcher.step]
      split
      · exact h
      · rename_i hwaiting _
        have hown : own d (requestOf d.cycle s) = true := by
          cases s <;> simp [own, requestOf, sender?]
        constructor
        · intro hnot
          have hpending := h.pending hnot
          rw [hwaiting, if_neg (by decide)] at hpending
          show (d.queue ++ [requestOf d.cycle s]).countP (own d) = 1
          rw [List.countP_append, hpending, List.countP_singleton, hown]
          rfl
        · apply h.enqueued
          intro cycle hcycle
          cases s <;> exact Nat.le_of_eq (Option.some.inj hcycle).symm
      · exact h
  | send command =>
      constructor
      · intro hnot
        show (d.queue ++ [Request.cli command]).countP (own d) = _
        rw [List.countP_append, h.pending hnot, List.countP_singleton]
        rfl
      · apply h.enqueued
        rintro cycle ⟨⟩
  | process verdict =>
      simp only [SignalWatcher.step]
      split
      · rename_i hserving hqueue
        exact h.answer hqueue hserving
      · exact h
  | settled ok =>
      simp only [SignalWatcher.step]
      split
      · rename_i hreconciling
        have hpending := h.pending (by rw [hreconciling]; decide)
        exact ⟨fun _ => hpending, h.senders⟩
      · exact h

end Requests

section Steps

variable {d : Daemon} {request : Request} {rest : List Request} {verdict : Verdict} {e : Event}

/-- In its command loop the daemon has a watcher that has not ended. -/
def Watched (d : Daemon) : Prop := d.phase = .serving → d.watcher ≠ .ended

theorem watched_shutdown : Watched (shutdown d) := by
  rintro ⟨⟩

theorem watched_checked (hverdict : verdict = .refused → Watched d) :
    Watched (checked verdict d) := by
  cases verdict with
  | refused => exact hverdict rfl
  | applied registered => rintro ⟨⟩
  | failed => exact watched_shutdown

/-- Of all requests only a refused Reload of the present watcher ends the watch. -/
theorem watched_answer_iff (hwatched : Watched d) (hserving : d.phase = .serving) :
    Watched (answer verdict { d with queue := rest } request) ↔
      (verdict = .refused → ownReload d request = false) := by
  have hrest : Watched { d with queue := rest } := hwatched
  cases request with
  | cli command =>
      refine iff_of_true ?_ fun _ => rfl
      cases command with
      | Check comm => exact watched_checked fun _ => hrest
      | Shutdown => exact watched_shutdown
      | Expand name | Destroy name | Other =>
          cases verdict with
          | failed => exact watched_shutdown
          | refused => exact hrest
          | applied registered => exact hrest
  | Shutdown cycle => exact iff_of_true watched_shutdown fun _ => rfl
  | Reload cycle =>
      by_cases hcycle : cycle = d.cycle
      · cases verdict with
        | refused =>
            refine iff_of_false ?_ ?_
            · intro hnext
              simp only [answer, checked, answered, hcycle, if_true] at hnext
              exact hnext hserving rfl
            · intro hown
              have hfalse := hown rfl
              simp [ownReload, hcycle] at hfalse
        | applied registered => exact iff_of_true (by rintro ⟨⟩) (by rintro ⟨⟩)
        | failed => exact iff_of_true watched_shutdown (by rintro ⟨⟩)
      · refine iff_of_true (watched_checked fun _ => ?_) fun _ => by simp [ownReload, hcycle]
        simp only [answered, hcycle, if_false]
        exact hrest

theorem watched_step_iff (hwatched : Watched d) : Watched (step d e) ↔ Admits d e := by
  cases e with
  | signal s =>
      refine iff_of_true ?_ trivial
      simp only [step]
      split
      · exact hwatched
      · rintro _ ⟨⟩
      · exact hwatched
  | send command => exact iff_of_true hwatched trivial
  | process verdict =>
      simp only [step]
      split
      · rename_i request rest hserving hqueue
        rw [watched_answer_iff hwatched hserving]
        cases verdict with
        | refused => simp [Admits, hserving, hqueue]
        | applied registered => exact iff_of_true (by rintro ⟨⟩) trivial
        | failed => exact iff_of_true (by rintro ⟨⟩) trivial
      · rename_i hnone
        refine iff_of_true hwatched ?_
        cases verdict with
        | applied registered => trivial
        | failed => trivial
        | refused =>
            intro hserving
            cases hqueue : d.queue with
            | nil => rfl
            | cons request rest => exact (hnone request rest hserving hqueue).elim
  | settled ok =>
      simp only [step]
      split
      · rename_i hreconciling
        cases ok with
        | true => simp [Watched, Admits, hreconciling]
        | false => exact iff_of_true (by rintro ⟨⟩) trivial
      · rename_i hnot
        refine iff_of_true hwatched ?_
        cases ok with
        | true => exact fun hreconciling => absurd hreconciling hnot
        | false => trivial

end Steps

section Results

variable {registered : Bool} {events : List Event}

theorem inv_start : Inv (startDaemon registered) where
  pending _ := by cases registered <;> rfl
  senders := by
    rintro _ ⟨⟩

theorem attentive_step_iff (d : Daemon) (e : Event) (hinv : Inv d) (hattentive : Attentive d) :
    Attentive (step d e) ↔ Admits d e := by
  rw [attentive_iff (Inv.step d e hinv)]
  exact watched_step_iff ((attentive_iff hinv).mp hattentive)

/-- The daemon listens to termination signals throughout a run exactly when no Reload of
a watcher is refused in its own cycle. -/
theorem run_attentive_iff :
    Along step (fun d e => Attentive (step d e)) (startDaemon registered) events ↔
      Along step Admits (startDaemon registered) events := by
  have hall : Along step (fun _ _ => True) (startDaemon registered) events :=
    along_of_forall fun _ _ _ => trivial
  exact along_good_iff (fun d e h _ => Inv.step d e h)
    (fun d e hinv _ => attentive_step_iff d e hinv) inv_start (by rintro ⟨⟩) hall

/-- The config file is invalid when SIGHUP comes, and then SIGTERM comes. -/
def hangupRefused : List Event :=
  [.settled true, .signal .hangup, .process .refused, .signal .terminate]

theorem run_hangupRefused_deaf :
    ¬ Along step (fun d e => Attentive (step d e)) (startDaemon true) hangupRefused := by
  rintro ⟨_, _, hrefused, _⟩
  cases (hrefused rfl (by rintro _ ⟨⟩)).1

example :
    let d := run step (startDaemon true) hangupRefused
    d.phase = .serving ∧ d.watcher = .ended ∧ d.queue = [] :=
  ⟨rfl, rfl, rfl⟩

end Results

end Xcplane.SignalWatcher
