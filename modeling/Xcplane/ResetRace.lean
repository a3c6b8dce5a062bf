import Mathlib.Logic.Function.Basic
import Xcplane.Escalation

/-!
A ResetFix that arrives while a check of the service is under way. A check works on
a copy of the status and reports it in two steps; what the levels of each copy stand
for is recorded beside it.
-/

namespace Xcplane.ResetRace

open Xcplane.Lib
open Xcplane.Types
open Xcplane.Deploy
open Xcplane.Service
open Xcplane.Escalation

/-- What a level of `fix_try` stands for: one read from the database, a corrective run
that ended in vain, or a level that was passed without a run when `started` runs had
been started. -/
inductive Attempt
  | earlier
  | run (id : Nat)
  | passed (started : Nat)
  deriving DecidableEq, Repr

/-- The attempt was made after the first `n` runs had been started. -/
def Attempt.Since (n : Nat) : Attempt → Prop
  | .earlier => False
  | .run id => n ≤ id
  | .passed started => n ≤ started

instance (n : Nat) : ∀ a, Decidable (Attempt.Since n a)
  | .earlier => isFalse id
  | .run _ => inferInstanceAs (Decidable (_ ≤ _))
  | .passed _ => inferInstanceAs (Decidable (_ ≤ _))

/-- A status with what its levels stand for. -/
structure Tried where
  status : SvcStatus
  counted : List Attempt
  deriving DecidableEq, Repr

/-- What the levels stand for after a response was handled, in the status that is
reported and in the monitor's own entry of the registry. -/
structure Counts where
  status : List Attempt
  entry : List Attempt
  deriving DecidableEq, Repr

section Counting

def nginxCounts (runs : List FixRun) (level : Nat) (counted own : List Attempt)
    (m : ActionMap) : Counts :=
  if siblingHealthCheck m .Ssh && decide (level < 2) then
    match m .Nginx with
    | none => ⟨counted, own⟩
    | some action =>
        match action.fixAction with
        | none => ⟨counted, counted⟩
        | some id =>
            match (finished runs id).map FixOutcome.joined with
            | some (.ok ()) => ⟨.run id :: counted, .run id :: counted⟩
            | _ => ⟨counted, own⟩
  else ⟨counted, own⟩

def superXrayCounts (runs : List FixRun) (c : Circumstances) (level : Nat)
    (counted own : List Attempt) (m : ActionMap) : Counts :=
  if siblingHealthCheck m .Ssh && siblingHealthCheck m .Nginx && decide (level < 2) then
    match m SvcKind.superXray with
    | none => ⟨counted, own⟩
    | some action =>
        match action.fixAction with
        | none => ⟨counted, counted⟩
        | some id =>
            match finished runs id, skipRestore c.lastXuiDb (level + 1) with
            | some _, .ok (level', _) =>
                ⟨List.replicate (level' - (level + 1)) (.passed runs.length) ++ .run id :: counted,
                  own⟩
            | _, _ => ⟨counted, own⟩
  else ⟨counted, own⟩

/-- An inbound takes the levels of the supervisor over. -/
def fixCounts (w : Watch) (runs : List FixRun) (c : Circumstances) (t : Tried)
    (counted : SvcKind → List Attempt) (m : ActionMap) : Counts :=
  match w.kind with
  | .Ssh => ⟨[.passed runs.length], [.passed runs.length]⟩
  | .Nginx => nginxCounts runs t.status.fixTry t.counted (counted w.kind) m
  | .Xray inbound =>
      if inbound = SvcKind.superName then
        superXrayCounts runs c t.status.fixTry t.counted (counted w.kind) m
      else
        match m SvcKind.superXray with
        | none => ⟨counted SvcKind.superXray, counted w.kind⟩
        | some _ => ⟨counted SvcKind.superXray, counted SvcKind.superXray⟩

def errCounts (w : Watch) (runs : List FixRun) (c : Circumstances) (t : Tried)
    (counted : SvcKind → List Attempt) (m : ActionMap) : Counts :=
  match failedOnce c.now t.status with
  | .error _ => ⟨[], counted w.kind⟩
  | .ok status =>
      if w.autoFix && decide (w.fixThreshold ≤ status.failedCount) then
        fixCounts w runs c t counted (setEntry m w.kind fun action =>
          { action with svcHealth := .Sick })
      else ⟨t.counted, counted w.kind⟩

def recovers (status : SvcStatus) : Bool :=
  decide (status.failedCount > 0) || decide (status.health ≠ .Ok)

def okCounts (w : Watch) (t : Tried) (own : List Attempt) : Counts :=
  let counted := if recovers t.status then [] else t.counted
  if w.kind = SvcKind.superXray then ⟨counted, own⟩
  else
    match w.kind with
    | .Xray inbound => if w.inbounds.contains inbound then ⟨counted, []⟩ else ⟨counted, own⟩
    | _ => ⟨counted, []⟩

def countsAfter (w : Watch) (runs : List FixRun) (c : Circumstances) (healthy : Bool)
    (t : Tried) (counted : SvcKind → List Attempt) (m : ActionMap) : Counts :=
  if healthy then okCounts w t (counted w.kind) else errCounts w runs c t counted m

end Counting

/-- Where the levels that a check reports come from. -/
inductive Origin
  | cleared
  | own
  | supervisor
  deriving DecidableEq, Repr

def origin (w : Watch) (healthy : Bool) (status : SvcStatus) : Origin :=
  if healthy then if recovers status then .cleared else .own
  else if w.autoFix && decide (w.fixThreshold ≤ status.failedCount + 1) then
    match w.kind with
    | .Ssh => .cleared
    | .Nginx => .own
    | .Xray inbound => if inbound = SvcKind.superName then .own else .supervisor
  else .own

/-- How far a check has come: it waits for the response, its status goes to the
aggregator, or back to the monitor. -/
inductive Stage
  | probing (t : Tried)
  | reporting (t : Tried)
  | returning (t : Tried)
  deriving DecidableEq, Repr

/-- A monitor in its loop. While `resetting`, the loop waits for the aggregator to take
the cleared status. `resetAt` is the number of runs that had been started when the last
ResetFix was handled, and `sent` is what the aggregator got since then. -/
structure Racing where
  running : Bool
  entry : Tried
  actionMap : ActionMap
  counted : SvcKind → List Attempt
  checkCompleted : Bool
  checking : Option Stage
  ended : Bool
  statuses : List Tried
  runs : List FixRun
  checks : List Check
  resetting : Bool
  resetAt : Option Nat
  sent : List Tried

/-- An entry that another monitor of the server writes, with what its levels stand for. -/
structure SiblingEntry where
  action : DashAction
  counted : List Attempt
  tally : action.fixTry = counted.length

inductive Event
  | tick
  | handle (healthy : Bool) (c : Circumstances)
  | report (aggregator : Except BoxError Unit)
  | sendBack
  | crash
  | receive
  | join
  | resetFix
  | flush (aggregator : Except BoxError Unit)
  | finish (id : Nat) (outcome : FixOutcome)
  | sibling (kind : SvcKind) (entry : SiblingEntry)
  | siblingRun (action : AnsibleAction)

section Steps

variable (w : Watch)

def cleared (t : Tried) : Tried where
  status := { t.status with fixTry := 0 }
  counted := []

def lost (st : Racing) : Racing :=
  { st with
    checking := none
    ended := true }

/-- What handling the response does beside producing a status. -/
def respond (st : Racing) (healthy : Bool) (c : Circumstances) (t : Tried) : Racing :=
  let handled := handleResponse w st.runs c healthy t.status st.actionMap
  let counts := countsAfter w st.runs c healthy t st.counted st.actionMap
  { st with
    actionMap := handled.actionMap
    counted := Function.update st.counted w.kind counts.entry
    runs := st.runs ++ (handled.spawned.map fun action => ⟨action, none⟩).toList
    checks := checkOf healthy st.runs.length handled.spawned :: st.checks }

def handle (st : Racing) (healthy : Bool) (c : Circumstances) (t : Tried) : Racing :=
  match (handleResponse w st.runs c healthy t.status st.actionMap).status with
  | .error _ => lost (respond w st healthy c t)
  | .ok status =>
      let counts := countsAfter w st.runs c healthy t st.counted st.actionMap
      { respond w st healthy c t with checking := some (.reporting ⟨status, counts.status⟩) }

/-- The aggregator has the cleared status, and the entry of the registry follows. -/
def flush (st : Racing) (aggregator : Except BoxError Unit) : Racing :=
  match aggregator with
  | .error _ =>
      { st with
        running := false
        checking := none
        resetting := false }
  | .ok () =>
      { st with
        actionMap := setEntry st.actionMap w.kind fun _ =>
          ⟨st.entry.status.health, st.entry.status.fixTry, none⟩
        counted := Function.update st.counted w.kind st.entry.counted
        resetting := false
        resetAt := some st.runs.length
        sent := [st.entry] }

def step (st : Racing) : Event → Racing
  | .tick =>
      if st.running && !st.resetting && st.checkCompleted then
        { st with
          checkCompleted := false
          checking := some (.probing st.entry) }
      else st
  | .handle healthy c =>
      match st.checking with
      | some (.probing t) => handle w st healthy c t
      | _ => st
  | .report aggregator =>
      match st.checking, aggregator with
      | some (.reporting t), .ok () =>
          { st with
            checking := some (.returning t)
            sent := t :: st.sent }
      | some (.reporting _), .error _ => lost st
      | _, _ => st
  | .sendBack =>
      match st.checking with
      | some (.returning t) => { lost st with statuses := st.statuses ++ [t] }
      | _ => st
  | .crash =>
      match st.checking with
      | none => st
      | some _ => { st with checking := none }
  | .receive =>
      match st.running && !st.resetting, st.statuses with
      | true, t :: rest =>
          { st with
            entry := t
            statuses := rest }
      | _, _ => st
  | .join =>
      if st.running && !st.resetting && st.ended then
        { st with
          ended := false
          checkCompleted := true }
      else st
  | .resetFix =>
      if st.running && !st.resetting then
        { st with
          entry := cleared st.entry
          resetting := true }
      else st
  | .flush aggregator => if st.resetting then flush w st aggregator else st
  | .finish id outcome => { st with runs := st.runs.modify id (finishRun outcome) }
  | .sibling kind entry =>
      if kind = w.kind then st
      else
        { st with
          actionMap := setEntry st.actionMap kind fun _ => entry.action
          counted := Function.update st.counted kind entry.counted }
  | .siblingRun action => { st with runs := st.runs ++ [⟨action, none⟩] }

def levels (fixTry : Nat) : List Attempt := List.replicate fixTry .earlier

/-- The monitor when its loop starts. All levels are of before. -/
def begin (status : SvcStatus) (m : ActionMap) : Racing where
  running := true
  entry := ⟨status, levels status.fixTry⟩
  actionMap := setEntry m w.kind fun _ => ⟨status.health, status.fixTry, none⟩
  counted := Function.update
    (fun kind => ((m kind).map fun action => levels action.fixTry).getD []) w.kind
    (levels status.fixTry)
  checkCompleted := true
  checking := none
  ended := false
  statuses := []
  runs := []
  checks := []
  resetting := false
  resetAt := none
  sent := []

end Steps

section Refinement

variable (w : Watch)

/-- The monitor without the record of what its levels stand for. -/
def forget (st : Racing) : Monitor where
  running := st.running
  entry := st.entry.status
  actionMap := st.actionMap
  checkCompleted := st.checkCompleted
  checking :=
    match st.checking with
    | some (.probing t) => some t.status
    | _ => none
  ended := st.ended
  statuses := st.statuses.map Tried.status
  runs := st.runs
  checks := st.checks

/-- The events that make up one of the monitor whose checks and resets are not
interrupted. -/
def uninterrupted : Service.Event → List Event
  | .tick => [.tick]
  | .check healthy c => [.handle healthy c, .report c.aggregator, .sendBack]
  | .crash => [.crash]
  | .receive => [.receive]
  | .join => [.join]
  | .resetFix aggregator => [.resetFix, .flush aggregator]
  | .finish id outcome => [.finish id outcome]
  | .sibling kind action => [.sibling kind ⟨action, levels action.fixTry, by simp [levels]⟩]

/-- Nothing is half done. -/
def Settled (st : Racing) : Prop :=
  st.resetting = false ∧ ∀ stage, st.checking = some stage → ∃ t, stage = .probing t

theorem forget_check {st : Racing} {healthy : Bool} {c : Circumstances} {t : Tried}
    (hst : Settled st) (hchecking : st.checking = some (.probing t)) :
    Settled (run (step w) st (uninterrupted (.check healthy c))) ∧
      forget (run (step w) st (uninterrupted (.check healthy c))) =
        applyChecker w (forget st) healthy c t.status := by
  have hhandled : step w st (.handle healthy c) = handle w st healthy c t := by
    simp only [step, hchecking]
  have hrun : run (step w) st (uninterrupted (.check healthy c)) =
      step w (step w (handle w st healthy c t) (.report c.aggregator)) .sendBack := by
    rw [← hhandled]
    rfl
  rw [hrun]
  unfold handle applyChecker
  cases hstatus : (handleResponse w st.runs c healthy t.status st.actionMap).status with
  | error e =>
      refine ⟨⟨hst.1, by simp [step, lost]⟩, ?_⟩
      simp [step, lost, respond, forget, hstatus]
  | ok status =>
      cases haggregator : c.aggregator with
      | error e =>
          refine ⟨⟨hst.1, by simp [step, lost]⟩, ?_⟩
          simp [step, lost, respond, forget, hstatus]
      | ok u =>
          refine ⟨⟨hst.1, by simp [step, lost]⟩, ?_⟩
          simp [step, lost, respond, forget, hstatus]

/-- What the monitor does in one step, it does here in several. -/
theorem forget_uninterrupted {st : Racing} (hst : Settled st) (e : Service.Event) :
    Settled (run (step w) st (uninterrupted e)) ∧
      forget (run (step w) st (uninterrupted e)) = Service.step w (forget st) e := by
  obtain ⟨hresetting, hprobing⟩ := hst
  cases e with
  | tick =>
      show Settled (step w st .tick) ∧ forget (step w st .tick) = _
      cases hrunning : st.running with
      | false => simpa [step, Service.step, forget, Settled, hrunning, hresetting] using hprobing
      | true =>
          cases hcompleted : st.checkCompleted with
          | false =>
              simpa [step, Service.step, forget, Settled, hrunning, hcompleted, hresetting]
                using hprobing
          | true => simp [step, Service.step, forget, Settled, hrunning, hcompleted, hresetting]
  | check healthy c =>
      cases hchecking : st.checking with
      | none =>
          simp [run, uninterrupted, step, Service.step, forget, Settled, hchecking, hresetting]
      | some stage =>
          obtain ⟨t, rfl⟩ := hprobing stage hchecking
          have hforget : (forget st).checking = some t.status := by simp only [forget, hchecking]
          simp only [Service.step, hforget]
          exact forget_check w ⟨hresetting, hprobing⟩ hchecking
  | crash =>
      show Settled (step w st .crash) ∧ forget (step w st .crash) = _
      cases hchecking : st.checking with
      | none => simp [step, Service.step, forget, Settled, hchecking, hresetting]
      | some stage =>
          obtain ⟨t, rfl⟩ := hprobing stage hchecking
          simp [step, Service.step, forget, Settled, hchecking, hresetting]
  | receive =>
      show Settled (step w st .receive) ∧ forget (step w st .receive) = _
      cases hrunning : st.running with
      | false => simpa [step, Service.step, forget, Settled, hrunning, hresetting] using hprobing
      | true =>
          cases hstatuses : st.statuses with
          | nil =>
              simpa [step, Service.step, forget, Settled, hrunning, hstatuses, hresetting]
                using hprobing
          | cons t rest =>
              simpa [step, Service.step, forget, Settled, hrunning, hstatuses, hresetting]
                using hprobing
  | join =>
      show Settled (step w st .join) ∧ forget (step w st .join) = _
      cases hrunning : st.running with
      | false => simpa [step, Service.step, forget, Settled, hrunning, hresetting] using hprobing
      | true =>
          cases hended : st.ended with
          | false =>
              simpa [step, Service.step, forget, Settled, hrunning, hended, hresetting]
                using hprobing
          | true =>
              simpa [step, Service.step, forget, Settled, hrunning, hended, hresetting]
                using hprobing
  | resetFix aggregator =>
      show Settled (step w (step w st .resetFix) (.flush aggregator)) ∧
        forget (step w (step w st .resetFix) (.flush aggregator)) = _
      cases hrunning : st.running with
      | false => simpa [step, Service.step, forget, Settled, hrunning, hresetting] using hprobing
      | true =>
          cases aggregator with
          | error e =>
              simp [step, flush, Service.step, resetFix, cleared, forget, Settled, hrunning,
                hresetting]
          | ok u =>
              simpa [step, flush, Service.step, resetFix, cleared, forget, Settled, hrunning,
                hresetting] using hprobing
  | finish id outcome => exact ⟨⟨hresetting, hprobing⟩, rfl⟩
  | sibling kind action =>
      show Settled (step w st (.sibling kind _)) ∧ forget (step w st (.sibling kind _)) = _
      by_cases hkind : kind = w.kind
      · simpa [step, Service.step, Settled, hkind, hresetting] using hprobing
      · simpa [step, Service.step, forget, Settled, hkind, hresetting] using hprobing

/-- Every run of the monitor is one in which no check and no reset is interrupted. -/
theorem forget_run (status : SvcStatus) (m : ActionMap) (events : List Service.Event) :
    forget (run (step w) (begin w status m) (events.flatMap uninterrupted)) =
      run (Service.step w) (start w status m) events := by
  have hruns : ∀ st, Settled st →
      forget (run (step w) st (events.flatMap uninterrupted)) =
        run (Service.step w) (forget st) events := by
    induction events with
    | nil => exact fun st _ => rfl
    | cons e rest ih =>
        intro st hst
        obtain ⟨hsettled, hforget⟩ := forget_uninterrupted w hst e
        show forget (run (step w) st (uninterrupted e ++ rest.flatMap uninterrupted)) = _
        rw [run, List.foldl_append]
        exact (ih _ hsettled).trans (congrArg (run (Service.step w) · rest) hforget)
  refine hruns _ ⟨rfl, ?_⟩
  intro stage hstage
  cases hstage

end Refinement

section Property

def AllSince (n : Nat) (counted : List Attempt) : Prop :=
  ∀ a ∈ counted, a.Since n

/-- The level counts these attempts, and all were made since then. -/
def CountsSince (n fixTry : Nat) (counted : List Attempt) : Prop :=
  fixTry = counted.length ∧ AllSince n counted

/-- After a ResetFix was handled, the status, the entry of the registry and what the
aggregator gets count attempts since then only. -/
def SinceReset (w : Watch) (st : Racing) : Prop :=
  ∀ n ∈ st.resetAt,
    CountsSince n st.entry.status.fixTry st.entry.counted ∧
      (∀ action ∈ st.actionMap w.kind, CountsSince n action.fixTry (st.counted w.kind)) ∧
      ∀ t ∈ st.sent, CountsSince n t.status.fixTry t.counted

/-- The status of a check that waits for the response. -/
def probedStatus (st : Racing) : Option Tried :=
  match st.checking with
  | some (.probing t) => some t
  | _ => none

/-- The status of a check whose response was handled and that is not sent back yet. -/
def handledStatus (st : Racing) : Option Tried :=
  match st.checking with
  | some (.reporting t) => some t
  | some (.returning t) => some t
  | _ => none

/-- A check that ends with this response reports no level from before. -/
def CarriesSince (w : Watch) (n : Nat) (healthy : Bool) (t : Tried)
    (levels : SvcKind → List Attempt) : Prop :=
  match origin w healthy t.status with
  | .cleared => True
  | .own => AllSince n t.counted
  | .supervisor => AllSince n (levels SvcKind.superXray)

/-- When a ResetFix is handled, no status on its way to the monitor has a level. A check
that is handled later reports no level of before. -/
def Undisturbed (w : Watch) (st : Racing) : Event → Prop
  | .flush (.ok ()) => st.resetting = true →
      (∀ t ∈ handledStatus st, t.status.fixTry = 0) ∧ ∀ t ∈ st.statuses, t.status.fixTry = 0
  | .handle healthy _ => ∀ n ∈ st.resetAt, ∀ t ∈ probedStatus st,
      CarriesSince w n healthy t st.counted
  | _ => True

instance (n : Nat) (counted : List Attempt) : Decidable (AllSince n counted) :=
  inferInstanceAs (Decidable (∀ a ∈ counted, a.Since n))

instance (n fixTry : Nat) (counted : List Attempt) : Decidable (CountsSince n fixTry counted) :=
  inferInstanceAs (Decidable (_ ∧ _))

instance (w : Watch) (st : Racing) : Decidable (SinceReset w st) :=
  inferInstanceAs (Decidable (∀ n ∈ st.resetAt, _ ∧ (∀ action ∈ st.actionMap w.kind, _) ∧ _))

instance (w : Watch) (n : Nat) (healthy : Bool) (t : Tried) (levels : SvcKind → List Attempt) :
    Decidable (CarriesSince w n healthy t levels) := by
  unfold CarriesSince
  cases origin w healthy t.status with
  | cleared => exact isTrue trivial
  | own => exact inferInstanceAs (Decidable (AllSince _ _))
  | supervisor => exact inferInstanceAs (Decidable (AllSince _ _))

instance (w : Watch) (st : Racing) : ∀ e, Decidable (Undisturbed w st e)
  | .tick => isTrue trivial
  | .handle _ _ => inferInstanceAs (Decidable (∀ n ∈ st.resetAt, ∀ t ∈ probedStatus st, _))
  | .report _ => isTrue trivial
  | .sendBack => isTrue trivial
  | .crash => isTrue trivial
  | .receive => isTrue trivial
  | .join => isTrue trivial
  | .resetFix => isTrue trivial
  | .flush (.ok ()) =>
      inferInstanceAs (Decidable (_ → (∀ t ∈ handledStatus st, _) ∧ ∀ t ∈ st.statuses, _))
  | .flush (.error _) => isTrue trivial
  | .finish _ _ => isTrue trivial
  | .sibling _ _ => isTrue trivial
  | .siblingRun _ => isTrue trivial

end Property

section Counts

variable {kind : SvcKind} {w : Watch} {runs : List FixRun} {c : Circumstances}
  {status : SvcStatus} {counted own : List Attempt} {m m' : ActionMap} {handled : Handled}
  {counts : Counts}

/-- The entry of the kind, if there is one, has the level that is counted. -/
def Tallies (m : ActionMap) (kind : SvcKind) (counted : List Attempt) : Prop :=
  ∀ action, m kind = some action → action.fixTry = counted.length

/-- What handling a response does: the levels are those that are counted, the other
entries are left alone, and a handle that was not there is that of a new run. -/
structure Accounted (kind : SvcKind) (runs : List FixRun) (m : ActionMap) (handled : Handled)
    (counts : Counts) : Prop where
  status : ∀ s, handled.status = .ok s → s.fixTry = counts.status.length
  entry : Tallies handled.actionMap kind counts.entry
  others : ∀ k, k ≠ kind → handled.actionMap k = m k
  handle : ∀ id, stored kind handled.actionMap = some id →
    stored kind m = some id ∨ id = runs.length

theorem setEntry_of_ne {k : SvcKind} {f : DashAction → DashAction} (hk : k ≠ kind) :
    setEntry m kind f k = m k := by
  simp [setEntry, hk]

theorem tallies_setEntry {f : DashAction → DashAction}
    (hf : ∀ action, (f action).fixTry = counted.length) :
    Tallies (setEntry m kind f) kind counted := by
  intro action haction
  simp only [setEntry, if_true, Option.map_eq_some_iff] at haction
  obtain ⟨old, _, rfl⟩ := haction
  exact hf old

theorem tallies_setEntry_of_keep {f : DashAction → DashAction} (h : Tallies m kind counted)
    (hf : ∀ action, (f action).fixTry = action.fixTry) :
    Tallies (setEntry m kind f) kind counted := by
  intro action haction
  simp only [setEntry, if_true, Option.map_eq_some_iff] at haction
  obtain ⟨old, hold, rfl⟩ := haction
  rw [hf old]
  exact h old hold

/-- Levels of one kind are written together with its entry. -/
theorem tallies_update {levels : SvcKind → List Attempt} (hm : ∀ k, Tallies m k (levels k))
    (hothers : ∀ k, k ≠ kind → m' k = m k) (hkind : Tallies m' kind counted) (k : SvcKind) :
    Tallies m' k (Function.update levels kind counted k) := by
  by_cases hk : k = kind
  · rw [hk, Function.update_self]
    exact hkind
  · rw [Function.update_of_ne hk]
    intro action haction
    exact hm k action ((hothers k hk).symm.trans haction)

/-- Handling that leaves the registry alone. -/
theorem accounted_same (hown : Tallies m kind own)
    (hstatus : ∀ s, handled.status = .ok s → s.fixTry = counted.length)
    (hm : handled.actionMap = m) : Accounted kind runs m handled ⟨counted, own⟩ where
  status := hstatus
  entry := hm ▸ hown
  others := fun k _ => by rw [hm]
  handle := fun id hid => .inl (hm ▸ hid)

/-- Handling that writes the entry of the service. -/
theorem accounted_setEntry {f : DashAction → DashAction}
    (hstatus : ∀ s, handled.status = .ok s → s.fixTry = counts.status.length)
    (hm : handled.actionMap = setEntry m kind f)
    (hf : ∀ action, (f action).fixTry = counts.entry.length)
    (hhandle : ∀ action, (f action).fixAction = none ∨ (f action).fixAction = some runs.length) :
    Accounted kind runs m handled counts where
  status := hstatus
  entry := hm ▸ tallies_setEntry hf
  others := fun k hk => by rw [hm, setEntry_of_ne hk]
  handle := by
    intro id hid
    rw [hm] at hid
    simp only [stored, setEntry, if_true, Option.bind_eq_some_iff, Option.map_eq_some_iff] at hid
    obtain ⟨_, ⟨action, _, rfl⟩, hid⟩ := hid
    rcases hhandle action with hnone | hnew
    · rw [hnone] at hid
      cases hid
    · rw [hnew] at hid
      exact .inr (Option.some.inj hid).symm

/-- The part of the handling before does not matter to what is found out here. -/
theorem Accounted.of_taken (h : Accounted kind runs m' handled counts)
    (hothers : ∀ k, k ≠ kind → m' k = m k)
    (hhandle : ∀ id, stored kind m' = some id → stored kind m = some id) :
    Accounted kind runs m handled counts where
  status := h.status
  entry := h.entry
  others := fun k hk => (h.others k hk).trans (hothers k hk)
  handle := fun id hid => (h.handle id hid).imp_left (hhandle id)

theorem level_of_ok (hlevel : status.fixTry = counted.length) :
    ∀ s, (.ok status : Except BoxError SvcStatus) = .ok s → s.fixTry = counted.length := by
  intro s hs
  cases hs
  exact hlevel

theorem level_of_error {e : BoxError} :
    ∀ s, (.error e : Except BoxError SvcStatus) = .ok s → s.fixTry = counted.length := by
  intro s hs
  cases hs

theorem nginxStart_accounted (hlevel : status.fixTry = counted.length) :
    Accounted .Nginx runs m (nginxStart runs.length status m) ⟨counted, counted⟩ := by
  refine accounted_setEntry (level_of_ok hlevel) rfl (fun _ => hlevel) ?_
  intro action
  show (nginxFix true status.fixTry).1.map (fun _ => runs.length) = none ∨
    (nginxFix true status.fixTry).1.map (fun _ => runs.length) = some runs.length
  cases (nginxFix true status.fixTry).1 with
  | none => exact .inl rfl
  | some fix => exact .inr rfl

/-- Taking the handle out of the entry keeps its level. -/
theorem accounted_taken (hown : Tallies m kind own)
    (hstatus : ∀ s, handled.status = .ok s → s.fixTry = counted.length)
    (hm : handled.actionMap = setEntry m kind fun action => { action with fixAction := none }) :
    Accounted kind runs m handled ⟨counted, own⟩ where
  status := hstatus
  entry := hm ▸ tallies_setEntry_of_keep hown fun _ => rfl
  others := fun k hk => by rw [hm, setEntry_of_ne hk]
  handle := by
    intro id hid
    rw [hm, stored_setEntry_of_clear fun _ => rfl] at hid
    cases hid

theorem nginxActions_accounted (hlevel : status.fixTry = counted.length)
    (hown : Tallies m .Nginx own) :
    Accounted .Nginx runs m (nginxActions runs status m)
      (nginxCounts runs status.fixTry counted own m) := by
  unfold nginxActions nginxCounts
  cases hssh : siblingHealthCheck m .Ssh with
  | false => exact accounted_same hown (level_of_ok hlevel) rfl
  | true =>
      by_cases hlt : status.fixTry < 2
      · simp only [hlt, if_true, decide_true, Bool.and_self]
        cases haction : m .Nginx with
        | none => exact accounted_same hown level_of_error rfl
        | some action =>
            dsimp only
            cases hid : action.fixAction with
            | none => exact nginxStart_accounted hlevel
            | some id =>
                dsimp only
                cases hfinished : finished runs id with
                | none => exact accounted_same hown (level_of_ok hlevel) rfl
                | some outcome =>
                    simp only [Option.map_some]
                    cases hjoined : outcome.joined with
                    | error e => exact accounted_taken hown level_of_error rfl
                    | ok u =>
                        refine (nginxStart_accounted ?_).of_taken ?_ ?_
                        · show status.fixTry + 1 = (Attempt.run id :: counted).length
                          rw [hlevel, List.length_cons]
                        · exact fun k hk => setEntry_of_ne hk
                        · intro id' hid'
                          rw [stored_setEntry_of_clear fun _ => rfl] at hid'
                          cases hid'
      · simp only [hlt, if_true, if_false, decide_false, Bool.and_false]
        exact accounted_same hown (level_of_ok hlevel) rfl

theorem xrayStart_accounted (hlevel : status.fixTry = counted.length) :
    Accounted SvcKind.superXray runs m (xrayStart runs.length status m) ⟨counted, counted⟩ := by
  refine accounted_setEntry (level_of_ok hlevel) rfl (fun _ => hlevel) ?_
  intro action
  show (xrayFix status.fixTry).1.map (fun _ => runs.length) = none ∨
    (xrayFix status.fixTry).1.map (fun _ => runs.length) = some runs.length
  cases (xrayFix status.fixTry).1 with
  | none => exact .inl rfl
  | some fix => exact .inr rfl

theorem superXraySick_accounted (hlevel : status.fixTry = counted.length)
    (hown : Tallies m SvcKind.superXray own) :
    Accounted SvcKind.superXray runs m (superXraySick runs c status m)
      (superXrayCounts runs c status.fixTry counted own m) := by
  unfold superXraySick superXrayCounts
  cases hsiblings : siblingHealthCheck m .Ssh && siblingHealthCheck m .Nginx with
  | false => exact accounted_same hown (level_of_ok hlevel) rfl
  | true =>
      by_cases hlt : status.fixTry < 2
      · simp only [hlt, if_true, decide_true, Bool.and_self]
        cases haction : m SvcKind.superXray with
        | none => exact accounted_same hown level_of_error rfl
        | some action =>
            dsimp only
            cases hid : action.fixAction with
            | none => exact xrayStart_accounted hlevel
            | some id =>
                dsimp only
                cases hfinished : finished runs id with
                | none => exact accounted_same hown (level_of_ok hlevel) rfl
                | some outcome =>
                    dsimp only
                    cases hskip : skipRestore c.lastXuiDb (status.fixTry + 1) with
                    | error e =>
                        cases hjoined : outcome.joined with
                        | error e' => exact accounted_taken hown level_of_error rfl
                        | ok u => exact accounted_taken hown level_of_error rfl
                    | ok skipped =>
                        obtain ⟨level', info⟩ := skipped
                        cases hjoined : outcome.joined with
                        | error e' => exact accounted_taken hown level_of_error rfl
                        | ok u =>
                            refine accounted_taken hown (level_of_ok ?_) rfl
                            have hle := le_skipRestore hskip
                            show level' = _
                            rw [List.length_append, List.length_replicate, List.length_cons,
                              ← hlevel]
                            omega
      · simp only [hlt, if_true, if_false, decide_false, Bool.and_false]
        exact accounted_same hown (level_of_ok hlevel) rfl

variable {t : Tried} {levels : SvcKind → List Attempt}

theorem fixActions_accounted (hsick : status.health = .Sick)
    (hlevel : status.fixTry = t.status.fixTry) (ht : t.status.fixTry = t.counted.length)
    (hm : ∀ k, Tallies m k (levels k)) :
    Accounted w.kind runs m (fixActions w runs c status m) (fixCounts w runs c t levels m) := by
  unfold fixActions fixCounts
  rw [← hlevel] at ht ⊢
  cases hkind : w.kind with
  | Ssh => exact accounted_setEntry (level_of_ok rfl) rfl (fun _ => rfl) fun _ => .inl rfl
  | Nginx => exact nginxActions_accounted ht (hm .Nginx)
  | Xray inbound =>
      dsimp only
      by_cases hsuper : inbound = SvcKind.superName
      · rw [if_pos hsuper, if_pos hsuper, hsuper]
        rw [superXrayActions_sick hsick]
        exact superXraySick_accounted ht (hm SvcKind.superXray)
      · rw [if_neg hsuper, if_neg hsuper]
        unfold superSiblingFixtry
        cases haction : m SvcKind.superXray with
        | none => exact accounted_same (hm _) level_of_error rfl
        | some action =>
            have hsync := hm SvcKind.superXray action haction
            exact accounted_setEntry (level_of_ok hsync) rfl (fun _ => hsync) fun _ => .inl rfl

theorem handleErr_accounted (ht : t.status.fixTry = t.counted.length)
    (hm : ∀ k, Tallies m k (levels k)) :
    Accounted w.kind runs m (handleErr w runs c t.status m) (errCounts w runs c t levels m) := by
  unfold handleErr errCounts
  cases hfailed : failedOnce c.now t.status with
  | error e => exact accounted_same (hm _) level_of_error rfl
  | ok failed =>
      obtain ⟨hsick, hlevel⟩ := failedOnce_ok hfailed
      obtain ⟨m', hm'⟩ : ∃ m', m' = setEntry m w.kind fun action =>
          { action with svcHealth := .Sick } := ⟨_, rfl⟩
      have hmarked : ∀ k, Tallies m' k (levels k) := by
        intro k
        by_cases hk : k = w.kind
        · rw [hm', hk]
          exact tallies_setEntry_of_keep (hm w.kind) fun _ => rfl
        · intro action haction
          rw [hm', setEntry_of_ne hk] at haction
          exact hm k action haction
      have hothers : ∀ k, k ≠ w.kind → m' k = m k := by
        intro k hk
        rw [hm', setEntry_of_ne hk]
      have hslot : stored w.kind m' = stored w.kind m := by
        rw [hm']
        exact stored_setEntry_of_keep fun _ => rfl
      have hhandle : ∀ id, stored w.kind m' = some id → stored w.kind m = some id :=
        fun id hid => hslot ▸ hid
      rw [← hm']
      dsimp only
      cases hacts : w.autoFix && decide (w.fixThreshold ≤ failed.failedCount) with
      | true => exact (fixActions_accounted hsick hlevel ht hmarked).of_taken hothers hhandle
      | false =>
          refine Accounted.of_taken ?_ hothers hhandle
          exact accounted_same (hmarked w.kind) (level_of_ok (hlevel.trans ht)) rfl

theorem recovered_level (ht : t.status.fixTry = t.counted.length) :
    (recovered t.status).fixTry = (if recovers t.status then [] else t.counted).length ∧
      (recovered t.status).health = .Ok := by
  unfold recovered recovers
  by_cases hfailed : t.status.failedCount > 0
  · simp [hfailed]
  · by_cases hhealth : t.status.health = .Ok
    · simp [hfailed, hhealth, ht]
    · simp [hhealth]

theorem handleOk_accounted (ht : t.status.fixTry = t.counted.length)
    (hown : Tallies m w.kind own) :
    Accounted w.kind runs m (handleOk w runs c t.status m) (okCounts w t own) := by
  obtain ⟨hlevel, hhealth⟩ := recovered_level ht
  unfold handleOk okCounts
  dsimp only
  by_cases hsuper : w.kind = SvcKind.superXray
  · rw [if_pos hsuper, if_pos hsuper]
    unfold superXrayActions
    rw [hhealth]
    exact accounted_same hown (level_of_ok hlevel) rfl
  · rw [if_neg hsuper, if_neg hsuper]
    cases hkind : w.kind with
    | Ssh => exact accounted_setEntry (level_of_ok hlevel) rfl (fun _ => rfl) fun _ => .inl rfl
    | Nginx => exact accounted_setEntry (level_of_ok hlevel) rfl (fun _ => rfl) fun _ => .inl rfl
    | Xray inbound =>
        dsimp only
        cases w.inbounds.contains inbound with
        | true =>
            exact accounted_setEntry (level_of_ok hlevel) rfl (fun _ => rfl) fun _ => .inl rfl
        | false => exact accounted_same (hkind ▸ hown) level_of_error rfl

/-- A response leaves levels that are counted. -/
theorem handleResponse_accounted (ht : t.status.fixTry = t.counted.length)
    (hm : ∀ k, Tallies m k (levels k)) (healthy : Bool) :
    Accounted w.kind runs m (handleResponse w runs c healthy t.status m)
      (countsAfter w runs c healthy t levels m) := by
  unfold handleResponse countsAfter
  cases healthy with
  | true => exact handleOk_accounted ht (hm w.kind)
  | false => exact handleErr_accounted ht hm

/-- The levels of the reported status and of the own entry are since then. -/
def Counts.Since (n : Nat) (counts : Counts) : Prop :=
  AllSince n counts.status ∧ AllSince n counts.entry

variable {n level : Nat}

theorem allSince_nil : AllSince n [] := by
  intro a ha
  cases ha

theorem allSince_cons {a : Attempt} (ha : a.Since n) (h : AllSince n counted) :
    AllSince n (a :: counted) := by
  intro b hb
  rcases List.mem_cons.mp hb with rfl | hb
  · exact ha
  · exact h b hb

theorem nginxCounts_since (hhandle : ∀ id, stored .Nginx m = some id → n ≤ id)
    (hcounted : AllSince n counted) (hown : AllSince n own) :
    (nginxCounts runs level counted own m).Since n := by
  unfold nginxCounts
  split
  · cases haction : m .Nginx with
    | none => exact ⟨hcounted, hown⟩
    | some action =>
        dsimp only
        cases hid : action.fixAction with
        | none => exact ⟨hcounted, hcounted⟩
        | some id =>
            have hle : (Attempt.run id).Since n :=
              hhandle id ((stored_of_entry haction).trans hid)
            dsimp only
            split
            · exact ⟨allSince_cons hle hcounted, allSince_cons hle hcounted⟩
            · exact ⟨hcounted, hown⟩
  · exact ⟨hcounted, hown⟩

theorem superXrayCounts_since (hn : n ≤ runs.length)
    (hhandle : ∀ id, stored SvcKind.superXray m = some id → n ≤ id)
    (hcounted : AllSince n counted) (hown : AllSince n own) :
    (superXrayCounts runs c level counted own m).Since n := by
  unfold superXrayCounts
  split
  · cases haction : m SvcKind.superXray with
    | none => exact ⟨hcounted, hown⟩
    | some action =>
        dsimp only
        cases hid : action.fixAction with
        | none => exact ⟨hcounted, hcounted⟩
        | some id =>
            have hle : (Attempt.run id).Since n :=
              hhandle id ((stored_of_entry haction).trans hid)
            dsimp only
            split
            · refine ⟨?_, hown⟩
              intro a ha
              rcases List.mem_append.mp ha with ha | ha
              · rw [List.eq_of_mem_replicate ha]
                exact hn
              · exact allSince_cons hle hcounted a ha
            · exact ⟨hcounted, hown⟩
  · exact ⟨hcounted, hown⟩

theorem failedCount_of_failedOnce {now : Except BoxError Nat} {failed : SvcStatus}
    (h : failedOnce now status = .ok failed) : failed.failedCount = status.failedCount + 1 := by
  unfold failedOnce at h
  dsimp only at h
  split at h
  · cases now with
    | error e => cases h
    | ok time =>
        cases h
        rfl
  · cases h
    rfl

theorem okCounts_since (hown : AllSince n (levels w.kind))
    (hcarries : CarriesSince w n true t levels) : (okCounts w t (levels w.kind)).Since n := by
  have hcounted : AllSince n (if recovers t.status then [] else t.counted) := by
    unfold CarriesSince origin at hcarries
    cases hrecovers : recovers t.status with
    | true => exact allSince_nil
    | false => simpa [hrecovers] using hcarries
  unfold okCounts
  dsimp only
  split
  · exact ⟨hcounted, hown⟩
  · split
    · split
      · exact ⟨hcounted, allSince_nil⟩
      · exact ⟨hcounted, hown⟩
    · exact ⟨hcounted, allSince_nil⟩

theorem fixCounts_since (hn : n ≤ runs.length) (hhandle : ∀ id, stored w.kind m = some id → n ≤ id)
    (hown : AllSince n (levels w.kind)) (hcarries : CarriesSince w n false t levels)
    (hacts : (w.autoFix && decide (w.fixThreshold ≤ t.status.failedCount + 1)) = true) :
    (fixCounts w runs c t levels m).Since n := by
  unfold CarriesSince origin at hcarries
  rw [hacts] at hcarries
  unfold fixCounts
  cases hkind : w.kind with
  | Ssh =>
      have hpassed : AllSince n [.passed runs.length] := allSince_cons hn allSince_nil
      exact ⟨hpassed, hpassed⟩
  | Nginx =>
      rw [hkind] at hcarries hown hhandle
      exact nginxCounts_since hhandle hcarries hown
  | Xray inbound =>
      rw [hkind] at hcarries hown hhandle
      dsimp only at hcarries ⊢
      by_cases hsuper : inbound = SvcKind.superName
      · subst hsuper
        exact superXrayCounts_since hn hhandle hcarries hown
      · simp only [hsuper, if_false] at hcarries ⊢
        split
        · exact ⟨hcarries, hown⟩
        · exact ⟨hcarries, hcarries⟩

theorem errCounts_since (hn : n ≤ runs.length) (hhandle : ∀ id, stored w.kind m = some id → n ≤ id)
    (hown : AllSince n (levels w.kind)) (hcarries : CarriesSince w n false t levels) :
    (errCounts w runs c t levels m).Since n := by
  unfold errCounts
  cases hfailed : failedOnce c.now t.status with
  | error e => exact ⟨allSince_nil, hown⟩
  | ok failed =>
      have hcount := failedCount_of_failedOnce hfailed
      dsimp only
      cases hacts : w.autoFix && decide (w.fixThreshold ≤ failed.failedCount) with
      | false =>
          unfold CarriesSince origin at hcarries
          rw [← hcount, hacts] at hcarries
          exact ⟨hcarries, hown⟩
      | true =>
          rw [hcount] at hacts
          refine fixCounts_since hn ?_ hown hcarries hacts
          intro id hid
          have hsame : stored w.kind (setEntry m w.kind fun action =>
              { action with svcHealth := .Sick }) = stored w.kind m :=
            stored_setEntry_of_keep fun _ => rfl
          exact hhandle id (hsame.symm.trans hid)

/-- A response keeps to levels since then, when the levels it carries over are. -/
theorem countsAfter_since {healthy : Bool} (hn : n ≤ runs.length)
    (hhandle : ∀ id, stored w.kind m = some id → n ≤ id) (hown : AllSince n (levels w.kind))
    (hcarries : CarriesSince w n healthy t levels) :
    (countsAfter w runs c healthy t levels m).Since n := by
  cases healthy with
  | true => exact okCounts_since hown hcarries
  | false => exact errCounts_since hn hhandle hown hcarries

end Counts

section Invariant

variable {w : Watch} {st : Racing} {e : Event} {n : Nat}

def Tried.Tally (t : Tried) : Prop :=
  t.status.fixTry = t.counted.length

def Stage.tried : Stage → Tried
  | .probing t => t
  | .reporting t => t
  | .returning t => t

/-- All levels but those that a waiting check started with are since then, and so is the
run whose handle is stored. -/
structure FreshSince (w : Watch) (n : Nat) (st : Racing) : Prop where
  le : n ≤ st.runs.length
  entry : AllSince n st.entry.counted
  own : AllSince n (st.counted w.kind)
  handle : ∀ id, stored w.kind st.actionMap = some id → n ≤ id
  handled : ∀ t ∈ handledStatus st, AllSince n t.counted
  statuses : ∀ t ∈ st.statuses, AllSince n t.counted
  sent : ∀ t ∈ st.sent, AllSince n t.counted

structure Inv (w : Watch) (st : Racing) : Prop where
  entry : st.entry.Tally
  checking : ∀ stage ∈ st.checking, stage.tried.Tally
  statuses : ∀ t ∈ st.statuses, t.Tally
  sent : ∀ t ∈ st.sent, t.Tally
  map : ∀ k, Tallies st.actionMap k (st.counted k)
  cleared : st.resetting = true → st.entry.counted = []
  since : ∀ n ∈ st.resetAt, FreshSince w n st

theorem tally_cleared (t : Tried) : (cleared t).Tally := rfl

theorem counted_of_level {t : Tried} (ht : t.Tally) (hlevel : t.status.fixTry = 0) :
    t.counted = [] := by
  apply List.eq_nil_of_length_eq_zero
  rw [← ht, hlevel]

theorem Inv.lost (h : Inv w st) : Inv w (lost st) :=
  { h with
    checking := by
      intro stage hstage
      cases hstage
    since := fun n hn =>
      { h.since n hn with
        handled := by
          intro t ht
          cases ht } }

theorem probedStatus_of {t : Tried} (h : st.checking = some (.probing t)) :
    probedStatus st = some t := by
  unfold probedStatus
  rw [h]

theorem handledStatus_of_reporting {t : Tried} (h : st.checking = some (.reporting t)) :
    handledStatus st = some t := by
  unfold handledStatus
  rw [h]

theorem handledStatus_of_returning {t : Tried} (h : st.checking = some (.returning t)) :
    handledStatus st = some t := by
  unfold handledStatus
  rw [h]

theorem Inv.handled {t : Tried} (h : Inv w st) (ht : t ∈ handledStatus st) : t.Tally := by
  unfold handledStatus at ht
  split at ht
  · rename_i t' hchecking
    cases ht
    exact h.checking _ hchecking
  · rename_i t' hchecking
    cases ht
    exact h.checking _ hchecking
  · cases ht

/-- The next stage of a check. -/
theorem Inv.advance {stage : Stage} (h : Inv w st) (ht : stage.tried.Tally)
    (hsince : ∀ n ∈ st.resetAt, AllSince n stage.tried.counted) :
    Inv w { st with checking := some stage } :=
  { h with
    checking := by
      intro stage' hstage
      cases hstage
      exact ht
    since := fun n hn =>
      { h.since n hn with
        handled := by
          intro t htried
          cases stage with
          | probing t' => cases htried
          | reporting t' =>
              cases htried
              exact hsince n hn
          | returning t' =>
              cases htried
              exact hsince n hn } }

theorem Inv.respond {healthy : Bool} {c : Circumstances} {t : Tried} (h : Inv w st)
    (hchecking : st.checking = some (.probing t))
    (hcarries : ∀ n ∈ st.resetAt, CarriesSince w n healthy t st.counted) :
    Inv w (respond w st healthy c t) := by
  have ht : t.Tally := h.checking _ hchecking
  have haccounted : Accounted w.kind st.runs st.actionMap
      (handleResponse w st.runs c healthy t.status st.actionMap)
      (countsAfter w st.runs c healthy t st.counted st.actionMap) :=
    handleResponse_accounted ht h.map healthy
  refine { h with map := ?_, since := ?_ }
  · exact tallies_update h.map haccounted.others haccounted.entry
  · intro n hn
    have hfresh := h.since n hn
    have hcounts : (countsAfter w st.runs c healthy t st.counted st.actionMap).Since n :=
      countsAfter_since hfresh.le hfresh.handle hfresh.own (hcarries n hn)
    refine { hfresh with le := ?_, own := ?_, handle := ?_ }
    · exact hfresh.le.trans (by simp [ResetRace.respond])
    · show AllSince n (Function.update st.counted w.kind _ w.kind)
      rw [Function.update_self]
      exact hcounts.2
    · intro id hid
      rcases haccounted.handle id hid with hold | rfl
      · exact hfresh.handle id hold
      · exact hfresh.le

theorem Inv.handle {healthy : Bool} {c : Circumstances} {t : Tried} (h : Inv w st)
    (hchecking : st.checking = some (.probing t))
    (hcarries : ∀ n ∈ st.resetAt, CarriesSince w n healthy t st.counted) :
    Inv w (handle w st healthy c t) := by
  have hresponded : Inv w (ResetRace.respond w st healthy c t) := h.respond hchecking hcarries
  unfold ResetRace.handle
  split
  · exact hresponded.lost
  · rename_i status hstatus
    have haccounted : Accounted w.kind st.runs st.actionMap
        (handleResponse w st.runs c healthy t.status st.actionMap)
        (countsAfter w st.runs c healthy t st.counted st.actionMap) :=
      handleResponse_accounted (h.checking _ hchecking) h.map healthy
    refine hresponded.advance (haccounted.status status hstatus) ?_
    intro n hn
    have hfresh := h.since n hn
    exact (countsAfter_since hfresh.le hfresh.handle hfresh.own (hcarries n hn)).1

theorem Inv.flush {aggregator : Except BoxError Unit} (h : Inv w st)
    (hresetting : st.resetting = true)
    (hundisturbed : aggregator = .ok () → (∀ t ∈ handledStatus st, t.status.fixTry = 0) ∧
      ∀ t ∈ st.statuses, t.status.fixTry = 0) : Inv w (flush w st aggregator) := by
  have hcounted := h.cleared hresetting
  cases aggregator with
  | error e =>
      exact
        { h.lost with
          cleared := by
            intro hfalse
            cases hfalse
          since := fun n hn => { h.lost.since n hn with } }
  | ok u =>
      obtain ⟨hhandled, hstatuses⟩ := hundisturbed rfl
      refine { h with sent := ?_, map := ?_, cleared := ?_, since := ?_ }
      · intro t ht
        rw [List.mem_singleton.mp ht]
        exact h.entry
      · exact tallies_update h.map (fun k hk => setEntry_of_ne hk)
          (tallies_setEntry fun _ => h.entry)
      · intro hfalse
        cases hfalse
      · intro n hn
        cases hn
        exact
          { le := le_rfl
            entry := by
              show AllSince _ st.entry.counted
              rw [hcounted]
              exact allSince_nil
            own := by
              show AllSince _ (Function.update st.counted w.kind _ w.kind)
              rw [Function.update_self, hcounted]
              exact allSince_nil
            handle := by
              intro id hid
              have hnone : stored w.kind (setEntry st.actionMap w.kind fun _ =>
                  ⟨st.entry.status.health, st.entry.status.fixTry, none⟩) = none :=
                stored_setEntry_of_clear fun _ => rfl
              cases hnone.symm.trans hid
            handled := by
              intro t ht
              rw [counted_of_level (h.handled ht) (hhandled t ht)]
              exact allSince_nil
            statuses := by
              intro t ht
              rw [counted_of_level (h.statuses t ht) (hstatuses t ht)]
              exact allSince_nil
            sent := by
              intro t ht
              rw [List.mem_singleton.mp ht, hcounted]
              exact allSince_nil }

theorem Inv.sent_cons {t : Tried} (h : Inv w st) (ht : t ∈ handledStatus st) :
    Inv w { st with sent := t :: st.sent } :=
  { h with
    sent := List.forall_mem_cons.mpr ⟨h.handled ht, h.sent⟩
    since := fun n hn =>
      { h.since n hn with
        sent := List.forall_mem_cons.mpr ⟨(h.since n hn).handled t ht, (h.since n hn).sent⟩ } }

theorem Inv.statuses_append {t : Tried} (h : Inv w st) (ht : t ∈ handledStatus st) :
    Inv w { st with statuses := st.statuses ++ [t] } :=
  { h with
    statuses := by
      intro x hx
      rcases List.mem_append.mp hx with hx | hx
      · exact h.statuses x hx
      · rw [List.mem_singleton.mp hx]
        exact h.handled ht
    since := fun n hn =>
      { h.since n hn with
        statuses := by
          intro x hx
          rcases List.mem_append.mp hx with hx | hx
          · exact (h.since n hn).statuses x hx
          · rw [List.mem_singleton.mp hx]
            exact (h.since n hn).handled t ht } }

theorem Inv.received {t : Tried} {rest : List Tried} (h : Inv w st)
    (hstatuses : st.statuses = t :: rest) (hresetting : st.resetting = false) :
    Inv w { st with entry := t, statuses := rest } := by
  have htally := h.statuses
  rw [hstatuses, List.forall_mem_cons] at htally
  refine { h with entry := htally.1, statuses := htally.2, cleared := ?_, since := ?_ }
  · intro htrue
    rw [hresetting] at htrue
    cases htrue
  · intro n hn
    have hfresh := (h.since n hn).statuses
    rw [hstatuses, List.forall_mem_cons] at hfresh
    exact { h.since n hn with entry := hfresh.1, statuses := hfresh.2 }

theorem Inv.sibling {kind : SvcKind} {entry : SiblingEntry} (h : Inv w st)
    (hkind : kind ≠ w.kind) :
    Inv w
      { st with
        actionMap := setEntry st.actionMap kind fun _ => entry.action
        counted := Function.update st.counted kind entry.counted } := by
  refine { h with map := ?_, since := ?_ }
  · exact tallies_update h.map (fun k hk => setEntry_of_ne hk)
      (tallies_setEntry fun _ => entry.tally)
  · intro n hn
    refine { h.since n hn with own := ?_, handle := ?_ }
    · show AllSince n (Function.update st.counted kind _ w.kind)
      rw [Function.update_of_ne hkind.symm]
      exact (h.since n hn).own
    · intro id hid
      apply (h.since n hn).handle id
      rw [← hid]
      exact (stored_setEntry_of_ne hkind.symm).symm

theorem Inv.ticked (h : Inv w st) :
    Inv w
      { st with
        checkCompleted := false
        checking := some (.probing st.entry) } :=
  have hprobing : Inv w { st with checking := some (.probing st.entry) } :=
    h.advance h.entry fun n hn => (h.since n hn).entry
  { hprobing with since := fun n hn => { hprobing.since n hn with } }

theorem Inv.reported {t : Tried} (h : Inv w st) (hchecking : st.checking = some (.reporting t)) :
    Inv w
      { st with
        checking := some (.returning t)
        sent := t :: st.sent } := by
  have ht : t ∈ handledStatus st := handledStatus_of_reporting hchecking
  have htally : (Stage.returning t).tried.Tally := h.handled ht
  exact (h.sent_cons ht).advance htally fun n hn => (h.since n hn).handled t ht

theorem Inv.resetting (h : Inv w st) :
    Inv w
      { st with
        entry := ResetRace.cleared st.entry
        resetting := true } :=
  { h with
    entry := tally_cleared st.entry
    cleared := fun _ => rfl
    since := fun n hn => { h.since n hn with entry := allSince_nil } }

/-- The handles of the runs that were started stay those of before. -/
theorem Inv.runs_of_length {runs : List FixRun} (h : Inv w st)
    (hlength : st.runs.length ≤ runs.length) : Inv w { st with runs := runs } :=
  { h with
    since := fun n hn =>
      { h.since n hn with le := (h.since n hn).le.trans hlength } }

theorem step_inv (st : Racing) (e : Event) (h : Inv w st) (hundisturbed : Undisturbed w st e) :
    Inv w (step w st e) := by
  cases e with
  | tick =>
      unfold step
      dsimp only
      split
      · exact h.ticked
      · exact h
  | handle healthy c =>
      unfold step
      dsimp only
      split
      · rename_i t hchecking
        exact h.handle hchecking fun n hn => hundisturbed n hn t (probedStatus_of hchecking)
      · exact h
  | report aggregator =>
      unfold step
      dsimp only
      split
      · rename_i t hchecking
        exact h.reported hchecking
      · exact h.lost
      · exact h
  | sendBack =>
      unfold step
      dsimp only
      split
      · rename_i t hchecking
        exact (h.statuses_append (handledStatus_of_returning hchecking)).lost
      · exact h
  | crash =>
      unfold step
      dsimp only
      split
      · exact h
      · exact { h.lost with since := fun n hn => { h.lost.since n hn with } }
  | receive =>
      unfold step
      dsimp only
      split
      · rename_i t rest hrunning hstatuses
        simp only [Bool.and_eq_true, Bool.not_eq_true'] at hrunning
        exact h.received hstatuses hrunning.2
      · exact h
  | join =>
      unfold step
      dsimp only
      split
      · exact { h with since := fun n hn => { h.since n hn with } }
      · exact h
  | resetFix =>
      unfold step
      dsimp only
      split
      · exact h.resetting
      · exact h
  | flush aggregator =>
      unfold step
      dsimp only
      split
      · rename_i hresetting
        refine h.flush hresetting ?_
        rintro rfl
        exact hundisturbed hresetting
      · exact h
  | finish id outcome =>
      have hlength : (st.runs.modify id (finishRun outcome)).length = st.runs.length :=
        List.length_modify ..
      exact h.runs_of_length hlength.ge
  | sibling kind entry =>
      unfold step
      dsimp only
      split
      · exact h
      · rename_i hkind
        exact h.sibling hkind
  | siblingRun action =>
      have hlength : st.runs.length ≤ (st.runs ++ [(⟨action, none⟩ : FixRun)]).length := by
        rw [List.length_append]
        omega
      exact h.runs_of_length hlength

theorem sinceReset_of_inv (h : Inv w st) : SinceReset w st := by
  intro n hn
  have hfresh := h.since n hn
  refine ⟨⟨h.entry, hfresh.entry⟩, ?_, ?_⟩
  · intro action haction
    exact ⟨h.map w.kind action haction, hfresh.own⟩
  · intro t ht
    exact ⟨h.sent t ht, hfresh.sent t ht⟩

theorem inv_begin (w : Watch) (status : SvcStatus) (m : ActionMap) :
    Inv w (begin w status m) where
  entry := (List.length_replicate).symm
  checking := by
    intro stage hstage
    cases hstage
  statuses := by
    intro t ht
    cases ht
  sent := by
    intro t ht
    cases ht
  map := by
    refine tallies_update (m := m) ?_ ?_ ?_
    · intro k action haction
      show action.fixTry = (((m k).map fun action => levels action.fixTry).getD []).length
      rw [haction]
      exact List.length_replicate.symm
    · exact fun k hk => setEntry_of_ne hk
    · exact tallies_setEntry fun _ => List.length_replicate.symm
  cleared := by
    intro hfalse
    cases hfalse
  since := by
    intro n hn
    cases hn

/-- In a run in which no level of before is on its way when a ResetFix is handled, and
no later check carries one over, everything counts attempts since the last handled
ResetFix only. -/
theorem run_sinceReset (w : Watch) (status : SvcStatus) (m : ActionMap) (events : List Event)
    (h : Along (step w) (Undisturbed w) (begin w status m) events) :
    Along (step w) (fun st e => SinceReset w (step w st e)) (begin w status m) events :=
  along_of_inv step_inv (fun st e hinv he => sinceReset_of_inv (step_inv st e hinv he))
    (inv_begin w status m) h

/-- An interval that is over before the next tick. -/
def interval (healthy : Bool) : List Event :=
  [.tick, .handle healthy calm, .report (.ok ()), .sendBack, .receive, .join]

def reset : List Event :=
  [.resetFix, .flush (.ok ())]

theorem run_sinceReset_between :
    Along (step (watchOf .Nginx))
      (fun st e => SinceReset (watchOf .Nginx) (step (watchOf .Nginx) st e))
      (begin (watchOf .Nginx) wellStatus fun _ => some ⟨.Ok, 0, none⟩)
      (interval false ++ [.finish 0 (.output true)] ++ interval false ++ reset ++
        interval false) :=
  run_sinceReset _ _ _ _ (by decide)

/-- The ResetFix falls between the second check's taking the finished restart out and
its report. -/
def interrupted : List Event :=
  interval false ++ [.finish 0 (.output true), .tick, .handle false calm] ++ reset ++
    [.report (.ok ()), .sendBack, .receive]

/-- The report still counts the restart, and so does the status that comes back. -/
theorem run_interrupted_restored :
    ¬ Along (step (watchOf .Nginx))
      (fun st e => SinceReset (watchOf .Nginx) (step (watchOf .Nginx) st e))
      (begin (watchOf .Nginx) wellStatus fun _ => some ⟨.Ok, 0, none⟩) interrupted := by
  decide

end Invariant

end Xcplane.ResetRace
