import Xcplane.Escalation

/-!
The order of the checks of a service: whether each of them starts from the status
that the check before it produced.
-/

namespace Xcplane.CheckOrder

open Xcplane.Lib
open Xcplane.Types
open Xcplane.Service
open Xcplane.Escalation

/-- A monitor with the status that its last completed check produced. -/
structure Traced where
  mon : Monitor
  produced : SvcStatus
  resetSince : Bool

/-- The status that a check produces, whether or not it can be sent. -/
def product (w : Watch) (mon : Monitor) (e : Event) : Option SvcStatus :=
  (handledBy w mon e).bind fun handled => handled.status.toOption

def handlesReset (mon : Monitor) : Event → Bool
  | .resetFix _ => mon.running
  | _ => false

def step (w : Watch) (t : Traced) (e : Event) : Traced where
  mon := Service.step w t.mon e
  produced := (product w t.mon e).getD t.produced
  resetSince := (product w t.mon e).isNone && (t.resetSince || handlesReset t.mon e)

def begin (w : Watch) (status : SvcStatus) (m : ActionMap) : Traced where
  mon := start w status m
  produced := status
  resetSince := false

def cleared (status : SvcStatus) : SvcStatus :=
  { status with fixTry := 0 }

/-- The second status is the first, or what a ResetFix handled since made of it. -/
def UpToReset (resetSince : Bool) (produced status : SvcStatus) : Prop :=
  status = produced ∨ (resetSince = true ∧ status = cleared produced)

instance (resetSince : Bool) (produced status : SvcStatus) :
    Decidable (UpToReset resetSince produced status) :=
  inferInstanceAs (Decidable (_ ∨ _))

/-- A check that starts does so from what the check before it produced. -/
def InOrder (t : Traced) : Event → Prop
  | .tick => (t.mon.running && t.mon.checkCompleted) = true →
      UpToReset t.resetSince t.produced t.mon.entry
  | _ => True

/-- No check is started while a status is still to be received, and the aggregator takes what
it is sent at the end of a check. -/
def Delivered (t : Traced) : Event → Prop
  | .tick => (t.mon.running && t.mon.checkCompleted) = true → t.mon.statuses = []
  | .check _ c => t.mon.checking.isSome = true → c.aggregator.isOk = true
  | _ => True

instance (t : Traced) : ∀ e, Decidable (InOrder t e)
  | .tick => inferInstanceAs (Decidable (_ → _))
  | .check _ _ => isTrue trivial
  | .crash => isTrue trivial
  | .receive => isTrue trivial
  | .join => isTrue trivial
  | .resetFix _ => isTrue trivial
  | .finish _ _ => isTrue trivial
  | .sibling _ _ => isTrue trivial

instance (t : Traced) : ∀ e, Decidable (Delivered t e)
  | .tick => inferInstanceAs (Decidable (_ → _))
  | .check _ _ => inferInstanceAs (Decidable (_ → _))
  | .crash => isTrue trivial
  | .receive => isTrue trivial
  | .join => isTrue trivial
  | .resetFix _ => isTrue trivial
  | .finish _ _ => isTrue trivial
  | .sibling _ _ => isTrue trivial

section Statuses

variable {r r' : Bool} {p q s : SvcStatus}

theorem UpToReset.trans (hpq : UpToReset r p q) (hqs : UpToReset r q s) : UpToReset r p s := by
  rcases hqs with rfl | ⟨hr, rfl⟩
  · exact hpq
  · rcases hpq with rfl | ⟨_, rfl⟩
    · exact .inr ⟨hr, rfl⟩
    · exact .inr ⟨hr, rfl⟩

theorem UpToReset.mono (h : UpToReset r p q) (hr : r = true → r' = true) : UpToReset r' p q :=
  h.imp_right fun h => ⟨hr h.1, h.2⟩

end Statuses

section Runs

variable {w : Watch} {t : Traced} {e : Event}

/-- The status that reaches the monitor last is the one that was produced last. -/
def Kept (t : Traced) : Prop :=
  UpToReset t.resetSince t.produced (latest t.mon)

theorem latest_resetFix (mon : Monitor) (aggregator : Except BoxError Unit) :
    latest (resetFix w mon aggregator) = latest mon ∨
      latest (resetFix w mon aggregator) = cleared (latest mon) := by
  have hstatuses : (resetFix w mon aggregator).statuses = mon.statuses ∧
      (resetFix w mon aggregator).entry = cleared mon.entry := by
    unfold resetFix
    cases aggregator with
    | error e => exact ⟨rfl, rfl⟩
    | ok u => exact ⟨rfl, rfl⟩
  unfold latest
  rw [hstatuses.1, hstatuses.2]
  cases mon.statuses.getLast? with
  | none => exact .inr rfl
  | some last => exact .inl rfl

theorem kept_of_product {status : SvcStatus} (hproduct : product w t.mon e = some status)
    (hlatest : latest (Service.step w t.mon e) = status) : Kept (step w t e) := by
  left
  show latest (Service.step w t.mon e) = (product w t.mon e).getD t.produced
  rw [hproduct, hlatest]
  rfl

/-- An event that produces no status keeps what was produced before. -/
theorem kept_of_none (h : Kept t) (hproduct : product w t.mon e = none)
    (hlatest : latest (Service.step w t.mon e) = latest t.mon ∨
      (handlesReset t.mon e = true ∧
        latest (Service.step w t.mon e) = cleared (latest t.mon))) :
    Kept (step w t e) := by
  show UpToReset ((product w t.mon e).isNone && (t.resetSince || handlesReset t.mon e))
    ((product w t.mon e).getD t.produced) (latest (Service.step w t.mon e))
  rw [hproduct]
  show UpToReset (t.resetSince || handlesReset t.mon e) t.produced _
  have hweak : UpToReset (t.resetSince || handlesReset t.mon e) t.produced (latest t.mon) :=
    UpToReset.mono h fun hr => by rw [hr, Bool.true_or]
  rcases hlatest with hlatest | ⟨hreset, hlatest⟩
  · rwa [hlatest]
  · refine hweak.trans (.inr ⟨by rw [hreset, Bool.or_true], hlatest⟩)

theorem product_of_idle {mon : Monitor} (h : Idle w mon (Service.step w mon e)) :
    product w mon e = none := by
  cases e with
  | check healthy c =>
      cases hchecking : mon.checking with
      | none => simp [product, handledBy, hchecking]
      | some status =>
          have hchecks := congrArg List.length h.checks
          simp only [Service.step, hchecking, applyChecker, List.length_cons] at hchecks
          omega
  | tick => rfl
  | crash => rfl
  | receive => rfl
  | join => rfl
  | resetFix aggregator => rfl
  | finish id outcome => rfl
  | sibling kind action => rfl

theorem product_check {mon : Monitor} {healthy : Bool} {c : Circumstances} {status : SvcStatus}
    (hchecking : mon.checking = some status) : product w mon (.check healthy c) =
      (handleResponse w mon.runs c healthy status mon.actionMap).status.toOption := by
  simp [product, handledBy, hchecking]

theorem step_kept (t : Traced) (e : Event) (h : Kept t) (hdelivered : Delivered t e) :
    Kept (step w t e) := by
  cases step_does w t.mon e with
  | idle hidle => exact kept_of_none h (product_of_idle hidle) (.inl hidle.latest)
  | tick he hready hstep =>
      subst he
      exact kept_of_none h rfl (.inl (by rw [hstep]; rfl))
  | check healthy c he status hchecking hstep =>
      subst he
      have hproduct : product w t.mon (.check healthy c) = _ := product_check hchecking
      have hhandled : handleResponse w t.mon.runs c healthy status t.mon.actionMap = _ := rfl
      rcases applyChecker_sent hhandled with
        ⟨sent, hsent, hlatest, -⟩ | ⟨hlost, hlatest, -⟩
      · rw [hsent] at hproduct
        exact kept_of_product hproduct (by rw [hstep, hlatest])
      · cases hstatus : (handleResponse w t.mon.runs c healthy status t.mon.actionMap).status with
        | error e =>
            rw [hstatus] at hproduct
            exact kept_of_none h hproduct (.inl (by rw [hstep, hlatest]))
        | ok sent =>
            rw [hstatus] at hlost
            exact absurd ⟨rfl, hdelivered (Option.isSome_of_eq_some hchecking)⟩ hlost
  | reset aggregator he hstep =>
      subst he
      refine kept_of_none h rfl ?_
      cases hrunning : t.mon.running with
      | false =>
          left
          simp [Service.step, hrunning]
      | true =>
          rw [hstep]
          exact (latest_resetFix t.mon aggregator).imp_right fun hcleared => ⟨hrunning, hcleared⟩

theorem latest_of_received {mon : Monitor} (h : mon.statuses = []) : latest mon = mon.entry := by
  rw [latest, h]
  rfl

theorem inOrder_of_kept (t : Traced) (e : Event) (h : Kept t) (hdelivered : Delivered t e) :
    InOrder t e := by
  cases e with
  | tick =>
      intro hready
      rw [← latest_of_received (hdelivered hready)]
      exact h
  | check healthy c => trivial
  | crash => trivial
  | receive => trivial
  | join => trivial
  | resetFix aggregator => trivial
  | finish id outcome => trivial
  | sibling kind action => trivial

/-- A check ends after the next tick was due, and its task is joined before its
status is received. -/
def overdue : List Event :=
  [.tick, .check false calm, .join, .tick]

end Runs

end Xcplane.CheckOrder
