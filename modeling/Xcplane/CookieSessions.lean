import Mathlib.Algebra.Ring.Nat
import Xcplane.Lib.Threads

/-!
The calls of `xui_get_call_cookie` on one server: what they share is the pointer to the
`Xui` struct, the counter and the cookie jar of the struct, and the gate of the logins.
-/

namespace Xcplane.CookieSessions

open Xcplane.Lib

section Model

/-- The jar of the client holds the session of the last login, which is its number. -/
structure Xui where
  cookieCount : UInt64
  session : Nat
  deriving DecidableEq, Repr

/-- What the calls do: a login begins with the session that there is, the panel accepts
it while the counter has a value, the counter is raised from a value; a first request is
rejected with its session, and it is issued again with another one. -/
inductive Event (ι : Type)
  | began (i : ι) (existing : Option Nat)
  | loggedIn (i : ι) (count : UInt64)
  | raised (i : ι) (count : UInt64)
  | rejected (i : ι) (session : Nat)
  | retried (i : ι) (rejected session : Nat)
  deriving DecidableEq, Repr

structure Shared (ι : Type) where
  xui : Option Nat
  structs : Nat → Xui
  built : Nat
  loginGate : Option ι
  log : List (Event ι)

/-- The answer of the panel to the request of the step; a step that sends none fails
with `failed` where the source has a question mark. -/
inductive Answer
  | accepted
  | rejected
  | failed
  deriving DecidableEq, Repr

/-- A call logs in because there was no struct, or because its session was rejected. -/
inductive Duty
  | first
  | again (rejected : Nat)
  deriving DecidableEq, Repr

inductive LoginPoint
  | load
  | create
  | reload
  | base (cred : Nat)
  | csrf (cred : Nat)
  | login (cred : Nat)
  | fetchAdd (cred : Nat)
  | store (cred : Nat)
  deriving DecidableEq, Repr

inductive LoginStep
  | next (point : LoginPoint)
  | ok
  | err

/-- Where a call is: what it does next, with its own variables. -/
inductive Point
  | enter
  | waitFirst
  | recheck
  | login (duty : Duty) (point : LoginPoint)
  | fresh (duty : Duty)
  | initialized (cred : Nat)
  | countBefore (cred : Nat)
  | send (cred : Nat) (before : UInt64)
  | sent (before : UInt64) (session : Nat)
  | reload (before : UInt64) (session : Nat)
  | countAfter (cred : Nat) (before : UInt64) (session : Nat)
  | waitGate (before : UInt64) (session : Nat)
  | locked (before : UInt64) (session : Nat)
  | countLocked (cred : Nat) (before : UInt64) (session : Nat)
  | resend (cred : Nat) (session : Nat) (gated : Bool)
  | resent (gated : Bool)
  | ended
  deriving DecidableEq, Repr

variable {ι : Type}

def record (e : Event ι) (s : Shared ι) : Shared ι :=
  { s with log := e :: s.log }

def newXuiClient (s : Shared ι) : Shared ι :=
  { s with
    xui := some s.built
    structs := Function.update s.structs s.built { cookieCount := 0, session := 0 }
    built := s.built + 1 }

def modifyStruct (cred : Nat) (f : Xui → Xui) (s : Shared ι) : Shared ι :=
  { s with structs := Function.update s.structs cred (f (s.structs cred)) }

def xuiLogin (i : ι) (answer : Answer) (s : Shared ι) : LoginPoint → Shared ι × LoginStep
  | .load =>
      match s.xui with
      | some cred =>
          (record (.began i (some (s.structs cred).session)) s, .next (.base cred))
      | none => (record (.began i none) s, .next .create)
  | .create =>
      match answer with
      | .failed => (s, .err)
      | _ => (newXuiClient s, .next .reload)
  | .reload =>
      match s.xui with
      | some cred => (s, .next (.base cred))
      | none => (s, .err)
  | .base cred =>
      match answer with
      | .accepted => (s, .next (.csrf cred))
      | _ => (s, .err)
  | .csrf cred =>
      match answer with
      | .accepted => (s, .next (.login cred))
      | _ => (s, .err)
  | .login cred =>
      match answer with
      | .accepted =>
          (record (.loggedIn i (s.structs cred).cookieCount)
            (modifyStruct cred (fun x => { x with session := x.session + 1 }) s),
            .next (.fetchAdd cred))
      | _ => (s, .err)
  | .fetchAdd cred =>
      (record (.raised i (s.structs cred).cookieCount)
        (modifyStruct cred (fun x => { x with cookieCount := x.cookieCount + 1 }) s),
        .next (.store cred))
  | .store cred => ({ s with xui := some cred }, .ok)

/-- The points at which the call holds the guard of the gate. -/
def holdsGate : Point → Bool
  | .recheck => true
  | .login _ _ => true
  | .fresh _ => true
  | .initialized _ => true
  | .locked _ _ => true
  | .countLocked _ _ _ => true
  | .resend _ _ gated => gated
  | .resent gated => gated
  | _ => false

/-- The call returns, which drops the guard if it holds one. -/
def leave (s : Shared ι) (point : Point) : Shared ι × Point :=
  (if holdsGate point then { s with loginGate := none } else s, .ended)

def xuiGetCallCookie (i : ι) (answer : Answer) (s : Shared ι) (point : Point) :
    Shared ι × Point :=
  match point with
  | .enter =>
      match s.xui with
      | some cred => (s, .countBefore cred)
      | none => (s, .waitFirst)
  | .waitFirst =>
      match s.loginGate with
      | none => ({ s with loginGate := some i }, .recheck)
      | some _ => (s, .waitFirst)
  | .recheck =>
      match s.xui with
      | some cred => (s, .initialized cred)
      | none => (s, .login .first .load)
  | .login duty loginPoint =>
      match xuiLogin i answer s loginPoint with
      | (s', .next loginPoint') => (s', .login duty loginPoint')
      | (s', .ok) => (s', .fresh duty)
      | (s', .err) => leave s' point
  | .fresh duty =>
      match s.xui, duty with
      | some cred, .first => (s, .initialized cred)
      | some cred, .again rejected => (s, .resend cred rejected true)
      | none, _ => leave s point
  | .initialized cred => ({ s with loginGate := none }, .countBefore cred)
  | .countBefore cred => (s, .send cred (s.structs cred).cookieCount)
  | .send cred before =>
      match answer with
      | .failed => leave s point
      | _ => (s, .sent before (s.structs cred).session)
  | .sent before session =>
      match answer with
      | .rejected => (record (.rejected i session) s, .reload before session)
      | _ => leave s point
  | .reload before session =>
      match s.xui with
      | some cred => (s, .countAfter cred before session)
      | none => leave s point
  | .countAfter cred before session =>
      if (s.structs cred).cookieCount ≠ before then (s, .resend cred session false)
      else (s, .waitGate before session)
  | .waitGate before session =>
      match s.loginGate with
      | none => ({ s with loginGate := some i }, .locked before session)
      | some _ => (s, point)
  | .locked before session =>
      match s.xui with
      | some cred => (s, .countLocked cred before session)
      | none => leave s point
  | .countLocked cred before session =>
      if (s.structs cred).cookieCount = before then (s, .login (.again session) .load)
      else (s, .fresh (.again session))
  | .resend cred session gated =>
      (record (.retried i session (s.structs cred).session) s, .resent gated)
  | .resent _ => leave s point
  | .ended => (s, .ended)

/-- The calls before their first step. A struct that there is already has the session
whose number its counter shows. -/
def start (existing : Option UInt64) : Threads (Shared ι) ι Point where
  shared :=
    { xui := existing.map fun _ => 0
      structs := fun _ =>
        { cookieCount := existing.getD 0, session := (existing.getD 0).toNat }
      built := existing.toList.length
      loginGate := none
      log := [] }
  own _ := .enter

variable [DecidableEq ι]

/-- One call takes its next step. -/
def step (w : Threads (Shared ι) ι Point) (e : ι × Answer) : Threads (Shared ι) ι Point :=
  advance xuiGetCallCookie w e

end Model

section Property

variable {ι : Type}

def loginAt? : Event ι → Option UInt64
  | .loggedIn _ count => some count
  | _ => none

def raisedAt? : Event ι → Option UInt64
  | .raised _ count => some count
  | _ => none

/-- The values of the counter at which the panel accepted a login. -/
def loginCounts (log : List (Event ι)) : List UInt64 :=
  log.filterMap loginAt?

/-- The values from which a login raised the counter. -/
def raisedCounts (log : List (Event ι)) : List UInt64 :=
  log.filterMap raisedAt?

variable [DecidableEq ι]

/-- The step leaves a struct that is set in place and does not lower its counter. -/
def CountKept (w : Threads (Shared ι) ι Point) (e : ι × Answer) : Prop :=
  ∀ cred, w.shared.xui = some cred → (step w e).shared.xui = some cred ∧
    (w.shared.structs cred).cookieCount ≤ ((step w e).shared.structs cred).cookieCount

/-- Each value of the counter is left by one login at most and the counter never
decreases; a rejected call uses a newer session in its retry; and a call logs in only
where there is no struct or its own request was rejected with the session there is. -/
structure Sound (existing : Option UInt64) (events : List (ι × Answer)) : Prop where
  loginOnce : (loginCounts (run step (start existing) events).shared.log).Nodup
  raisedOnce : (raisedCounts (run step (start existing) events).shared.log).Nodup
  kept : Along step CountKept (start existing) events
  newer : ∀ i rejected session,
    Event.retried i rejected session ∈ (run step (start existing) events).shared.log →
      rejected < session
  needed : ∀ i existing',
    Event.began i existing' ∈ (run step (start existing) events).shared.log →
      existing' = none ∨ ∃ session, existing' = some session ∧
        Event.rejected i session ∈ (run step (start existing) events).shared.log

/-- A first request that was sent with a newer session than the counter showed to its
call is not rejected while that session is the present one, and the counter does not
wrap around. -/
def AdmitsAt (answer : Answer) (s : Shared ι) : Point → Prop
  | .sent before session => answer = .rejected → ∀ cred ∈ s.xui,
      session ≤ before.toNat ∨ session < (s.structs cred).session
  | .login _ (.fetchAdd cred) => (s.structs cred).cookieCount.toNat + 1 < 2 ^ 64
  | _ => True

def Admits (w : Threads (Shared ι) ι Point) (e : ι × Answer) : Prop :=
  AdmitsAt e.2 w.shared (w.own e.1)

end Property

instance {ι : Type} (answer : Answer) (s : Shared ι) : ∀ point, Decidable (AdmitsAt answer s point)
  | .sent before session =>
      inferInstanceAs (Decidable (_ → ∀ cred ∈ s.xui,
        session ≤ before.toNat ∨ session < (s.structs cred).session))
  | .login _ (.fetchAdd cred) =>
      inferInstanceAs (Decidable ((s.structs cred).cookieCount.toNat + 1 < 2 ^ 64))
  | .login _ .load => isTrue trivial
  | .login _ .create => isTrue trivial
  | .login _ .reload => isTrue trivial
  | .login _ (.base _) => isTrue trivial
  | .login _ (.csrf _) => isTrue trivial
  | .login _ (.login _) => isTrue trivial
  | .login _ (.store _) => isTrue trivial
  | .enter => isTrue trivial
  | .waitFirst => isTrue trivial
  | .recheck => isTrue trivial
  | .fresh _ => isTrue trivial
  | .initialized _ => isTrue trivial
  | .countBefore _ => isTrue trivial
  | .send _ _ => isTrue trivial
  | .reload _ _ => isTrue trivial
  | .countAfter _ _ _ => isTrue trivial
  | .waitGate _ _ => isTrue trivial
  | .locked _ _ => isTrue trivial
  | .countLocked _ _ _ => isTrue trivial
  | .resend _ _ _ => isTrue trivial
  | .resent _ => isTrue trivial
  | .ended => isTrue trivial

instance {ι : Type} (w : Threads (Shared ι) ι Point) (e : ι × Answer) : Decidable (Admits w e) :=
  inferInstanceAs (Decidable (AdmitsAt e.2 w.shared (w.own e.1)))

end Xcplane.CookieSessions
