import Mathlib.Algebra.Order.BigOperators.Group.List
import Mathlib.Algebra.Order.Ring.Nat
import Mathlib.Data.List.Nodup
import Mathlib.Logic.Function.Basic
import Xcplane.Lib.Trace

/-!
A server that takes the requests of any number of callers from a bounded mailbox, one at a time,
and answers each of them by a channel of its own. What the callers see is what they would see if
every request was served at once.
-/

namespace Xcplane.Lib

section Model

/-- The state in which the server goes on, unless it ends, and the reply, if it makes one. -/
structure Outcome (σ β : Type) where
  next : Option σ
  reply : Option β

/-- Where the call of a caller is. Without a reply its channel is closed. -/
inductive Call (α β : Type)
  | absent
  | waiting (request : α)
  | posted
  | answered (reply : Option β)
  | returned
  | gone

def Call.Over {α β : Type} : Call α β → Prop
  | .absent => True
  | .returned => True
  | .gone => True
  | _ => False

/-- More than the steps that are left to the call. -/
def Call.weight {α β : Type} : Call α β → Nat
  | .waiting _ => 4
  | .posted => 2
  | .answered _ => 1
  | _ => 0

inductive Moment (ι α β : Type)
  | invoke (caller : ι) (request : α)
  | post (caller : ι) (request : α)
  | respond (caller : ι) (reply : Option β)

structure Served (ι α β : Type) where
  caller : ι
  request : α
  reply : Option β

/-- The last two fields are for the record only. -/
structure Mailbox (ι σ α β : Type) where
  server : Option σ
  queue : List (ι × α)
  calls : ι → Call α β
  history : List (Moment ι α β)
  served : List (Served ι α β)

inductive MailEvent (ι σ α : Type)
  | invoke (caller : ι) (request : α)
  | post (caller : ι)
  | serve
  | evolve (state : σ)
  | stop
  | giveUp (caller : ι)
  | respond (caller : ι)
  | leave (caller : ι)

variable {ι σ α β : Type} [DecidableEq ι] (capacity : Nat) (serve : σ → α → Outcome σ β)

namespace Mailbox

def start (state : σ) : Mailbox ι σ α β where
  server := some state
  queue := []
  calls _ := .absent
  history := []
  served := []

def setCall (w : Mailbox ι σ α β) (i : ι) (call : Call α β) : Mailbox ι σ α β :=
  { w with calls := Function.update w.calls i call }

def record (w : Mailbox ι σ α β) (m : Moment ι α β) : Mailbox ι σ α β :=
  { w with history := w.history ++ [m] }

/-- A caller that is gone does not get the reply. -/
def settle (w : Mailbox ι σ α β) (i : ι) (reply : Option β) : Mailbox ι σ α β :=
  match w.calls i with
  | .posted => w.setCall i (.answered reply)
  | _ => w

def take (w : Mailbox ι σ α β) (state : σ) (i : ι) (request : α) (rest : List (ι × α)) :
    Mailbox ι σ α β :=
  let out := serve state request
  settle { w with
    server := out.next
    queue := rest
    served := w.served ++ [⟨i, request, out.reply⟩] } i out.reply

def step (w : Mailbox ι σ α β) : MailEvent ι σ α → Mailbox ι σ α β
  | .invoke i a =>
      match w.calls i with
      | .absent => (w.setCall i (.waiting a)).record (.invoke i a)
      | _ => w
  | .post i =>
      match w.calls i, w.server with
      | .waiting a, some _ =>
          if w.queue.length < capacity then
            { (w.setCall i .posted).record (.post i a) with queue := w.queue ++ [(i, a)] }
          else w
      | _, _ => w
  | .serve =>
      match w.server, w.queue with
      | some state, (i, a) :: rest => w.take serve state i a rest
      | _, _ => w
  | .evolve state => { w with server := w.server.map fun _ => state }
  | .stop => { w with server := none }
  | .giveUp i =>
      match w.server, w.calls i with
      | none, .waiting _ => w.setCall i (.answered none)
      | none, .posted => w.setCall i (.answered none)
      | _, _ => w
  | .respond i =>
      match w.calls i with
      | .answered reply => (w.setCall i .returned).record (.respond i reply)
      | _ => w
  | .leave i =>
      match w.calls i with
      | .absent => w
      | .returned => w
      | _ => w.setCall i .gone

end Mailbox

end Model

section Specification

variable {ι σ α β : Type}

/-- The served requests, one after another. Between two of them, and after the last one, the state
may evolve by itself, and the server may be stopped. -/
inductive Serial (serve : σ → α → Outcome σ β) (evolves : σ → σ → Prop) (state : σ) :
    List (Served ι α β) → Option σ → Prop
  | start : Serial serve evolves state [] (some state)
  | evolve {served s s'} (h : Serial serve evolves state served (some s))
      (hevolves : evolves s s') : Serial serve evolves state served (some s')
  | stop {served s} (h : Serial serve evolves state served s) :
      Serial serve evolves state served none
  | serve {served s} (h : Serial serve evolves state served (some s)) (i : ι) (a : α) :
      Serial serve evolves state (served ++ [⟨i, a, (serve s a).reply⟩]) (serve s a).next

def Precedes {γ : Type} (l : List γ) (x y : γ) : Prop :=
  [x, y].Sublist l

def Moment.invoked? : Moment ι α β → Option (ι × α)
  | .invoke i a => some (i, a)
  | _ => none

def Moment.posted? : Moment ι α β → Option (ι × α)
  | .post i a => some (i, a)
  | _ => none

/-- The order in which the requests were served explains the history: each reply is that of the
request in the order, no request is in it twice, and a call that was over before another one began
comes first. -/
structure Linearizes (history : List (Moment ι α β)) (served : List (Served ι α β)) : Prop where
  called : ∀ d ∈ served, .invoke d.caller d.request ∈ history
  once : (served.map Served.caller).Nodup
  replied : ∀ i b, .respond i (some b) ∈ history → ∃ d ∈ served, d.caller = i ∧ d.reply = some b
  kept : ∀ d ∈ served, ∀ e ∈ served, ∀ reply,
    Precedes history (.respond d.caller reply) (.invoke e.caller e.request) → Precedes served d e

end Specification

section Lists

variable {γ : Type} {l : List γ} {x y z : γ}

theorem precedes_concat_iff : Precedes (l ++ [z]) x y ↔ Precedes l x y ∨ x ∈ l ∧ y = z := by
  constructor
  · intro h
    obtain ⟨l₁, l₂, heq, h₁, h₂⟩ := List.sublist_append_iff.mp h
    rcases List.sublist_singleton.mp h₂ with rfl | rfl
    · rw [List.append_nil] at heq
      rw [← heq] at h₁
      exact .inl h₁
    · have hparts : [x] ++ [y] = l₁ ++ [z] := heq
      obtain ⟨hx, hy⟩ := List.append_inj' hparts rfl
      rw [← hx] at h₁
      exact .inr ⟨List.singleton_sublist.mp h₁, List.singleton_injective hy⟩
  · rintro (h | ⟨hx, rfl⟩)
    · exact h.trans (List.sublist_append_left _ _)
    · exact (List.singleton_sublist.mpr hx).append (List.Sublist.refl [y])

theorem Precedes.left_mem (h : Precedes l x y) : x ∈ l :=
  h.subset List.mem_cons_self

end Lists

namespace Mailbox

section Steps

variable {ι σ α β : Type} [DecidableEq ι] {capacity : Nat} {serve : σ → α → Outcome σ β}
  {w : Mailbox ι σ α β} {i j : ι} {a : α}

/-- What one event comes to. -/
inductive Moved (capacity : Nat) (serve : σ → α → Outcome σ β) (w : Mailbox ι σ α β) :
    MailEvent ι σ α → Mailbox ι σ α β → Prop
  | same (e : MailEvent ι σ α) : Moved capacity serve w e w
  | invoke {i : ι} {a : α} (hcall : w.calls i = .absent) :
      Moved capacity serve w (.invoke i a) ((w.setCall i (.waiting a)).record (.invoke i a))
  | post {i : ι} {a : α} {s : σ} (hcall : w.calls i = .waiting a)
      (hserver : w.server = some s) (hroom : w.queue.length < capacity) :
      Moved capacity serve w (.post i)
      { (w.setCall i .posted).record (.post i a) with queue := w.queue ++ [(i, a)] }
  | serve {s : σ} {i : ι} {a : α} {rest : List (ι × α)} (hserver : w.server = some s)
      (hqueue : w.queue = (i, a) :: rest) :
      Moved capacity serve w .serve (w.take serve s i a rest)
  | evolve {s s' : σ} (hserver : w.server = some s) :
      Moved capacity serve w (.evolve s') { w with server := some s' }
  | stop : Moved capacity serve w .stop { w with server := none }
  | giveUp {i : ι} (hserver : w.server = none)
      (hcall : (∃ a, w.calls i = .waiting a) ∨ w.calls i = .posted) :
      Moved capacity serve w (.giveUp i) (w.setCall i (.answered none))
  | respond {i : ι} {reply : Option β} (hcall : w.calls i = .answered reply) :
      Moved capacity serve w (.respond i) ((w.setCall i .returned).record (.respond i reply))
  | leave {i : ι} (habsent : w.calls i ≠ .absent) (hreturned : w.calls i ≠ .returned) :
      Moved capacity serve w (.leave i) (w.setCall i .gone)

theorem moved_step (capacity : Nat) (serve : σ → α → Outcome σ β) (w : Mailbox ι σ α β)
    (e : MailEvent ι σ α) : Moved capacity serve w e (w.step capacity serve e) := by
  cases e with
  | invoke i a =>
      simp only [step]
      split
      next hcall => exact .invoke hcall
      next => exact .same _
  | post i =>
      simp only [step]
      split
      next hcall hserver =>
        split
        next hroom => exact .post hcall hserver hroom
        next => exact .same _
      next => exact .same _
  | serve =>
      simp only [step]
      split
      next hserver hqueue => exact .serve hserver hqueue
      next => exact .same _
  | evolve s =>
      cases hserver : w.server with
      | none =>
          have hsame : w.step capacity serve (.evolve s) = w := by
            simp only [step, hserver, Option.map_none]
            rw [← hserver]
          rw [hsame]
          exact .same _
      | some t =>
          have hmoved : w.step capacity serve (.evolve s) = { w with server := some s } := by
            simp only [step, hserver, Option.map_some]
          rw [hmoved]
          exact .evolve hserver
  | stop => exact .stop
  | giveUp i =>
      simp only [step]
      split
      next hserver hcall => exact .giveUp hserver (.inl ⟨_, hcall⟩)
      next hserver hcall => exact .giveUp hserver (.inr hcall)
      next => exact .same _
  | respond i =>
      simp only [step]
      split
      next hcall => exact .respond hcall
      next => exact .same _
  | leave i =>
      simp only [step]
      split
      next => exact .same _
      next => exact .same _
      next habsent hreturned => exact .leave habsent hreturned

theorem setCall_calls_self (call : Call α β) : (w.setCall i call).calls i = call :=
  Function.update_self ..

@[simp]
theorem setCall_queue (call : Call α β) : (w.setCall i call).queue = w.queue := rfl

theorem setCall_calls_of_ne (call : Call α β) (h : j ≠ i) :
    (w.setCall i call).calls j = w.calls j :=
  Function.update_of_ne h ..

end Steps

section Invariant

variable {ι σ α β : Type} {capacity : Nat} {serve : σ → α → Outcome σ β}
  {evolves : σ → σ → Prop} {state s s' : σ} {w w' : Mailbox ι σ α β} {i j : ι} {a : α}
  {reply : Option β} {call : Call α β} {rest : List (ι × α)} {e : MailEvent ι σ α}

/-- The reply was made, or there is none and the server is over. -/
def Explained (w : Mailbox ι σ α β) (i : ι) (reply : Option β) : Prop :=
  (∃ d ∈ w.served, d.caller = i ∧ d.reply = reply) ∨ reply = none ∧ w.server = none

def Facts (w : Mailbox ι σ α β) (i : ι) : Call α β → Prop
  | .absent => ∀ a, .invoke i a ∉ w.history
  | .waiting a => .invoke i a ∈ w.history ∧ ∀ b, .post i b ∉ w.history
  | .posted => (∃ a, .invoke i a ∈ w.history) ∧ i ∈ w.queue.map Prod.fst
  | .answered reply => (∃ a, .invoke i a ∈ w.history) ∧ w.Explained i reply
  | _ => True

structure Inv (capacity : Nat) (serve : σ → α → Outcome σ β) (evolves : σ → σ → Prop) (state : σ)
    (w : Mailbox ι σ α β) : Prop where
  serial : Serial serve evolves state w.served w.server
  room : w.queue.length ≤ capacity
  posts : w.history.filterMap Moment.posted? =
    (w.served.map fun d => (d.caller, d.request)) ++ w.queue
  once : ((w.history.filterMap Moment.posted?).map Prod.fst).Nodup
  single : ((w.history.filterMap Moment.invoked?).map Prod.fst).Nodup
  invoked : ∀ i a, .post i a ∈ w.history → .invoke i a ∈ w.history
  facts : ∀ i, w.Facts i (w.calls i)
  responded : ∀ i reply, .respond i reply ∈ w.history →
    w.calls i = .returned ∧ w.Explained i reply
  kept : ∀ d ∈ w.served, ∀ e ∈ w.served, ∀ reply,
    Precedes w.history (.respond d.caller reply) (.invoke e.caller e.request) →
      Precedes w.served d e

theorem mem_posts_iff {l : List (Moment ι α β)} :
    (i, a) ∈ l.filterMap Moment.posted? ↔ .post i a ∈ l := by
  simp only [List.mem_filterMap]
  constructor
  · rintro ⟨m, hm, hposted⟩
    cases m with
    | post j b =>
        cases hposted
        exact hm
    | _ => cases hposted
  · exact fun h => ⟨_, h, rfl⟩

theorem mem_invocations_iff {l : List (Moment ι α β)} :
    (i, a) ∈ l.filterMap Moment.invoked? ↔ .invoke i a ∈ l := by
  simp only [List.mem_filterMap]
  constructor
  · rintro ⟨m, hm, hinvoked⟩
    cases m with
    | invoke j b =>
        cases hinvoked
        exact hm
    | _ => cases hinvoked
  · exact fun h => ⟨_, h, rfl⟩

theorem Explained.mono (h : w.Explained i reply) (hserved : ∀ d ∈ w.served, d ∈ w'.served)
    (hserver : w.server = none → w'.server = none) : w'.Explained i reply := by
  rcases h with ⟨d, hd, hcaller⟩ | ⟨hreply, hnone⟩
  · exact .inl ⟨d, hserved d hd, hcaller⟩
  · exact .inr ⟨hreply, hserver hnone⟩

/-- The facts about a call last as long as nothing happens to it. -/
theorem Facts.mono (h : w.Facts i call)
    (hinvoke : ∀ a, Moment.invoke i a ∈ w'.history ↔ Moment.invoke i a ∈ w.history)
    (hpost : ∀ a, Moment.post i a ∈ w'.history → Moment.post i a ∈ w.history)
    (hqueue : i ∈ w.queue.map Prod.fst → i ∈ w'.queue.map Prod.fst)
    (hserved : ∀ d ∈ w.served, d ∈ w'.served) (hserver : w.server = none → w'.server = none) :
    w'.Facts i call := by
  cases call with
  | absent => exact fun a ha => h a ((hinvoke a).mp ha)
  | waiting a => exact ⟨(hinvoke a).mpr h.1, fun b hb => h.2 b (hpost b hb)⟩
  | posted => exact ⟨h.1.imp fun a ha => (hinvoke a).mpr ha, hqueue h.2⟩
  | answered reply =>
      exact ⟨h.1.imp fun a ha => (hinvoke a).mpr ha, h.2.mono hserved hserver⟩
  | returned => trivial
  | gone => trivial

/-- A call that is under way was invoked. -/
theorem Facts.invoked (h : w.Facts i call) (hcall : 0 < call.weight) :
    ∃ a, .invoke i a ∈ w.history := by
  cases call with
  | waiting a => exact ⟨a, h.1⟩
  | posted => exact h.1
  | answered reply => exact h.1
  | _ => cases hcall

@[simp]
theorem record_queue (m : Moment ι α β) : (w.record m).queue = w.queue := rfl

theorem mem_record {m m' : Moment ι α β} :
    m' ∈ (w.record m).history ↔ m' ∈ w.history ∨ m' = m := by
  rw [record, List.mem_append, List.mem_singleton]

theorem inv_start (capacity : Nat) (serve : σ → α → Outcome σ β) (evolves : σ → σ → Prop)
    (state : σ) : Inv capacity serve evolves state (start state : Mailbox ι σ α β) where
  serial := .start
  room := Nat.zero_le _
  posts := rfl
  once := List.nodup_nil
  single := List.nodup_nil
  invoked _ _ h := absurd h List.not_mem_nil
  facts _ _ := List.not_mem_nil
  responded _ _ h := absurd h List.not_mem_nil
  kept _ hd := absurd hd List.not_mem_nil

theorem Inv.server (h : Inv capacity serve evolves state w) {server : Option σ}
    (hserial : Serial serve evolves state w.served server)
    (hserver : w.server = none → server = none) :
    Inv capacity serve evolves state { w with server } where
  serial := hserial
  room := h.room
  posts := h.posts
  once := h.once
  single := h.single
  invoked := h.invoked
  facts i := (h.facts i).mono (fun _ => .rfl) (fun _ => id) id (fun _ => id) hserver
  responded i reply hi :=
    ⟨(h.responded i reply hi).1, (h.responded i reply hi).2.mono (fun _ => id) hserver⟩
  kept := h.kept

theorem Inv.notMem_served (h : Inv capacity serve evolves state w)
    (hqueue : w.queue = (i, a) :: rest) : ∀ d ∈ w.served, d.caller ≠ i := by
  rintro d hd rfl
  have honce := h.once
  rw [h.posts, hqueue, List.map_append, List.map_map] at honce
  have hdisjoint := (List.nodup_append.mp honce).2.2
  exact hdisjoint d.caller (List.mem_map.mpr ⟨d, hd, rfl⟩) d.caller List.mem_cons_self rfl

variable [DecidableEq ι]

theorem facts_setCall (call : Call α β) (hothers : ∀ j, j ≠ i → w'.Facts j (w.calls j))
    (hi : w'.Facts i call) (hcalls : w'.calls = (w.setCall i call).calls) :
    ∀ j, w'.Facts j (w'.calls j) := by
  intro j
  rw [hcalls]
  by_cases hji : j = i
  · subst hji
    rw [setCall_calls_self]
    exact hi
  · rw [setCall_calls_of_ne call hji]
    exact hothers j hji

theorem calls_eq_returned (hj : w.calls j = .returned) (hi : w.calls i ≠ .returned) :
    (w.setCall i call).calls j = .returned := by
  rw [setCall_calls_of_ne call]
  · exact hj
  · rintro rfl
    exact hi hj

theorem Inv.setCall (h : Inv capacity serve evolves state w) (hfacts : w.Facts i call)
    (hreturned : w.calls i ≠ .returned) : Inv capacity serve evolves state (w.setCall i call) where
  serial := h.serial
  room := h.room
  posts := h.posts
  once := h.once
  single := h.single
  invoked := h.invoked
  facts := facts_setCall call (fun j _ => h.facts j) hfacts rfl
  responded j reply hj :=
    ⟨calls_eq_returned (h.responded j reply hj).1 hreturned, (h.responded j reply hj).2⟩
  kept := h.kept

/-- Nothing but the moment of an invocation is new, and the caller is a new one. -/
theorem Inv.invoke (h : Inv capacity serve evolves state w) (hcall : w.calls i = .absent) :
    Inv capacity serve evolves state ((w.setCall i (.waiting a)).record (.invoke i a)) := by
  have habsent : ∀ b, Moment.invoke i b ∉ w.history := by
    have hfacts := h.facts i
    rw [hcall] at hfacts
    exact hfacts
  have hpost : ∀ b, Moment.post i b ∉ w.history := fun b hb => habsent b (h.invoked i b hb)
  have hposts : ((w.setCall i (.waiting a)).record (.invoke i a)).history.filterMap
      Moment.posted? = w.history.filterMap Moment.posted? :=
    (List.filterMap_append ..).trans (List.append_nil _)
  have hinvocations : ((w.setCall i (.waiting a)).record (.invoke i a)).history.filterMap
      Moment.invoked? = w.history.filterMap Moment.invoked? ++ [(i, a)] :=
    List.filterMap_append ..
  exact {
    serial := h.serial
    room := h.room
    posts := hposts.trans h.posts
    once := by
      rw [hposts]
      exact h.once
    single := by
      rw [hinvocations, List.map_append]
      refine List.nodup_append.mpr ⟨h.single, List.nodup_singleton _, ?_⟩
      rintro j hj _ hi rfl
      obtain ⟨⟨j, b⟩, hb, rfl⟩ := List.mem_map.mp hj
      rw [List.map_singleton, List.mem_singleton] at hi
      cases hi
      exact habsent b (mem_invocations_iff.mp hb)
    invoked := by
      intro j b hb
      rcases mem_record.mp hb with hb | hb
      · exact mem_record.mpr (.inl (h.invoked j b hb))
      · cases hb
    facts := by
      refine facts_setCall (w := w) (.waiting a) ?_ ?_ rfl
      · intro j hji
        refine (h.facts j).mono ?_ ?_ id (fun _ => id) id
        · intro b
          rw [mem_record]
          constructor
          · rintro (hb | hb)
            · exact hb
            · cases hb
              exact absurd rfl hji
          · exact .inl
        · intro b hb
          rcases mem_record.mp hb with hb | hb
          · exact hb
          · cases hb
      · refine ⟨mem_record.mpr (.inr rfl), ?_⟩
        intro b hb
        rcases mem_record.mp hb with hb | hb
        · exact hpost b hb
        · cases hb
    responded := by
      intro j reply hj
      rcases mem_record.mp hj with hj | hj
      · obtain ⟨hreturned, hexplained⟩ := h.responded j reply hj
        refine ⟨calls_eq_returned hreturned ?_, hexplained⟩
        rw [hcall]
        simp
      · cases hj
    kept := by
      intro d hd e he reply hprecedes
      rcases precedes_concat_iff.mp hprecedes with hold | ⟨-, hnew⟩
      · exact h.kept d hd e he reply hold
      · cases hnew
        have hmem : (e.caller, e.request) ∈ w.history.filterMap Moment.posted? := by
          rw [h.posts]
          exact List.mem_append_left _ (List.mem_map.mpr ⟨e, he, rfl⟩)
        exact absurd (mem_posts_iff.mp hmem) (hpost _) }

theorem Inv.post (h : Inv capacity serve evolves state w) (hcall : w.calls i = .waiting a)
    (hroom : w.queue.length < capacity) : Inv capacity serve evolves state
      { (w.setCall i .posted).record (.post i a) with queue := w.queue ++ [(i, a)] } := by
  have hwaiting : Moment.invoke i a ∈ w.history ∧ ∀ b, Moment.post i b ∉ w.history := by
    have hfacts := h.facts i
    rw [hcall] at hfacts
    exact hfacts
  have hposts : ((w.setCall i .posted).record (.post i a)).history.filterMap
      Moment.posted? = w.history.filterMap Moment.posted? ++ [(i, a)] :=
    List.filterMap_append ..
  have hinvocations : ((w.setCall i .posted).record (.post i a)).history.filterMap
      Moment.invoked? = w.history.filterMap Moment.invoked? :=
    (List.filterMap_append ..).trans (List.append_nil _)
  exact {
    serial := h.serial
    room := by
      rw [List.length_append, List.length_singleton]
      exact hroom
    posts := by
      rw [hposts, h.posts, List.append_assoc]
      rfl
    once := by
      rw [hposts, List.map_append]
      refine List.nodup_append.mpr ⟨h.once, List.nodup_singleton _, ?_⟩
      rintro j hj _ hi rfl
      obtain ⟨⟨j, b⟩, hb, rfl⟩ := List.mem_map.mp hj
      rw [List.map_singleton, List.mem_singleton] at hi
      cases hi
      exact hwaiting.2 b (mem_posts_iff.mp hb)
    single := by
      rw [hinvocations]
      exact h.single
    invoked := by
      intro j b hb
      rcases mem_record.mp hb with hb | hb
      · exact mem_record.mpr (.inl (h.invoked j b hb))
      · cases hb
        exact mem_record.mpr (.inl hwaiting.1)
    facts := by
      refine facts_setCall (w := w) .posted ?_ ?_ rfl
      · intro j hji
        refine (h.facts j).mono ?_ ?_ ?_ (fun _ => id) id
        · intro b
          refine mem_record.trans (or_iff_left ?_)
          intro hb
          cases hb
        · intro b hb
          rcases mem_record.mp hb with hb | hb
          · exact hb
          · cases hb
            exact absurd rfl hji
        · intro hj
          rw [List.map_append]
          exact List.mem_append_left _ hj
      · refine ⟨⟨a, mem_record.mpr (.inl hwaiting.1)⟩, ?_⟩
        rw [List.map_append]
        exact List.mem_append_right _ List.mem_cons_self
    responded := by
      intro j reply hj
      rcases mem_record.mp hj with hj | hj
      · obtain ⟨hreturned, hexplained⟩ := h.responded j reply hj
        refine ⟨calls_eq_returned hreturned ?_, hexplained⟩
        rw [hcall]
        simp
      · cases hj
    kept := by
      intro d hd e he reply hprecedes
      rcases precedes_concat_iff.mp hprecedes with hold | ⟨-, hnew⟩
      · exact h.kept d hd e he reply hold
      · cases hnew }

theorem Inv.respond (h : Inv capacity serve evolves state w)
    (hcall : w.calls i = .answered reply) : Inv capacity serve evolves state
      ((w.setCall i .returned).record (.respond i reply)) := by
  have hanswered : (∃ a, Moment.invoke i a ∈ w.history) ∧ w.Explained i reply := by
    have hfacts := h.facts i
    rw [hcall] at hfacts
    exact hfacts
  have hposts : ((w.setCall i .returned).record (.respond i reply)).history.filterMap
      Moment.posted? = w.history.filterMap Moment.posted? :=
    (List.filterMap_append ..).trans (List.append_nil _)
  have hinvocations : ((w.setCall i .returned).record (.respond i reply)).history.filterMap
      Moment.invoked? = w.history.filterMap Moment.invoked? :=
    (List.filterMap_append ..).trans (List.append_nil _)
  exact {
    serial := h.serial
    room := h.room
    posts := hposts.trans h.posts
    once := by
      rw [hposts]
      exact h.once
    single := by
      rw [hinvocations]
      exact h.single
    invoked := by
      intro j b hb
      rcases mem_record.mp hb with hb | hb
      · exact mem_record.mpr (.inl (h.invoked j b hb))
      · cases hb
    facts := by
      refine facts_setCall (w := w) .returned ?_ trivial rfl
      intro j hji
      refine (h.facts j).mono ?_ ?_ id (fun _ => id) id
      · intro b
        refine mem_record.trans (or_iff_left ?_)
        intro hb
        cases hb
      · intro b hb
        rcases mem_record.mp hb with hb | hb
        · exact hb
        · cases hb
    responded := by
      intro j reply' hj
      rcases mem_record.mp hj with hj | hj
      · obtain ⟨hreturned, hexplained⟩ := h.responded j reply' hj
        refine ⟨calls_eq_returned hreturned ?_, hexplained⟩
        rw [hcall]
        simp
      · cases hj
        exact ⟨setCall_calls_self _, hanswered.2⟩
    kept := by
      intro d hd e he reply' hprecedes
      rcases precedes_concat_iff.mp hprecedes with hold | ⟨-, hnew⟩
      · exact h.kept d hd e he reply' hold
      · cases hnew }

theorem settle_eq (w : Mailbox ι σ α β) (i : ι) (reply : Option β) :
    w.calls i = .posted ∧ w.settle i reply = w.setCall i (.answered reply) ∨
      w.calls i ≠ .posted ∧ w.settle i reply = w := by
  unfold settle
  split
  next hcall => exact .inl ⟨hcall, rfl⟩
  next hcall => exact .inr ⟨hcall, rfl⟩

/-- The mailbox after a request was served, but for the call of its caller. -/
def taken (serve : σ → α → Outcome σ β) (w : Mailbox ι σ α β) (s : σ) (i : ι) (a : α)
    (rest : List (ι × α)) : Mailbox ι σ α β :=
  { w with
    server := (serve s a).next
    queue := rest
    served := w.served ++ [⟨i, a, (serve s a).reply⟩] }

theorem Inv.take (h : Inv capacity serve evolves state w) (hserver : w.server = some s)
    (hqueue : w.queue = (i, a) :: rest) :
    Inv capacity serve evolves state (w.take serve s i a rest) := by
  have hserved : ∀ d ∈ w.served, d ∈ (taken serve w s i a rest).served := fun d hd =>
    List.mem_append_left _ hd
  have hover : w.server = none → (taken serve w s i a rest).server = none := by
    intro hnone
    rw [hserver] at hnone
    cases hnone
  have hunanswered : ∀ reply, Moment.respond i reply ∉ w.history := by
    intro reply hreply
    rcases (h.responded i reply hreply).2 with ⟨d, hd, hcaller, -⟩ | ⟨-, hnone⟩
    · exact h.notMem_served hqueue d hd hcaller
    · rw [hserver] at hnone
      cases hnone
  have hpost : Moment.post i a ∈ w.history := by
    rw [← mem_posts_iff, h.posts, hqueue]
    exact List.mem_append_right _ List.mem_cons_self
  have hothers : ∀ j, j ≠ i → (taken serve w s i a rest).Facts j (w.calls j) := by
    intro j hji
    refine (h.facts j).mono (fun _ => .rfl) (fun _ => id) ?_ hserved hover
    intro hj
    rw [hqueue, List.map_cons] at hj
    exact (List.mem_cons.mp hj).resolve_left hji
  have htaken : ∀ calls : ι → Call α β, (∀ j, (taken serve w s i a rest).Facts j (calls j)) →
      (∀ j, w.calls j = .returned → calls j = .returned) →
        Inv capacity serve evolves state { taken serve w s i a rest with calls } := by
    intro calls hfacts hcalls
    exact {
      serial := by
        have hserial := h.serial
        rw [hserver] at hserial
        exact hserial.serve i a
      room := by
        have hroom := h.room
        rw [hqueue, List.length_cons] at hroom
        exact Nat.le_of_succ_le hroom
      posts := by
        rw [taken, h.posts, hqueue, List.map_append, List.append_assoc]
        rfl
      once := h.once
      single := h.single
      invoked := h.invoked
      facts := hfacts
      responded := by
        intro j reply hj
        obtain ⟨hreturned, hexplained⟩ := h.responded j reply hj
        exact ⟨hcalls j hreturned, hexplained.mono hserved hover⟩
      kept := by
        intro d hd e he reply hprecedes
        rcases List.mem_append.mp hd with hd | hd
        · rcases List.mem_append.mp he with he | he
          · exact (h.kept d hd e he reply hprecedes).trans (List.sublist_append_left _ _)
          · exact precedes_concat_iff.mpr (.inr ⟨hd, List.mem_singleton.mp he⟩)
        · rw [List.mem_singleton.mp hd] at hprecedes
          exact absurd hprecedes.left_mem (hunanswered reply) }
  change Inv capacity serve evolves state ((taken serve w s i a rest).settle i (serve s a).reply)
  rcases settle_eq (taken serve w s i a rest) i (serve s a).reply with
    ⟨hcall, hsettle⟩ | ⟨hcall, hsettle⟩
  · rw [hsettle]
    apply htaken
    · intro j
      by_cases hji : j = i
      · subst hji
        rw [Function.update_self]
        exact ⟨⟨a, h.invoked j a hpost⟩,
          .inl ⟨_, List.mem_append_right _ List.mem_cons_self, rfl, rfl⟩⟩
      · rw [Function.update_of_ne hji]
        exact hothers j hji
    · intro j hj
      refine calls_eq_returned hj ?_
      change w.calls i = .posted at hcall
      change w.calls i ≠ .returned
      rw [hcall]
      simp
  · rw [hsettle]
    apply htaken
    · intro j
      by_cases hji : j = i
      · subst hji
        have hfacts := h.facts j
        change (taken serve w s j a rest).Facts j (w.calls j)
        change w.calls j ≠ .posted at hcall
        cases hj : w.calls j with
        | absent =>
            rw [hj] at hfacts
            exact hfacts
        | waiting b =>
            rw [hj] at hfacts
            exact hfacts
        | posted => exact absurd hj hcall
        | answered reply =>
            rw [hj] at hfacts
            exact ⟨hfacts.1, hfacts.2.mono hserved hover⟩
        | returned => trivial
        | gone => trivial
      · exact hothers j hji
    · exact fun j hj => hj

/-- The evolution of the server by itself is its own. -/
def Evolves (evolves : σ → σ → Prop) (w : Mailbox ι σ α β) : MailEvent ι σ α → Prop
  | .evolve s' => ∀ s, w.server = some s → evolves s s'
  | _ => True

theorem Inv.moved (h : Inv capacity serve evolves state w) (hevolves : Evolves evolves w e)
    (hmoved : Moved capacity serve w e w') : Inv capacity serve evolves state w' := by
  cases hmoved with
  | same e => exact h
  | invoke hcall => exact h.invoke hcall
  | post hcall hserver hroom => exact h.post hcall hroom
  | serve hserver hqueue => exact h.take hserver hqueue
  | evolve hserver =>
      have hserial := h.serial
      rw [hserver] at hserial
      refine h.server (hserial.evolve (hevolves _ hserver)) ?_
      intro hnone
      rw [hserver] at hnone
      cases hnone
  | stop => exact h.server h.serial.stop fun _ => rfl
  | giveUp hserver hcall =>
      refine h.setCall ⟨?_, .inr ⟨rfl, hserver⟩⟩ ?_
      · apply (h.facts _).invoked
        rcases hcall with ⟨a, hcall⟩ | hcall
        all_goals simp [hcall, Call.weight]
      · rcases hcall with ⟨a, hcall⟩ | hcall
        all_goals
          rw [hcall]
          simp
  | respond hcall => exact h.respond hcall
  | leave habsent hreturned => exact h.setCall trivial hreturned

theorem Inv.run {events : List (MailEvent ι σ α)} (h : Inv capacity serve evolves state w)
    (hevents : Along (step capacity serve) (Evolves evolves) w events) :
    Inv capacity serve evolves state (run (step capacity serve) w events) :=
  run_preserves (fun w e hw he => hw.moved he (moved_step capacity serve w e)) h hevents

end Invariant

section Frames

variable {ι σ α β : Type} [DecidableEq ι] {capacity : Nat} {serve : σ → α → Outcome σ β}
  {w w' : Mailbox ι σ α β} {i : ι} {e : MailEvent ι σ α}

theorem settle_history (w : Mailbox ι σ α β) (i : ι) (reply : Option β) :
    (w.settle i reply).history = w.history := by
  rcases settle_eq w i reply with ⟨-, h⟩ | ⟨-, h⟩
  · rw [h]
    rfl
  · rw [h]

theorem settle_served (w : Mailbox ι σ α β) (i : ι) (reply : Option β) :
    (w.settle i reply).served = w.served := by
  rcases settle_eq w i reply with ⟨-, h⟩ | ⟨-, h⟩
  · rw [h]
    rfl
  · rw [h]

theorem Moved.history (h : Moved capacity serve w e w') {m : Moment ι α β}
    (hm : m ∈ w.history) : m ∈ w'.history := by
  cases h with
  | invoke hcall => exact mem_record.mpr (.inl hm)
  | post hcall hserver hroom => exact mem_record.mpr (.inl hm)
  | respond hcall => exact mem_record.mpr (.inl hm)
  | serve hserver hqueue =>
      rw [take, settle_history]
      exact hm
  | _ => exact hm

theorem Moved.served (h : Moved capacity serve w e w') {d : Served ι α β}
    (hd : d ∈ w.served) : d ∈ w'.served := by
  cases h with
  | serve hserver hqueue =>
      rw [take, settle_served]
      exact List.mem_append_left _ hd
  | _ => exact hd

/-- A server that is over does not come back. -/
theorem Moved.server (h : Moved capacity serve w e w') (hserver : w.server = none) :
    w'.server = none := by
  cases h with
  | serve hserver' hqueue =>
      rw [hserver] at hserver'
      cases hserver'
  | evolve hserver' =>
      rw [hserver] at hserver'
      cases hserver'
  | stop => rfl
  | _ => exact hserver

theorem setCall_calls {P : Call α β → Prop} {call : Call α β} {j : ι} (hself : i = j → P call)
    (hother : P (w.calls i)) : P ((w.setCall j call).calls i) := by
  by_cases hij : i = j
  · subst hij
    rw [setCall_calls_self]
    exact hself rfl
  · rw [setCall_calls_of_ne call hij]
    exact hother

/-- Only an invocation begins a call. -/
theorem Moved.absent (h : Moved capacity serve w e w') (hcall : w.calls i = .absent)
    (hinvoke : ∀ a, e ≠ .invoke i a) : w'.calls i = .absent := by
  have hne : ∀ {j call}, w.calls j = call → call ≠ .absent → i ≠ j := by
    rintro j call hj habsent rfl
    exact habsent (hj.symm.trans hcall)
  cases h with
  | same e => exact hcall
  | invoke hj =>
      refine setCall_calls (P := fun call => call = .absent) ?_ hcall
      rintro rfl
      exact absurd rfl (hinvoke _)
  | post hj hserver hroom =>
      exact (setCall_calls_of_ne .posted (hne hj (by simp))).trans hcall
  | serve hserver hqueue =>
      rename_i s j a rest
      change ((taken serve w s j a rest).settle j (serve s a).reply).calls i = .absent
      rcases settle_eq (taken serve w s j a rest) j (serve s a).reply with ⟨hj, h⟩ | ⟨-, h⟩
      · rw [h]
        exact (setCall_calls_of_ne _ (hne hj (by simp))).trans hcall
      · rw [h]
        exact hcall
  | evolve hserver => exact hcall
  | stop => exact hcall
  | giveUp hserver hj =>
      refine (setCall_calls_of_ne _ ?_).trans hcall
      rcases hj with ⟨a, hj⟩ | hj
      · exact hne hj (by simp)
      · exact hne hj (by simp)
  | respond hj => exact (setCall_calls_of_ne _ (hne hj (by simp))).trans hcall
  | leave habsent hreturned =>
      refine (setCall_calls_of_ne _ ?_).trans hcall
      rintro rfl
      exact habsent hcall

/-- Only a response ends a call, or the caller, when it leaves. -/
theorem Moved.over (h : Moved capacity serve w e w') (hcall : ¬ (w.calls i).Over)
    (hrespond : e ≠ .respond i) (hleave : e ≠ .leave i) : ¬ (w'.calls i).Over := by
  cases h with
  | same e => exact hcall
  | invoke hj => exact setCall_calls (P := fun call => ¬ call.Over) (fun _ => id) hcall
  | post hj hserver hroom =>
      exact setCall_calls (P := fun call => ¬ call.Over) (fun _ => id) hcall
  | serve hserver hqueue =>
      rename_i s j a rest
      change ¬ (((taken serve w s j a rest).settle j (serve s a).reply).calls i).Over
      rcases settle_eq (taken serve w s j a rest) j (serve s a).reply with ⟨-, h⟩ | ⟨-, h⟩
      · rw [h]
        exact setCall_calls (P := fun call => ¬ call.Over) (fun _ => id) hcall
      · rw [h]
        exact hcall
  | evolve hserver => exact hcall
  | stop => exact hcall
  | giveUp hserver hj => exact setCall_calls (P := fun call => ¬ call.Over) (fun _ => id) hcall
  | respond hj =>
      refine setCall_calls (P := fun call => ¬ call.Over) ?_ hcall
      rintro rfl
      exact absurd rfl hrespond
  | leave habsent hreturned =>
      refine setCall_calls (P := fun call => ¬ call.Over) ?_ hcall
      rintro rfl
      exact absurd rfl hleave

end Frames

section Linearizability

variable {ι σ α β : Type} {capacity : Nat} {serve : σ → α → Outcome σ β}
  {evolves : σ → σ → Prop} {state : σ} {w : Mailbox ι σ α β} {i : ι} {a b : α}

theorem Inv.linearizes (h : Inv capacity serve evolves state w) :
    Linearizes w.history w.served where
  called d hd := by
    apply h.invoked
    rw [← mem_posts_iff, h.posts]
    exact List.mem_append_left _ (List.mem_map.mpr ⟨d, hd, rfl⟩)
  once := by
    have honce := h.once
    rw [h.posts, List.map_append, List.map_map] at honce
    exact (List.nodup_append.mp honce).1
  replied i b hb := by
    rcases (h.responded i (some b) hb).2 with hserved | ⟨hnone, -⟩
    · exact hserved
    · cases hnone
  kept := h.kept

theorem Inv.invoke_unique (h : Inv capacity serve evolves state w)
    (ha : .invoke i a ∈ w.history) (hb : .invoke i b ∈ w.history) : a = b := by
  have hpair := List.inj_on_of_nodup_map h.single (mem_invocations_iff.mpr ha)
    (mem_invocations_iff.mpr hb) rfl
  exact congrArg Prod.snd hpair

end Linearizability

section Progress

variable {ι σ α β : Type} {capacity : Nat} {serve : σ → α → Outcome σ β}
  {evolves : σ → σ → Prop} {state : σ} {w w' : Mailbox ι σ α β} {i j : ι} {a : α}
  {call : Call α β} {e : MailEvent ι σ α}

/-- Calls that are under way go on, and nothing else happens. -/
def Goes (capacity : Nat) (w : Mailbox ι σ α β) : MailEvent ι σ α → Prop
  | .post i => (∃ a, w.calls i = .waiting a) ∧ w.server ≠ none ∧ w.queue.length < capacity
  | .serve => w.server ≠ none ∧ w.queue ≠ []
  | .giveUp i => w.server = none ∧ ((∃ a, w.calls i = .waiting a) ∨ w.calls i = .posted)
  | .respond i => ∃ reply, w.calls i = .answered reply
  | _ => False

/-- Where neither the server nor the caller can go on, the call is not under way. -/
theorem Inv.over_of_stuck (h : Inv capacity serve evolves state w) (hcapacity : 0 < capacity)
    (hserve : ¬ Goes capacity w (.serve : MailEvent ι σ α)) (hpost : ¬ Goes capacity w (.post i))
    (hgiveUp : ¬ Goes capacity w (.giveUp i)) (hrespond : ¬ Goes capacity w (.respond i)) :
    (w.calls i).Over := by
  have hqueue : w.server ≠ none → w.queue = [] := by
    intro hserver
    by_contra hqueue
    exact hserve ⟨hserver, hqueue⟩
  cases hcall : w.calls i with
  | absent => trivial
  | returned => trivial
  | gone => trivial
  | answered reply => exact hrespond ⟨reply, hcall⟩
  | waiting a =>
      by_cases hserver : w.server = none
      · exact hgiveUp ⟨hserver, .inl ⟨a, hcall⟩⟩
      · refine hpost ⟨⟨a, hcall⟩, hserver, ?_⟩
        rw [hqueue hserver]
        exact hcapacity
  | posted =>
      by_cases hserver : w.server = none
      · exact hgiveUp ⟨hserver, .inr hcall⟩
      · have hfacts := h.facts i
        rw [hcall, Facts, hqueue hserver] at hfacts
        exact absurd hfacts.2 List.not_mem_nil

def total (calls : ι → Call α β) (callers : List ι) : Nat :=
  (callers.map fun i => (calls i).weight).sum

def callers (w : Mailbox ι σ α β) : List ι :=
  (w.history.filterMap Moment.invoked?).map Prod.fst

/-- More than the steps that the calls that are under way can take. -/
def remaining (w : Mailbox ι σ α β) : Nat :=
  total w.calls w.callers + w.queue.length

theorem total_setCall_le [DecidableEq ι] {l : List ι} (hi : i ∈ l)
    (hcall : call.weight ≤ (w.calls i).weight) :
    total (w.setCall i call).calls l + (w.calls i).weight ≤ total w.calls l + call.weight := by
  have hle : ∀ j, ((w.setCall i call).calls j).weight ≤ (w.calls j).weight := by
    intro j
    by_cases hji : j = i
    · subst hji
      rw [setCall_calls_self]
      exact hcall
    · rw [setCall_calls_of_ne call hji]
  induction l with
  | nil => exact absurd hi List.not_mem_nil
  | cons j l ih =>
      have htotal : total (w.setCall i call).calls l ≤ total w.calls l :=
        List.sum_le_sum fun j _ => hle j
      simp only [total, List.map_cons, List.sum_cons] at ih htotal ⊢
      rcases List.mem_cons.mp hi with rfl | hi
      · rw [setCall_calls_self]
        omega
      · have hhead := hle j
        have htail := ih hi
        omega

theorem callers_record {m : Moment ι α β} (h : m.invoked? = none) :
    (w.record m).callers = w.callers := by
  have hnone : [m].filterMap Moment.invoked? = [] := by simp [h]
  rw [callers, record, List.filterMap_append, hnone, List.append_nil]
  rfl

/-- What one step of a call uses up. -/
theorem Inv.remaining_lt [DecidableEq ι] (h : Inv capacity serve evolves state w)
    {before : Call α β} (call : Call α β) (hbefore : w.calls i = before)
    (hcall : call.weight < before.weight) (hcalls : w'.calls = (w.setCall i call).calls)
    (hcallers : w'.callers = w.callers)
    (hqueue : w'.queue.length + call.weight < w.queue.length + before.weight) :
    w'.remaining < w.remaining := by
  subst hbefore
  obtain ⟨a, ha⟩ := (h.facts i).invoked (Nat.zero_lt_of_lt hcall)
  have hi : i ∈ w.callers := List.mem_map.mpr ⟨(i, a), mem_invocations_iff.mpr ha, rfl⟩
  have htotal := total_setCall_le hi hcall.le
  rw [remaining, remaining, hcalls, hcallers]
  omega

/-- A step of a call uses up some of what remains. -/
theorem Inv.step_lt [DecidableEq ι] (h : Inv capacity serve evolves state w)
    (he : Goes capacity w e) : (w.step capacity serve e).remaining < w.remaining := by
  cases e with
  | post i =>
      obtain ⟨⟨a, hcall⟩, hserver, hroom⟩ := he
      obtain ⟨s, hserver⟩ := Option.ne_none_iff_exists'.mp hserver
      simp only [step, hcall, hserver, hroom, if_true]
      refine h.remaining_lt .posted hcall ?_ rfl (callers_record rfl) ?_
      all_goals simp [Call.weight]
  | serve =>
      obtain ⟨hserver, hqueue⟩ := he
      obtain ⟨s, hserver⟩ := Option.ne_none_iff_exists'.mp hserver
      obtain ⟨⟨i, a⟩, rest, hqueue⟩ := List.exists_cons_of_ne_nil hqueue
      simp only [step, hserver, hqueue]
      change ((taken serve w s i a rest).settle i (serve s a).reply).remaining < w.remaining
      rcases settle_eq (taken serve w s i a rest) i (serve s a).reply with
        ⟨hcall, hsettle⟩ | ⟨-, hsettle⟩
      · rw [hsettle]
        refine h.remaining_lt (.answered (serve s a).reply) hcall ?_ rfl rfl ?_
        all_goals simp [Call.weight, hqueue, taken]
      · rw [hsettle]
        change total w.calls w.callers + rest.length < total w.calls w.callers + w.queue.length
        rw [hqueue, List.length_cons]
        omega
  | giveUp i =>
      obtain ⟨hserver, ⟨a, hcall⟩ | hcall⟩ := he
      · simp only [step, hserver, hcall]
        refine h.remaining_lt (.answered none) hcall ?_ rfl rfl ?_
        all_goals simp [Call.weight]
      · simp only [step, hserver, hcall]
        refine h.remaining_lt (.answered none) hcall ?_ rfl rfl ?_
        all_goals simp [Call.weight]
  | respond i =>
      obtain ⟨reply, hcall⟩ := he
      simp only [step, hcall]
      refine h.remaining_lt .returned hcall ?_ rfl (callers_record rfl) ?_
      all_goals simp [Call.weight]
  | _ => cases he

theorem evolves_of_goes (he : Goes capacity w e) : Evolves evolves w e := by
  cases e with
  | evolve s => cases he
  | _ => trivial

/-- The calls that are under way are over after finitely many steps, whatever their order. -/
theorem Inv.length_le [DecidableEq ι] {events : List (MailEvent ι σ α)}
    (h : Inv capacity serve evolves state w)
    (hgoes : Along (step capacity serve) (Goes capacity) w events) :
    events.length ≤ w.remaining := by
  induction events generalizing w with
  | nil => exact Nat.zero_le _
  | cons e events ih =>
      obtain ⟨he, hevents⟩ := hgoes
      have hlt := h.step_lt he
      have hrest := ih (h.moved (evolves_of_goes he) (moved_step capacity serve w e)) hevents
      rw [List.length_cons]
      omega

end Progress

end Mailbox

end Xcplane.Lib
