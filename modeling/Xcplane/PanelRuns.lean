import Xcplane.PanelInbounds

/-!
What a Rebase makes of the inbounds of a panel, where it ends well and where it stops: it does
what the specification of the server says, it never touches other inbounds, and it cannot be
repeated once it has changed anything.
-/

namespace Xcplane.PanelInbounds

open Xcplane.Types
open Xcplane.Lib
open Xcplane.RebaseDiff
open Xcplane.Deploy
open Xcplane.RebasePlan
open Xcplane.RemoteSide
open Xcplane.CloudflareAccount (Fate)

section Contents

def names (l : List Inbound) : List String :=
  l.map Inbound.name

/-- The inbounds that are left when those with the names are deleted. -/
def remaining (removed : List Inbound) (xs : List XuiInbound) : List XuiInbound :=
  xs.filter fun x => !(names removed).contains x.remark

/-- What an inbound becomes in the panel, with its generated clients or without them. -/
def entry (secrets : Secrets) (users : Bool) (id : Nat) (inb : Inbound) : XuiInbound where
  id
  remark := inb.name
  port := inb.port
  kind := inb.kind
  clients := .mother ((secrets.motherSubids.lookup inb.name).getD "") ::
    if users then clientGenerator inb else []

def entries (secrets : Secrets) (users : Bool) : Nat → List Inbound → List XuiInbound
  | _, [] => []
  | id, inb :: rest => entry secrets users id inb :: entries secrets users (id + 1) rest

/-- At most one inbound of the panel has the name. -/
def Single (n : String) (xs : List XuiInbound) : Prop :=
  ∀ x ∈ xs, ∀ y ∈ xs, x.remark = n → y.remark = n → x = y

/-- Some of the inbounds are deleted, the first ones first. -/
def Deleting (removed : List Inbound) (p q : Panel) : Prop :=
  ∃ done, done <+: removed ∧ q.inbounds = remaining done p.inbounds

variable {secrets : Secrets} {users : Bool} {m : Nat} {inb : Inbound} {l l' : List Inbound}
  {xs : List XuiInbound} {removed : List Inbound}

theorem entries_append : entries secrets users m (l ++ l') =
    entries secrets users m l ++ entries secrets users (m + l.length) l' := by
  induction l generalizing m with
  | nil => rfl
  | cons inb l ih =>
      rw [List.cons_append, entries, entries, ih, List.cons_append, List.length_cons]
      congr 3
      omega

theorem mem_entries {x : XuiInbound} (h : x ∈ entries secrets users m l) :
    m ≤ x.id ∧ x.id < m + l.length ∧ x.remark ∈ names l := by
  induction l generalizing m with
  | nil => cases h
  | cons inb l ih =>
      rw [List.length_cons]
      rcases List.mem_cons.mp h with rfl | h
      · exact ⟨Nat.le_refl _, by show m < _; omega, List.mem_cons_self⟩
      · obtain ⟨hle, hlt, hname⟩ := ih h
        exact ⟨by omega, by omega, List.mem_cons_of_mem _ hname⟩

theorem remaining_nil : remaining [] xs = xs := by
  simp [remaining, names]

theorem remaining_append : remaining (l ++ l') xs = remaining l' (remaining l xs) := by
  simp only [remaining, names, List.map_append, List.filter_filter]
  apply List.filter_congr
  intro x _
  rw [List.contains_append, Bool.not_or, Bool.and_comm]

theorem remaining_singleton : remaining [inb] xs = xs.filter fun x => x.remark != inb.name := by
  apply List.filter_congr
  intro x _
  show (!([inb.name].contains x.remark)) = (x.remark != inb.name)
  rw [List.contains_cons, List.contains_nil, Bool.or_false]
  rfl

theorem mem_remaining {x : XuiInbound} :
    x ∈ remaining removed xs ↔ x ∈ xs ∧ x.remark ∉ names removed := by
  simp [remaining]

theorem Single.remaining {n : String} (h : Single n xs) : Single n (remaining removed xs) :=
  fun x hx y hy => h x (mem_remaining.mp hx).1 y (mem_remaining.mp hy).1

/-- Granting the clients of the inbound that comes next. -/
theorem map_grant_entry {kept : List XuiInbound} {done rest : List Inbound}
    (hkept : ∀ x ∈ kept, x.id < m) :
    (kept ++ entries secrets true m done ++
        entries secrets false (m + done.length) (inb :: rest)).map
          (Panel.grant (m + done.length) (clientGenerator inb)) =
      kept ++ entries secrets true m (done ++ [inb]) ++
        entries secrets false (m + (done ++ [inb]).length) rest := by
  have hsame : ∀ ys : List XuiInbound, (∀ y ∈ ys, y.id ≠ m + done.length) →
      ys.map (Panel.grant (m + done.length) (clientGenerator inb)) = ys := by
    intro ys hys
    calc ys.map (Panel.grant (m + done.length) (clientGenerator inb))
        = ys.map id := List.map_congr_left fun y hy => if_neg (hys y hy)
      _ = ys := List.map_id ys
  have hbefore : ∀ y ∈ kept ++ entries secrets true m done, y.id ≠ m + done.length := by
    intro y hy
    rcases List.mem_append.mp hy with hy | hy
    · have hlt := hkept y hy
      omega
    · have hlt := (mem_entries hy).2.1
      omega
  have hafter : ∀ y ∈ entries secrets false (m + done.length + 1) rest, y.id ≠ m + done.length := by
    intro y hy
    have hle := (mem_entries hy).1
    omega
  have hentry : Panel.grant (m + done.length) (clientGenerator inb)
      (entry secrets false (m + done.length) inb) = entry secrets true (m + done.length) inb := by
    simp [Panel.grant, entry]
  rw [List.map_append, hsame _ hbefore, entries, List.map_cons, hsame _ hafter, hentry,
    entries_append, List.length_append, List.length_singleton]
  simp [entries, Nat.add_assoc]

end Contents

section Facts

variable {f : String → Option Nat} {xs ys : List XuiInbound} {x : XuiInbound} {n : String}

/-- The IDs that the play knows after it has gone through the list. -/
def factsOf (f : String → Option Nat) (xs : List XuiInbound) : String → Option Nat :=
  xs.foldl (fun f x => Function.update f x.remark (some x.id)) f

theorem factsOf_of_notMem (h : ∀ y ∈ xs, y.remark ≠ n) : factsOf f xs n = f n := by
  induction xs generalizing f with
  | nil => rfl
  | cons y xs ih =>
      obtain ⟨hy, hxs⟩ := List.forall_mem_cons.mp h
      exact (ih hxs).trans (Function.update_of_ne hy.symm ..)

/-- The last inbound with a name is the one whose ID is known. -/
theorem factsOf_last (h : ∀ y ∈ ys, y.remark ≠ x.remark) :
    factsOf f (xs ++ x :: ys) x.remark = some x.id := by
  rw [factsOf, List.foldl_append, List.foldl_cons]
  exact (factsOf_of_notMem h).trans (Function.update_self ..)

theorem factsOf_cases {id : Nat} (h : factsOf f xs n = some id) :
    f n = some id ∨ ∃ x ∈ xs, x.remark = n ∧ x.id = id := by
  induction xs generalizing f with
  | nil => exact .inl h
  | cons y xs ih =>
      rcases ih h with hold | ⟨x, hx, hfound⟩
      · have hold : Function.update f y.remark (some y.id) n = some id := hold
        by_cases hn : n = y.remark
        · rw [hn, Function.update_self] at hold
          exact .inr ⟨y, List.mem_cons_self, hn.symm, Option.some.inj hold⟩
        · rw [Function.update_of_ne hn] at hold
          exact .inl hold
      · exact .inr ⟨x, List.mem_cons_of_mem y hx, hfound⟩

/-- An ID that the play knows is that of no other inbound. -/
def Sound (p : Panel) (f : String → Option Nat) : Prop :=
  ∀ n id, f n = some id → id < p.nextId ∧ ∀ x ∈ p.inbounds, x.id = id → x.remark = n

theorem eq_of_id_eq {p : Panel} {y : XuiInbound} (hx : x ∈ p.inbounds) (hy : y ∈ p.inbounds)
    (h : x.id = y.id) : x = y := by
  have hnodup : (p.inbounds.map XuiInbound.id).Nodup :=
    List.pairwise_map.mpr (p.sorted.imp Nat.ne_of_lt)
  exact List.inj_on_of_nodup_map hnodup hx hy h

theorem Sound.factsOf {p : Panel} (h : Sound p f) : Sound p (factsOf f p.inbounds) := by
  intro n id hid
  rcases factsOf_cases hid with hold | ⟨x, hx, hname, rfl⟩
  · exact h n id hold
  · refine ⟨p.fresh x hx, ?_⟩
    intro y hy heq
    rw [eq_of_id_eq hy hx heq]
    exact hname

end Facts

section Tasks

variable {α : Type} {P : World → Prop} {Q : α → World → Prop} {S : Panel → Prop}

/-- What is said of the panel where the play stops. -/
def Leaves (S : Panel → Prop) (w : World) : Prop :=
  S w.panel

/-- A request leaves the facts of the play as they are, and where it fails, the panel is as
before or as its effect makes it. -/
theorem triple_request {effect : Panel → Except BoxError (α × Panel)}
    (hkeep : ∀ w, P w → S w.panel)
    (hdo : ∀ w, P w → ∀ a p, effect w.panel = .ok (a, p) →
      S p ∧ ∀ fates, Q a { w with panel := p, fates }) :
    Triple P (request effect) Q (Leaves S) := by
  intro w hw
  unfold request
  cases heffect : effect w.panel with
  | error e => cases w.fates.headD .answered <;> exact hkeep w hw
  | ok r =>
      obtain ⟨hS, hQ⟩ := hdo w hw r.1 r.2 heffect
      cases w.fates.headD .answered with
      | answered => exact hQ _
      | refused e => exact hkeep w hw
      | lost e => exact hS

/-- What is said of the panel and of the IDs that the play knows, whatever fates are to come. -/
def On (I : Panel → (String → Option Nat) → Prop) (w : World) : Prop :=
  I w.panel w.inboundId

variable {I J : Panel → (String → Option Nat) → Prop}

theorem triple_aside (hI : ∀ p f, I p f → S p) :
    Triple (On I) aside (fun _ => On I) (Leaves S) := by
  apply triple_request
  · intro w hw
    exact hI _ _ hw
  · rintro w hw a p heffect
    obtain ⟨-, rfl⟩ := Prod.mk.inj (Except.ok.inj heffect)
    exact ⟨hI _ _ hw, fun _ => hw⟩

/-- A request that only changes the panel. -/
theorem triple_change {change : Panel → Panel} (hI : ∀ p f, I p f → S p)
    (hJ : ∀ p f, I p f → J (change p) f) (hS : ∀ p f, J p f → S p) :
    Triple (On I) (request fun p => .ok (PUnit.unit, change p)) (fun _ => On J) (Leaves S) := by
  apply triple_request
  · intro w hw
    exact hI _ _ hw
  · rintro w hw a p heffect
    obtain ⟨-, rfl⟩ := Prod.mk.inj (Except.ok.inj heffect)
    exact ⟨hS _ _ (hJ _ _ hw), fun _ => hJ _ _ hw⟩

theorem triple_lookupId {n : String} (hI : ∀ p f, I p f → S p) :
    Triple (On I) (lookupId n) (fun id => On fun p f => I p f ∧ f n = some id) (Leaves S) := by
  intro w hw
  unfold lookupId
  cases hid : w.inboundId n with
  | none => exact hI _ _ hw
  | some id => exact ⟨hw, hid⟩

/-- After the list of the inbounds was gone through, the facts are those of the list. -/
theorem triple_setFacts (hI : ∀ p f, I p f → S p) :
    Triple (On I) setFacts (fun _ => On fun p f => ∃ f', I p f' ∧ f = factsOf f' p.inbounds)
      (Leaves S) := by
  have hlist : Triple (On I) listInbounds
      (fun xs => On fun p f => I p f ∧ xs = p.inbounds) (Leaves S) := by
    apply triple_request
    · intro w hw
      exact hI _ _ hw
    · rintro w hw a p heffect
      obtain ⟨rfl, rfl⟩ := Prod.mk.inj (Except.ok.inj heffect)
      exact ⟨hI _ _ hw, fun _ => ⟨hw, rfl⟩⟩
  refine Triple.bind hlist fun xs => ?_
  have hloop : Triple (On fun p f => ∃ f', I p f' ∧ xs = p.inbounds ∧ f = factsOf f' [])
      (xs.forM setFact)
      (fun _ => On fun p f => ∃ f', I p f' ∧ xs = p.inbounds ∧ f = factsOf f' xs) (Leaves S) := by
    refine Triple.forM (I := fun done => On fun p f =>
      ∃ f', I p f' ∧ xs = p.inbounds ∧ f = factsOf f' done) ?_
    rintro done x rest - w ⟨f', hw, hxs, hf⟩
    unfold setFact
    by_cases hname : isIdentifier x.remark = true
    · rw [if_pos hname]
      refine ⟨f', hw, hxs, ?_⟩
      show Function.update w.inboundId x.remark (some x.id) = _
      rw [hf, factsOf, factsOf, List.foldl_append]
      rfl
    · rw [if_neg hname]
      exact hI _ _ hw
  refine hloop.weaken ?_ ?_ fun _ h => h
  · rintro w ⟨hw, hxs⟩
    exact ⟨w.inboundId, hw, hxs, rfl⟩
  · rintro _ w ⟨f', hw, hxs, hf⟩
    exact ⟨f', hw, hxs ▸ hf⟩

end Tasks

section Deleting

variable {p q : Panel} {removed done : List Inbound} {inb : Inbound}

/-- The panel after the inbounds with the names were deleted. -/
structure Deleted (p : Panel) (done : List Inbound) (q : Panel) (f : String → Option Nat) :
    Prop where
  sound : Sound q f
  nextId : q.nextId = p.nextId
  inbounds : q.inbounds = remaining done p.inbounds

/-- Where a name is the one of at most one inbound, its ID is that of no other. -/
theorem id_iff {f : String → Option Nat} {n : String} {id : Nat} (hsound : Sound q f)
    (hsingle : Single n q.inbounds) (hid : factsOf f q.inbounds n = some id) :
    ∀ x ∈ q.inbounds, x.id = id ↔ x.remark = n := by
  intro x hx
  constructor
  · exact (hsound.factsOf n id hid).2 x hx
  · rintro rfl
    obtain ⟨before, after, hsplit⟩ := List.append_of_mem hx
    have hnone : ∀ y ∈ after, y.remark ≠ x.remark := by
      intro y hy hname
      have hy' : y ∈ q.inbounds := by
        rw [hsplit]
        exact List.mem_append_right _ (List.mem_cons_of_mem x hy)
      have heq := hsingle y hy' x hx hname rfl
      have hsorted := q.sorted
      rw [hsplit, List.pairwise_append, List.pairwise_cons] at hsorted
      have hlt := hsorted.2.1.1 y hy
      rw [heq] at hlt
      exact Nat.lt_irrefl _ hlt
    rw [hsplit, factsOf_last hnone] at hid
    exact Option.some.inj hid

theorem Sound.del {f : String → Option Nat} (h : Sound q f) (id : Nat) : Sound (q.del id) f := by
  intro n i hi
  obtain ⟨hlt, hname⟩ := h n i hi
  exact ⟨hlt, fun x hx => hname x (List.mem_of_mem_filter hx)⟩

/-- Deleting one more inbound. -/
theorem Deleted.del {f : String → Option Nat} {id : Nat} (h : Deleted p done q f)
    (hsingle : Single inb.name p.inbounds) (hid : factsOf f q.inbounds inb.name = some id) :
    Deleted p (done ++ [inb]) (q.del id) (factsOf f q.inbounds) where
  sound := h.sound.factsOf.del id
  nextId := h.nextId
  inbounds := by
    have hsingle' : Single inb.name q.inbounds := by
      rw [h.inbounds]
      exact hsingle.remaining
    have hiff := id_iff h.sound hsingle' hid
    rw [remaining_append, remaining_singleton, ← h.inbounds]
    apply List.filter_congr
    intro x hx
    show (x.id != id) = (x.remark != inb.name)
    rw [Bool.eq_iff_iff, bne_iff_ne, bne_iff_ne]
    exact not_congr (hiff x hx)

theorem delInboundSubtasks_triple (hmem : done ++ [inb] <+: removed)
    (hsingle : Single inb.name p.inbounds) :
    Triple (On (Deleted p done)) (delInboundSubtasks inb) (fun _ => On (Deleted p (done ++ [inb])))
      (Leaves (Deleting removed p)) := by
  have hdone : done <+: removed := (List.prefix_append done [inb]).trans hmem
  have hbefore : ∀ q f, Deleted p done q f → Deleting removed p q :=
    fun q f h => ⟨done, hdone, h.inbounds⟩
  have hafter : ∀ q f, Deleted p (done ++ [inb]) q f → Deleting removed p q :=
    fun q f h => ⟨done ++ [inb], hmem, h.inbounds⟩
  refine Triple.bind (triple_setFacts hbefore) fun _ => ?_
  refine Triple.bind (triple_lookupId ?_) fun id => ?_
  · rintro q f ⟨f', h, rfl⟩
    exact hbefore q f' h
  refine Triple.bind (triple_change ?_ ?_ hafter) fun _ => triple_aside hafter
  · rintro q f ⟨⟨f', h, rfl⟩, -⟩
    exact hbefore q f' h
  · rintro q f ⟨⟨f', h, rfl⟩, hid⟩
    exact h.del hsingle hid

theorem delInbound_triple (hsingle : ∀ n ∈ names removed, Single n p.inbounds) :
    Triple (On (Deleted p [])) (delInbound removed) (fun _ => On (Deleted p removed))
      (Leaves (Deleting removed p)) := by
  refine Triple.bind (Triple.forM (I := fun done => On (Deleted p done)) ?_) fun _ => ?_
  · intro done inb rest hremoved
    apply delInboundSubtasks_triple
    · rw [hremoved]
      exact ⟨rest, by simp⟩
    · apply hsingle
      rw [hremoved]
      exact List.mem_map_of_mem (List.mem_append_right _ List.mem_cons_self)
  · exact triple_aside fun q f h => ⟨removed, List.prefix_refl removed, h.inbounds⟩

end Deleting

section Adding

variable {refuses : Panel → Inbound → Bool} {secrets : Secrets} {p q : Panel}
  {added done rest : List Inbound} {inb : Inbound} {f : String → Option Nat}

/-- Some of the inbounds are added, the first ones first, or all of them and some have their
clients. -/
def Adding (secrets : Secrets) (added : List Inbound) (p q : Panel) : Prop :=
  (∃ done, done <+: added ∧ q.inbounds = p.inbounds ++ entries secrets false p.nextId done) ∨
  ∃ done rest, added = done ++ rest ∧
    q.inbounds = p.inbounds ++ entries secrets true p.nextId done ++
      entries secrets false (p.nextId + done.length) rest

structure Added (secrets : Secrets) (p : Panel) (done : List Inbound) (q : Panel)
    (f : String → Option Nat) : Prop where
  sound : Sound q f
  nextId : q.nextId = p.nextId + done.length
  inbounds : q.inbounds = p.inbounds ++ entries secrets false p.nextId done

/-- The IDs of the added inbounds are known, and some of them have their clients. -/
structure Granted (secrets : Secrets) (p : Panel) (done rest : List Inbound) (q : Panel)
    (f : String → Option Nat) : Prop where
  known : ∀ before inb after, done ++ rest = before ++ inb :: after →
    f inb.name = some (p.nextId + before.length)
  inbounds : q.inbounds = p.inbounds ++ entries secrets true p.nextId done ++
    entries secrets false (p.nextId + done.length) rest

theorem Added.add {subId : String} (h : Added secrets p done q f)
    (hsubId : secrets.motherSubids.lookup inb.name = some subId) :
    Added secrets p (done ++ [inb]) (q.add inb.name inb.port inb.kind [.mother subId]) f where
  sound := by
    intro n id hid
    obtain ⟨hlt, hname⟩ := h.sound n id hid
    refine ⟨Nat.lt_succ_of_lt hlt, ?_⟩
    intro x hx heq
    rcases List.mem_append.mp hx with hx | hx
    · exact hname x hx heq
    · rw [List.mem_singleton.mp hx] at heq
      exact absurd heq.symm (Nat.ne_of_lt hlt)
  nextId := by
    rw [List.length_append, List.length_singleton]
    exact congrArg (· + 1) h.nextId
  inbounds := by
    rw [entries_append, ← List.append_assoc, ← h.inbounds]
    simp [Panel.add, entries, entry, h.nextId, hsubId]

theorem addInboundSubtasks_triple (hmem : done ++ [inb] <+: added) :
    Triple (On (Added secrets p done)) (addInboundSubtasks refuses secrets inb)
      (fun _ => On (Added secrets p (done ++ [inb]))) (Leaves (Adding secrets added p)) := by
  have hdone : done <+: added := (List.prefix_append done [inb]).trans hmem
  have hbefore : ∀ q f, Added secrets p done q f → Adding secrets added p q :=
    fun q f h => .inl ⟨done, hdone, h.inbounds⟩
  have hafter : ∀ q f, Added secrets p (done ++ [inb]) q f → Adding secrets added p q :=
    fun q f h => .inl ⟨done ++ [inb], hmem, h.inbounds⟩
  unfold addInboundSubtasks
  cases hsubId : secrets.motherSubids.lookup inb.name with
  | none => exact fun w hw => hbefore _ _ hw
  | some subId =>
      have hpost : Triple (On (Added secrets p done)) (postInbound refuses subId inb)
          (fun _ => On (Added secrets p (done ++ [inb]))) (Leaves (Adding secrets added p)) := by
        apply triple_request
        · intro w hw
          exact hbefore _ _ hw
        · rintro w hw a q heffect
          split at heffect
          · cases heffect
          · obtain ⟨-, rfl⟩ := Prod.mk.inj (Except.ok.inj heffect)
            have hadded := Added.add hw hsubId
            exact ⟨hafter _ _ hadded, fun _ => hadded⟩
      have hget (id : Nat) : Triple (On (Added secrets p (done ++ [inb])))
          (request fun q => .ok (q.inbounds.find? fun x => x.id == id, q))
          (fun _ => On (Added secrets p (done ++ [inb]))) (Leaves (Adding secrets added p)) := by
        apply triple_request
        · intro w hw
          exact hafter _ _ hw
        · rintro w hw a q heffect
          obtain ⟨-, rfl⟩ := Prod.mk.inj (Except.ok.inj heffect)
          exact ⟨hafter _ _ hw, fun _ => hw⟩
      refine Triple.bind (triple_aside hbefore) fun _ => ?_
      refine Triple.bind hpost fun id => ?_
      refine Triple.bind (triple_aside hafter) fun _ => ?_
      exact Triple.bind (hget id) fun _ => triple_aside hafter

/-- Where the names of the added inbounds differ, the play learns their IDs. -/
theorem Added.granted (h : Added secrets p added q f) (hnodup : (names added).Nodup) :
    Granted secrets p [] added q (factsOf f q.inbounds) where
  known := by
    intro before inb after hsplit
    rw [List.nil_append] at hsplit
    have hafter : inb.name ∉ names after := by
      rw [hsplit, names, List.map_append, List.map_cons, List.nodup_append, List.nodup_cons]
        at hnodup
      exact hnodup.2.1.1
    have hlist : q.inbounds = (p.inbounds ++ entries secrets false p.nextId before) ++
        entry secrets false (p.nextId + before.length) inb ::
          entries secrets false (p.nextId + before.length + 1) after := by
      rw [h.inbounds, hsplit, entries_append, entries, List.append_assoc]
    rw [hlist]
    refine factsOf_last (x := entry secrets false (p.nextId + before.length) inb) ?_
    intro y hy hname
    have hmem := (mem_entries hy).2.2
    rw [hname] at hmem
    exact hafter hmem
  inbounds := by
    rw [h.inbounds]
    simp [entries]

theorem Granted.grant {id : Nat} (h : Granted secrets p done (inb :: rest) q f)
    (hid : f inb.name = some id) :
    Granted secrets p (done ++ [inb]) rest (q.addClients id (clientGenerator inb)) f where
  known := by
    intro before x after hsplit
    rw [List.append_assoc, List.singleton_append] at hsplit
    exact h.known before x after hsplit
  inbounds := by
    have heq := h.known done inb rest rfl
    rw [hid] at heq
    obtain rfl := Option.some.inj heq
    show q.inbounds.map (Panel.grant (p.nextId + done.length) (clientGenerator inb)) = _
    rw [h.inbounds]
    exact map_grant_entry p.fresh

theorem Granted.adding (hadded : added = done ++ rest) (h : Granted secrets p done rest q f) :
    Adding secrets added p q :=
  .inr ⟨done, rest, hadded, h.inbounds⟩

theorem addClientSubtasks_triple (hadded : added = done ++ inb :: rest) :
    Triple (On (Granted secrets p done (inb :: rest))) (addClientSubtasks inb)
      (fun _ => On (Granted secrets p (done ++ [inb]) rest))
      (Leaves (Adding secrets added p)) := by
  have hadded' : added = (done ++ [inb]) ++ rest := by
    rw [hadded, List.append_assoc, List.singleton_append]
  have hbefore : ∀ id q f, Granted secrets p done (inb :: rest) q f ∧ f inb.name = some id →
      Adding secrets added p q := fun _ q f h => h.1.adding hadded
  have hafter : ∀ q f, Granted secrets p (done ++ [inb]) rest q f → Adding secrets added p q :=
    fun q f h => h.adding hadded'
  refine Triple.bind (triple_lookupId fun q f h => h.adding hadded) fun id => ?_
  refine Triple.bind (triple_aside (hbefore id)) fun _ => ?_
  refine Triple.bind (triple_change (hbefore id) ?_ hafter) fun _ => triple_aside hafter
  intro q f h
  exact h.1.grant h.2

theorem ensurePresent_triple {I : Panel → (String → Option Nat) → Prop} {S : Panel → Prop}
    (hI : ∀ p f, I p f → S p) :
    Triple (On I) (ensurePresent inb) (fun _ => On I) (Leaves S) := by
  intro w hw
  unfold ensurePresent
  cases w.inboundNames.contains inb.name with
  | true => exact hw
  | false => exact hI _ _ hw

theorem addClient_triple (hnodup : (names added).Nodup) :
    Triple (On (Added secrets p added)) (addClient added)
      (fun _ => On (Granted secrets p added [])) (Leaves (Adding secrets added p)) := by
  have hbefore : ∀ q f, Granted secrets p [] added q f → Adding secrets added p q :=
    fun q f h => h.adding rfl
  have hfacts : Triple (On (Added secrets p added)) setFacts
      (fun _ => On (Granted secrets p [] added)) (Leaves (Adding secrets added p)) := by
    refine (triple_setFacts ?_).weaken (fun _ h => h) ?_ (fun _ h => h)
    · intro q f h
      exact .inl ⟨added, List.prefix_refl added, h.inbounds⟩
    · rintro _ w ⟨f', h, hf⟩
      show Granted secrets p [] added w.panel w.inboundId
      rw [hf]
      exact h.granted hnodup
  refine Triple.bind hfacts fun _ => ?_
  refine Triple.bind (Triple.forM_keep fun inb _ => ensurePresent_triple hbefore) fun _ => ?_
  refine Triple.bind (triple_aside hbefore) fun _ => ?_
  have hloop : Triple (On (Granted secrets p [] added)) (added.forM addClientSubtasks)
      (fun _ w => ∀ rest, added = added ++ rest → On (Granted secrets p added rest) w)
      (Leaves (Adding secrets added p)) := by
    refine (Triple.forM (I := fun done w =>
      ∀ rest, added = done ++ rest → On (Granted secrets p done rest) w) ?_).weaken ?_
      (fun _ _ h => h) fun _ h => h
    · intro done inb rest hadded
      refine (addClientSubtasks_triple hadded).weaken (fun w h => h _ hadded) ?_ (fun _ h => h)
      rintro _ w h rest' hrest'
      have hcancel : rest = rest' := by
        rw [hadded, List.append_assoc, List.singleton_append] at hrest'
        exact List.tail_eq_of_cons_eq (List.append_cancel_left hrest')
      rw [← hcancel]
      exact h
    · rintro w h rest rfl
      exact h
  exact hloop.weaken (fun _ h => h) (fun _ w h => h [] (List.append_nil added).symm) fun _ h => h

/-- A play that adds inbounds keeps the other ones, and where it ends well, each of the added
ones has its clients. -/
theorem addInbound_triple (hnodup : (names added).Nodup) :
    Triple (On (Added secrets p [])) (addInbound refuses secrets added)
      (fun _ => On (Granted secrets p added [])) (Leaves (Adding secrets added p)) := by
  refine Triple.bind (Triple.forM (I := fun done => On (Added secrets p done)) ?_) fun _ => ?_
  · intro done inb rest hadded
    apply addInboundSubtasks_triple
    rw [hadded]
    exact ⟨rest, by simp⟩
  · refine Triple.bind (addClient_triple hnodup) fun _ => triple_aside ?_
    intro q f h
    exact h.adding (List.append_nil added).symm

end Adding

section Stages

variable {refuses : Panel → Inbound → Bool} {run : AnsibleRun} {p : Panel}
  {removed added : List Inbound} {secrets : Secrets}

/-- What a run that deletes and adds inbounds may leave of a panel. -/
def Stage (secrets : Secrets) (removed added : List Inbound) (p q : Panel) : Prop :=
  Deleting removed p q ∨
  ∃ r : Panel, r.nextId = p.nextId ∧ r.inbounds = remaining removed p.inbounds ∧
    Adding secrets added r q

/-- A run whose actions delete some inbounds and then add others. -/
structure Plan (run : AnsibleRun) (removed added : List Inbound) : Prop where
  data : ∃ domain, run.rebaseData = some
    { addedInbounds := added, removedInbounds := removed, rebaseDomain := domain }
  sorted : run.actions.Pairwise fun a b => a.id ≤ b.id ∧ a ≠ b
  del : .DelInbound ∈ run.actions ↔ removed ≠ []
  add : .AddInbound ∈ run.actions ↔ added ≠ []

/-- What is known of the panel when some of the actions are done. -/
structure Progress (secrets : Secrets) (removed added : List Inbound) (p : Panel)
    (done : List AnsibleAction) (q : Panel) (f : String → Option Nat) : Prop where
  before : .AddInbound ∉ done → Deleted p (if .DelInbound ∈ done then removed else []) q f
  after : .AddInbound ∈ done →
    q.inbounds = remaining removed p.inbounds ++ entries secrets true p.nextId added

theorem task_aside {a : AnsibleAction} (hdel : a ≠ .DelInbound) (hadd : a ≠ .AddInbound) :
    task refuses run a = aside := by
  cases a with
  | DelInbound => exact absurd rfl hdel
  | AddInbound => exact absurd rfl hadd
  | _ => rfl

theorem Plan.del_before (h : Plan run removed added) {done rest : List AnsibleAction}
    (hactions : run.actions = done ++ .AddInbound :: rest) (hremoved : removed ≠ []) :
    .DelInbound ∈ done := by
  have hmem := h.del.mpr hremoved
  have hsorted := h.sorted
  rw [hactions] at hmem hsorted
  rw [List.pairwise_append, List.pairwise_cons] at hsorted
  rcases List.mem_append.mp hmem with hmem | hmem
  · exact hmem
  · rcases List.mem_cons.mp hmem with heq | hmem
    · cases heq
    · have hle := (hsorted.2.1.1 _ hmem).1
      exact absurd hle (by decide)

theorem Plan.notMem_done (h : Plan run removed added) {a b : AnsibleAction}
    {done rest : List AnsibleAction} (hactions : run.actions = done ++ a :: rest)
    (hlt : a.id < b.id ∨ a = b) : b ∉ done := by
  intro hmem
  have hsorted := h.sorted
  rw [hactions, List.pairwise_append] at hsorted
  obtain ⟨hle, hne⟩ := hsorted.2.2 b hmem a List.mem_cons_self
  rcases hlt with hlt | rfl
  · omega
  · exact hne rfl

theorem Deleting.stage {q : Panel} (h : Deleting removed p q) : Stage secrets removed added p q :=
  .inl h

theorem Progress.stage {done : List AnsibleAction} {q : Panel} {f : String → Option Nat}
    (h : Progress secrets removed added p done q f) : Stage secrets removed added p q := by
  by_cases hadd : AnsibleAction.AddInbound ∈ done
  · let r : Panel :=
      { inbounds := remaining removed p.inbounds
        nextId := p.nextId
        sorted := Panel.sorted_filter _
        fresh := Panel.fresh_filter _ }
    refine .inr ⟨r, rfl, rfl, .inr ⟨added, [], (List.append_nil added).symm, ?_⟩⟩
    rw [h.after hadd]
    exact (List.append_nil _).symm
  · refine .inl ⟨_, ?_, (h.before hadd).inbounds⟩
    split
    · exact List.prefix_refl removed
    · exact List.nil_prefix

/-- The inbounds are added once all those to be deleted are. -/
theorem addInbound_stage (hnodup : (names added).Nodup) :
    Triple (On (Deleted p removed)) (addInbound refuses secrets added)
      (fun _ => On fun q _ =>
        q.inbounds = remaining removed p.inbounds ++ entries secrets true p.nextId added)
      (Leaves (Stage secrets removed added p)) := by
  intro w hw
  have hadded : Triple (On (Added secrets w.panel [])) (addInbound refuses secrets added)
      (fun _ => On fun q _ =>
        q.inbounds = remaining removed p.inbounds ++ entries secrets true p.nextId added)
      (Leaves (Stage secrets removed added p)) := by
    refine (addInbound_triple hnodup).weaken (fun _ h => h) ?_ ?_
    · intro _ w' h
      show w'.panel.inbounds = _
      rw [h.inbounds, hw.inbounds, hw.nextId]
      exact List.append_nil _
    · intro w' h
      exact .inr ⟨w.panel, hw.nextId, hw.inbounds, h⟩
  exact hadded w ⟨hw.sound, rfl, (List.append_nil _).symm⟩

theorem task_triple (h : Plan run removed added)
    (hsingle : ∀ n ∈ names removed, Single n p.inbounds) (hnodup : (names added).Nodup)
    {a : AnsibleAction} {done rest : List AnsibleAction}
    (hactions : run.actions = done ++ a :: rest) :
    Triple (On (Progress run.server.secrets removed added p done)) (task refuses run a)
      (fun _ => On (Progress run.server.secrets removed added p (done ++ [a])))
      (Leaves (Stage run.server.secrets removed added p)) := by
  obtain ⟨domain, hdata⟩ := h.data
  by_cases hdel : a = .DelInbound
  · subst hdel
    have hadd : AnsibleAction.AddInbound ∉ done := h.notMem_done hactions (.inl (by decide))
    have hnew : AnsibleAction.DelInbound ∉ done := h.notMem_done hactions (.inr rfl)
    have htask : task refuses run .DelInbound = delInbound removed := by
      simp only [task, hdata]
    rw [htask]
    refine (delInbound_triple hsingle).weaken ?_ ?_ fun w hw => Deleting.stage hw
    · intro w hw
      have hbefore := hw.before hadd
      rw [if_neg hnew] at hbefore
      exact hbefore
    · intro _ w hw
      constructor
      · intro _
        rw [if_pos (List.mem_append_right _ List.mem_cons_self)]
        exact hw
      · intro hmem
        simp [hadd] at hmem
  · by_cases hadd : a = .AddInbound
    · subst hadd
      have hnew : AnsibleAction.AddInbound ∉ done := h.notMem_done hactions (.inr rfl)
      have htask : task refuses run .AddInbound = addInbound refuses run.server.secrets added := by
        simp only [task, hdata]
      rw [htask]
      refine (addInbound_stage hnodup).weaken ?_ ?_ fun _ hw => hw
      · intro w hw
        have hbefore := hw.before hnew
        by_cases hremoved : removed = []
        · rw [hremoved, ite_self] at hbefore
          rw [hremoved]
          exact hbefore
        · rw [if_pos (h.del_before hactions hremoved)] at hbefore
          exact hbefore
      · intro _ w hw
        exact ⟨fun hmem => absurd (List.mem_append_right _ List.mem_cons_self) hmem, fun _ => hw⟩
    · rw [task_aside hdel hadd]
      refine (triple_aside fun q f hw => hw.stage).weaken (fun _ hw => hw) ?_ fun _ hw => hw
      intro _ w hw
      constructor
      · intro hmem
        have hbefore := hw.before fun hmem' => hmem (List.mem_append_left _ hmem')
        simpa [Ne.symm hdel] using hbefore
      · intro hmem
        rcases List.mem_append.mp hmem with hmem | hmem
        · exact hw.after hmem
        · exact absurd (List.mem_singleton.mp hmem).symm hadd

variable (refuses) in
/-- A run that ends well deletes and adds the inbounds of its plan, and one that stops has
done a part of it. -/
theorem masterPlaybook_triple (h : Plan run removed added)
    (hsingle : ∀ n ∈ names removed, Single n p.inbounds) (hnodup : (names added).Nodup) :
    Triple (fun w => ∃ fates, w = start p fates) (masterPlaybook refuses run)
      (fun _ w => w.panel.inbounds = remaining removed p.inbounds ++
        entries run.server.secrets true p.nextId added)
      (Leaves (Stage run.server.secrets removed added p)) := by
  refine (Triple.forM (I := fun done => On (Progress run.server.secrets removed added p done))
    fun done a rest hactions => task_triple h hsingle hnodup hactions).weaken ?_ ?_ fun _ hw => hw
  · rintro w ⟨fates, rfl⟩
    constructor
    · intro _
      refine ⟨fun n id hid => (Option.some_ne_none id hid.symm).elim, rfl, ?_⟩
      exact remaining_nil.symm
    · intro hmem
      cases hmem
  · intro _ w hw
    by_cases hadd : added = []
    · have hmem : AnsibleAction.AddInbound ∉ run.actions := fun hmem => h.add.mp hmem hadd
      have hbefore := (hw.before hmem).inbounds
      have hremoved :
          (if AnsibleAction.DelInbound ∈ run.actions then removed else []) = removed := by
        split
        · rfl
        · rename_i hdel
          exact (not_not.mp (mt h.del.mpr hdel)).symm
      rw [hremoved] at hbefore
      rw [hbefore, hadd]
      exact (List.append_nil _).symm
    · exact hw.after (h.add.mpr hadd)

end Stages

end Xcplane.PanelInbounds
