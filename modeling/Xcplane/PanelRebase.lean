import Xcplane.PanelRuns
import Xcplane.Specimen

/-!
A Rebase of a server and its panel: a run that ends well takes the inbounds of the panel from
the old declaration to the new one, no run touches another inbound, and none can be repeated once
it has changed the panel.
-/

namespace Xcplane.PanelInbounds

open Xcplane.Types
open Xcplane.Lib
open Xcplane.RebaseDiff
open Xcplane.Deploy
open Xcplane.RebasePlan
open Xcplane.RemoteSide
open Xcplane.CloudflareAccount (Fate)

section Named

variable {secrets : Secrets} {users : Bool} {m : Nat} {n : String} {inb : Inbound}
  {l removed : List Inbound} {xs ys : List XuiInbound}

def named (n : String) (xs : List XuiInbound) : List XuiInbound :=
  xs.filter fun x => x.remark == n

@[simp]
theorem named_append : named n (xs ++ ys) = named n xs ++ named n ys :=
  List.filter_append ..

theorem named_eq_nil (h : ∀ x ∈ xs, x.remark ≠ n) : named n xs = [] := by
  apply List.filter_eq_nil_iff.mpr
  intro x hx
  simpa using h x hx

theorem named_remaining_of_mem (h : n ∈ names removed) : named n (remaining removed xs) = [] := by
  apply named_eq_nil
  rintro x hx rfl
  exact (mem_remaining.mp hx).2 h

theorem named_remaining_of_notMem (h : n ∉ names removed) :
    named n (remaining removed xs) = named n xs := by
  rw [named, remaining, List.filter_filter]
  apply List.filter_congr
  intro x _
  by_cases hx : x.remark = n
  · simp [hx, h]
  · simp [hx]

theorem named_entries_of_notMem (h : n ∉ names l) : named n (entries secrets users m l) = [] := by
  apply named_eq_nil
  rintro x hx rfl
  exact h (mem_entries hx).2.2

variable (secrets users m) in
/-- Where the names differ, each inbound has one entry. -/
theorem named_entries (hnodup : (names l).Nodup) (hinb : inb ∈ l) :
    ∃ id, m ≤ id ∧ named inb.name (entries secrets users m l) = [entry secrets users id inb] := by
  obtain ⟨before, after, rfl⟩ := List.append_of_mem hinb
  rw [names, List.map_append, List.map_cons, List.nodup_append, List.nodup_cons] at hnodup
  obtain ⟨-, ⟨hafter, -⟩, hbefore⟩ := hnodup
  refine ⟨m + before.length, Nat.le_add_right .., ?_⟩
  rw [entries_append, entries, named_append,
    named_entries_of_notMem fun hmem => hbefore _ hmem _ List.mem_cons_self rfl, List.nil_append,
    named, List.filter_cons_of_pos (by simp [entry])]
  exact congrArg (List.cons _) (named_entries_of_notMem hafter)

theorem single_of_map {α : Type} {f : XuiInbound → α} {o : Option α}
    (h : (named n xs).map f = o.toList) : Single n xs := by
  intro y hy z hz hyn hzn
  have hmem : ∀ {y}, y ∈ xs → y.remark = n → y ∈ named n xs := by
    intro y hy hyn
    exact List.mem_filter.mpr ⟨hy, by simpa using hyn⟩
  have hy' := hmem hy hyn
  have hz' := hmem hz hzn
  cases hnamed : named n xs with
  | nil =>
      rw [hnamed] at hy'
      cases hy'
  | cons a l =>
      have hl : l = [] := by
        have hlength := congrArg List.length h
        rw [hnamed, List.map_cons, List.length_cons, List.length_map] at hlength
        apply List.eq_nil_of_length_eq_zero
        cases o with
        | none => cases hlength
        | some x => exact Nat.succ.inj hlength
      rw [hnamed, hl, List.mem_singleton] at hy' hz'
      rw [hy', hz']

end Named

section Comparison

variable {F : Forms} {opts : RebaseOpts} {ord : InboundOrder} {curr new o m : KetServer}
  {data : RebaseData} {actions : List AnsibleAction}

/-- What a comparison records of the inbounds, each name once. -/
structure Recorded (curr new : KetServer) (data : RebaseData) : Prop where
  added : (names data.addedInbounds).Nodup
  mem_added : ∀ inb, inb ∈ data.addedInbounds ↔
    firstInbound curr inb.name = none ∧ firstInbound new inb.name = some inb
  mem_removed : ∀ n, n ∈ names data.removedInbounds ↔
    firstInbound curr n ≠ none ∧ firstInbound new n = none

theorem names_filterMap_addedAt (ns : List String) :
    names (ns.filterMap (addedAt curr new)) = ns.filter fun n => (addedAt curr new n).isSome := by
  induction ns with
  | nil => rfl
  | cons n ns ih =>
      cases hn : addedAt curr new n with
      | none =>
          rw [List.filterMap_cons_none hn, List.filter_cons_of_neg (by simp [hn])]
          exact ih
      | some inb =>
          rw [List.filterMap_cons_some hn, List.filter_cons_of_pos (by simp [hn]), names,
            List.map_cons, addedAt_name hn]
          exact congrArg (List.cons n) ih

theorem compareServer_recorded (h : compareServer F opts ord curr new = .ok data) :
    Recorded curr new data := by
  have hcompared := compareServer_compared h
  obtain ⟨d, hd, h⟩ := bind_eq_ok_iff.mp h
  obtain ⟨domain, -, h⟩ := bind_eq_ok_iff.mp h
  cases h
  obtain ⟨rfl, -⟩ := diffInbounds_ok hd
  have henum := ord.enumerates curr new
  refine ⟨?_, ?_, hcompared.removed⟩
  · show (names (_ ++ _)).Nodup
    rw [List.nil_append, names_filterMap_addedAt]
    exact henum.nodup.filter _
  · intro inb
    show inb ∈ _ ++ _ ↔ _
    rw [List.nil_append, List.mem_filterMap]
    constructor
    · rintro ⟨n, -, hn⟩
      rw [addedAt_name hn]
      exact addedAt_eq_some_iff.mp hn
    · rintro ⟨hcurr, hnew⟩
      refine ⟨inb.name, (henum.mem_iff _).mpr (.inr ?_), addedAt_eq_some_iff.mpr ⟨hcurr, hnew⟩⟩
      rw [← firstInbound_isSome_iff, hnew]
      rfl

theorem Recorded.disjoint (h : Recorded curr new data) {n : String}
    (hremoved : n ∈ names data.removedInbounds) : n ∉ names data.addedInbounds := by
  intro hadded
  obtain ⟨inb, hinb, rfl⟩ := List.mem_map.mp hadded
  exact ((h.mem_removed _).mp hremoved).1 ((h.mem_added inb).mp hinb).1

theorem mem_planned_inbounds {a : AnsibleAction} (ha : a = .DelInbound ∨ a = .AddInbound)
    (hplan : planActions F o m (some data) = .ok actions) :
    a ∈ actions ↔ a ∈ inboundActions (some data) := by
  obtain ⟨oldState, newState, -, -, rfl⟩ := planActions_eq_ok_iff.mp hplan
  rw [mem_sortUnique]
  have hspec : a ∉ specActions F o m := by
    simp only [specActions, List.mem_append, List.mem_ite_nil_right]
    rcases ha with rfl | rfl
    all_goals simp
  have hproxy : a ∉ proxyActions o m oldState newState := by
    simp only [proxyActions, List.mem_ite_nil_right]
    rcases ha with rfl | rfl
    all_goals simp
  have houtblock : a ∉ outblockActions o m := by
    intro h
    rw [mem_outblockActions h] at ha
    rcases ha with h | h
    all_goals cases h
  simp [hspec, hproxy, houtblock]

theorem planned_plan (hplan : planActions F o m (some data) = .ok actions) :
    Plan { server := m, actions, rebaseData := some data } data.removedInbounds
      data.addedInbounds where
  data := ⟨data.rebaseDomain, rfl⟩
  sorted := by
    obtain ⟨oldState, newState, -, -, rfl⟩ := planActions_eq_ok_iff.mp hplan
    exact sortUnique_pairwise _
  del := by
    rw [mem_planned_inbounds (.inl rfl) hplan]
    simp [inboundActions, List.mem_append, List.mem_ite_nil_left]
  add := by
    rw [mem_planned_inbounds (.inr rfl) hplan]
    simp [inboundActions, List.mem_append, List.mem_ite_nil_left]

end Comparison

section Mirrors

variable {F : Forms} {opts : RebaseOpts} {ord : InboundOrder} {curr new o m : KetServer}
  {data : RebaseData} {actions : List AnsibleAction} {refuses : Panel → Inbound → Bool}
  {p : Panel} {fates : List Fate} {w : World}

/-- Of the names, the panel has exactly the inbounds of the map, each of them once. The inbound
of the supervisor Xray is none of the panel. -/
def Mirrors (ns : List String) (p : Panel) (declared : InboundMap) : Prop :=
  ∀ n ∈ ns, n ≠ SvcKind.superName → (named n p.inbounds).map (fun x => (x.port, x.kind)) =
    ((declared n).map fun inb => (inb.port, inb.kind)).toList

/-- Both declarations have the inbound of the supervisor Xray. -/
structure Supervised (curr new : KetServer) : Prop where
  curr : SvcKind.superName ∈ curr.inboundNames
  new : SvcKind.superName ∈ new.inboundNames

theorem Supervised.ne_of_new (h : Supervised curr new) {n : String}
    (hn : firstInbound new n = none) : n ≠ SvcKind.superName := by
  rintro rfl
  have hsome := firstInbound_isSome_iff.mpr h.new
  rw [hn] at hsome
  cases hsome

theorem Supervised.ne_of_curr (h : Supervised curr new) {n : String}
    (hn : firstInbound curr n = none) : n ≠ SvcKind.superName := by
  rintro rfl
  have hsome := firstInbound_isSome_iff.mpr h.curr
  rw [hn] at hsome
  cases hsome

theorem Mirrors.single (h : Mirrors (ord.names curr new) p (firstInbound curr))
    (hsuper : Supervised curr new) (hdata : Recorded curr new data) :
    ∀ n ∈ names data.removedInbounds, Single n p.inbounds := by
  intro n hn
  obtain ⟨hcurr, hnew⟩ := (hdata.mem_removed n).mp hn
  refine single_of_map (h n (((ord.enumerates curr new).mem_iff n).mpr (.inl ?_))
    (hsuper.ne_of_new hnew))
  rw [← firstInbound_isSome_iff]
  exact Option.isSome_iff_ne_none.mpr hcurr

/-- Where a declaration lacks a name, the panel has no inbound of the name. -/
theorem Mirrors.eq_nil {ns : List String} {declared : InboundMap} {n : String}
    (h : Mirrors ns p declared) (hn : n ∈ ns) (hne : n ≠ SvcKind.superName)
    (hnone : declared n = none) : named n p.inbounds = [] := by
  have hmap := h n hn hne
  rw [hnone] at hmap
  exact List.map_eq_nil_iff.mp hmap

theorem mem_names_of_new {n : String} {inb : Inbound} (h : firstInbound new n = some inb) :
    n ∈ ord.names curr new := by
  rw [(ord.enumerates curr new).mem_iff]
  refine .inr ?_
  rw [← firstInbound_isSome_iff, h]
  rfl

/-- A run that ends well takes the panel from the inbounds of the old declaration to those of the
new one. It keeps what it does not delete, with the clients, and every inbound that it adds has
its generated clients. -/
theorem rebased (hdata : compareServer F opts ord curr new = .ok data)
    (hplan : planActions F o m (some data) = .ok actions)
    (hsuper : Supervised curr new) (hp : Mirrors (ord.names curr new) p (firstInbound curr))
    (hrun : masterPlaybook refuses { server := m, actions, rebaseData := some data }
      (start p fates) = .ok ⟨⟩ w) :
    Mirrors (ord.names curr new) w.panel (firstInbound new) ∧
      w.panel.inbounds = remaining data.removedInbounds p.inbounds ++
        entries m.secrets true p.nextId data.addedInbounds := by
  have hrecorded := compareServer_recorded hdata
  have hkept := (compareServer_compared hdata).kept
  have hw := (masterPlaybook_triple refuses (planned_plan hplan) (hp.single hsuper hrecorded)
    hrecorded.added).ok ⟨fates, rfl⟩ hrun
  refine ⟨?_, hw⟩
  intro n hn hne
  rw [hw, named_append]
  cases hcurr : firstInbound curr n with
  | none =>
      have hremoved : n ∉ names data.removedInbounds :=
        fun hmem => ((hrecorded.mem_removed n).mp hmem).1 hcurr
      rw [named_remaining_of_notMem hremoved, hp.eq_nil hn hne hcurr, List.nil_append]
      cases hnew : firstInbound new n with
      | none =>
          rw [named_entries_of_notMem]
          · rfl
          · intro hmem
            obtain ⟨inb, hinb, rfl⟩ := List.mem_map.mp hmem
            rw [((hrecorded.mem_added inb).mp hinb).2] at hnew
            cases hnew
      | some inb =>
          obtain rfl := firstInbound_name hnew
          obtain ⟨id, -, hentry⟩ := named_entries m.secrets true p.nextId hrecorded.added
            ((hrecorded.mem_added inb).mpr ⟨hcurr, hnew⟩)
          rw [hentry]
          rfl
  | some i =>
      have hadded : n ∉ names data.addedInbounds := by
        intro hmem
        obtain ⟨inb, hinb, rfl⟩ := List.mem_map.mp hmem
        rw [((hrecorded.mem_added inb).mp hinb).1] at hcurr
        cases hcurr
      rw [named_entries_of_notMem hadded, List.append_nil]
      cases hnew : firstInbound new n with
      | none =>
          rw [named_remaining_of_mem]
          · rfl
          · exact (hrecorded.mem_removed n).mpr ⟨by rw [hcurr]; exact Option.some_ne_none i, hnew⟩
      | some j =>
          rw [named_remaining_of_notMem fun hmem => by
            rw [((hrecorded.mem_removed n).mp hmem).2] at hnew
            cases hnew]
          rw [hp n hn hne, hcurr, hkept n i j hcurr hnew]

end Mirrors

section Outcomes

variable {F : Forms} {opts : RebaseOpts} {ord : InboundOrder} {curr new o m : KetServer}
  {data : RebaseData} {actions : List AnsibleAction} {refuses : Panel → Inbound → Bool}
  {secrets : Secrets} {added removed : List Inbound} {p q : Panel} {fates : List Fate}

/-- The inbounds added so far, each of them at most once and with or without its clients. -/
theorem Adding.named (h : Adding secrets added p q) (hnodup : (names added).Nodup) :
    ∃ es, q.inbounds = p.inbounds ++ es ∧ (∀ n, n ∉ names added → named n es = []) ∧
      ∀ inb ∈ added, named inb.name es = [] ∨
        ∃ users id, p.nextId ≤ id ∧ named inb.name es = [entry secrets users id inb] := by
  rcases h with ⟨done, ⟨rest, rfl⟩, hq⟩ | ⟨done, rest, rfl, hq⟩
  · rw [names, List.map_append, List.nodup_append] at hnodup
    refine ⟨_, hq, ?_, ?_⟩
    · intro n hn
      apply named_entries_of_notMem
      intro hmem
      rw [names, List.map_append] at hn
      exact hn (List.mem_append_left _ hmem)
    · intro inb hinb
      rcases List.mem_append.mp hinb with hinb | hinb
      · exact .inr ⟨false, named_entries secrets false p.nextId hnodup.1 hinb⟩
      · refine .inl (named_entries_of_notMem fun hmem => ?_)
        exact hnodup.2.2 _ hmem _ (List.mem_map_of_mem hinb) rfl
  · rw [names, List.map_append, List.nodup_append] at hnodup
    refine ⟨_, hq.trans (List.append_assoc ..), ?_, ?_⟩
    · intro n hn
      rw [names, List.map_append, List.mem_append, not_or] at hn
      rw [named_append, named_entries_of_notMem hn.1, named_entries_of_notMem hn.2]
      rfl
    · intro inb hinb
      refine .inr ?_
      rcases List.mem_append.mp hinb with hinb | hinb
      · obtain ⟨id, hid, hentry⟩ := named_entries secrets true p.nextId hnodup.1 hinb
        refine ⟨true, id, hid, ?_⟩
        rw [named_append, hentry, named_entries_of_notMem, List.append_nil]
        exact fun hmem => hnodup.2.2 _ (List.mem_map_of_mem hinb) _ hmem rfl
      · obtain ⟨id, hid, hentry⟩ :=
          named_entries secrets false (p.nextId + done.length) hnodup.2.1 hinb
        refine ⟨false, id, (Nat.le_add_right ..).trans hid, ?_⟩
        rw [named_append, hentry, named_entries_of_notMem, List.nil_append]
        exact fun hmem => hnodup.2.2 _ hmem _ (List.mem_map_of_mem hinb) rfl

variable (refuses fates) in
/-- However a run ends, the panel is at a stage of its plan. -/
theorem stage_of_run (hrecorded : Recorded curr new data)
    (hplan : planActions F o m (some data) = .ok actions) (hsuper : Supervised curr new)
    (hp : Mirrors (ord.names curr new) p (firstInbound curr)) :
    Stage m.secrets data.removedInbounds data.addedInbounds p
      (panelOf (masterPlaybook refuses { server := m, actions, rebaseData := some data }
        (start p fates))) := by
  have h := masterPlaybook_triple refuses (planned_plan hplan) (hp.single hsuper hrecorded)
    hrecorded.added
  cases hrun : masterPlaybook refuses { server := m, actions, rebaseData := some data }
      (start p fates) with
  | error e w => exact h.error ⟨fates, rfl⟩ hrun
  | ok _ w =>
      have hw := h.ok ⟨fates, rfl⟩ hrun
      let r : Panel :=
        { inbounds := remaining data.removedInbounds p.inbounds
          nextId := p.nextId
          sorted := Panel.sorted_filter _
          fresh := Panel.fresh_filter _ }
      refine .inr ⟨r, rfl, rfl, .inr ⟨_, [], (List.append_nil _).symm, ?_⟩⟩
      show w.panel.inbounds = _
      rw [hw]
      exact (List.append_nil _).symm

/-- However a run ends, the inbounds of a name are those from before, or they were deleted since
only the old declaration has the name, or there is the one that only the new declaration has, and
then all deletions are done. -/
theorem between (hdata : compareServer F opts ord curr new = .ok data)
    (hplan : planActions F o m (some data) = .ok actions)
    (hsuper : Supervised curr new) (hp : Mirrors (ord.names curr new) p (firstInbound curr))
    (hq : panelOf (masterPlaybook refuses { server := m, actions, rebaseData := some data }
      (start p fates)) = q) (n : String) :
    named n q.inbounds = named n p.inbounds ∨
      (firstInbound curr n ≠ none ∧ firstInbound new n = none ∧ named n q.inbounds = []) ∨
      ∃ inb users id, firstInbound curr n = none ∧ firstInbound new n = some inb ∧
        p.nextId ≤ id ∧ named n q.inbounds = [entry m.secrets users id inb] ∧
        ∀ k, firstInbound curr k ≠ none → firstInbound new k = none → named k q.inbounds = [] := by
  have hrecorded := compareServer_recorded hdata
  have hstage := stage_of_run refuses fates hrecorded hplan hsuper hp
  rw [hq] at hstage
  rcases hstage with ⟨done, ⟨rest, hdone⟩, hq⟩ | ⟨r, hnextId, hr, hadding⟩
  · rw [hq]
    by_cases hn : n ∈ names done
    · have hmem : n ∈ names data.removedInbounds := by
        rw [← hdone, names, List.map_append]
        exact List.mem_append_left _ hn
      obtain ⟨hcurr, hnew⟩ := (hrecorded.mem_removed n).mp hmem
      exact .inr (.inl ⟨hcurr, hnew, named_remaining_of_mem hn⟩)
    · exact .inl (named_remaining_of_notMem hn)
  · obtain ⟨es, hq, hothers, hadded⟩ := hadding.named hrecorded.added
    have hgone : ∀ k, k ∈ names data.removedInbounds → named k q.inbounds = [] := by
      intro k hk
      rw [hq, hr, named_append, named_remaining_of_mem hk, hothers k (hrecorded.disjoint hk)]
      rfl
    by_cases hremoved : n ∈ names data.removedInbounds
    · obtain ⟨hcurr, hnew⟩ := (hrecorded.mem_removed n).mp hremoved
      exact .inr (.inl ⟨hcurr, hnew, hgone n hremoved⟩)
    · have hsame : named n q.inbounds = named n p.inbounds ++ named n es := by
        rw [hq, hr, named_append, named_remaining_of_notMem hremoved]
      by_cases hn : n ∈ names data.addedInbounds
      · obtain ⟨inb, hinb, rfl⟩ := List.mem_map.mp hn
        obtain ⟨hcurr, hnew⟩ := (hrecorded.mem_added inb).mp hinb
        rcases hadded inb hinb with hnone | ⟨users, id, hid, hentry⟩
        · rw [hnone, List.append_nil] at hsame
          exact .inl hsame
        · refine .inr (.inr ⟨inb, users, id, hcurr, hnew, hnextId ▸ hid, ?_, ?_⟩)
          · rw [hsame, hp.eq_nil (mem_names_of_new hnew) (hsuper.ne_of_curr hcurr) hcurr,
              hentry]
            rfl
          · intro k hcurr' hnew'
            exact hgone k ((hrecorded.mem_removed k).mpr ⟨hcurr', hnew'⟩)
      · rw [hothers n hn, List.append_nil] at hsame
        exact .inl hsame

end Outcomes

section Repeats

variable {F : Forms} {opts : RebaseOpts} {ord : InboundOrder} {curr new o m : KetServer}
  {data : RebaseData} {actions : List AnsibleAction} {refuses : Panel → Inbound → Bool}
  {secrets : Secrets} {run : AnsibleRun} {added removed : List Inbound} {inb : Inbound}
  {p q : Panel} {fates : List Fate}

/-- Deleting stops at once where the first name is missing. -/
theorem delInbound_stops (hmissing : ∀ x ∈ q.inbounds, x.remark ≠ inb.name) :
    Triple (On fun p f => p = q ∧ f inb.name = none) (delInbound (inb :: removed))
      (fun _ _ => False) (Leaves (· = q)) := by
  have hkeep : ∀ p f, (∃ f', (p = q ∧ f' inb.name = none) ∧ f = factsOf f' p.inbounds) →
      p = q := by
    rintro p f ⟨f', ⟨hpq, -⟩, -⟩
    exact hpq
  have hsubtasks : Triple (On fun p f => p = q ∧ f inb.name = none) (delInboundSubtasks inb)
      (fun _ _ => False) (Leaves (· = q)) := by
    refine Triple.bind (triple_setFacts fun p f h => h.1) fun _ => ?_
    refine Triple.bind (triple_lookupId hkeep) fun id w => ?_
    rintro ⟨⟨f', ⟨hpq, hnone⟩, hf⟩, hid⟩
    rw [hf, hpq, factsOf_of_notMem hmissing, hnone] at hid
    cases hid
  exact Triple.bind_stop (Triple.bind_stop hsubtasks)

/-- Adding stops at once where the port of the first inbound is taken. -/
theorem addInbound_stops (htaken : refuses q inb = true) :
    Triple (On fun p _ => p = q) (addInbound refuses secrets (inb :: added)) (fun _ _ => False)
      (Leaves (· = q)) := by
  have hsubtasks : Triple (On fun p _ => p = q) (addInboundSubtasks refuses secrets inb)
      (fun _ _ => False) (Leaves (· = q)) := by
    unfold addInboundSubtasks
    cases secrets.motherSubids.lookup inb.name with
    | none => exact fun w hw => hw
    | some subId =>
        refine Triple.bind (triple_aside fun _ _ h => h) fun _ => Triple.bind_stop ?_
        apply triple_request
        · intro w hw
          exact hw
        · rintro w hw a p' heffect
          have hw : w.panel = q := hw
          rw [hw, if_pos htaken] at heffect
          cases heffect
  exact Triple.bind_stop (Triple.bind_stop hsubtasks)

/-- Where a run has changed the panel, the first name to delete is missing, or nothing is deleted
and the first inbound to add is there. -/
theorem changed_cases (hstage : Stage secrets removed added p q)
    (hdisjoint : ∀ n ∈ names removed, n ∉ names added) (hchanged : q.inbounds ≠ p.inbounds) :
    (∃ inb rest, removed = inb :: rest ∧ ∀ x ∈ q.inbounds, x.remark ≠ inb.name) ∨
      removed = [] ∧ ∃ inb rest, added = inb :: rest ∧ ∃ x ∈ q.inbounds, x.port = inb.port := by
  rcases hstage with ⟨done, ⟨rest, hdone⟩, hq⟩ | ⟨r, -, hr, hadding⟩
  · cases done with
    | nil => exact absurd (hq.trans remaining_nil) hchanged
    | cons inb done =>
        refine .inl ⟨inb, done ++ rest, hdone.symm, ?_⟩
        intro x hx hname
        rw [hq] at hx
        apply (mem_remaining.mp hx).2
        rw [hname]
        exact List.mem_cons_self
  · cases removed with
    | cons inb rest =>
        refine .inl ⟨inb, rest, rfl, ?_⟩
        have hnotAdded : inb.name ∉ names added := hdisjoint _ List.mem_cons_self
        have hkept : ∀ x ∈ r.inbounds, x.remark ≠ inb.name := by
          intro x hx hname
          rw [hr] at hx
          apply (mem_remaining.mp hx).2
          rw [hname]
          exact List.mem_cons_self
        have hentries : ∀ l, l.Sublist added → ∀ users i, ∀ x ∈ entries secrets users i l,
            x.remark ≠ inb.name := by
          intro l hl users i x hx hname
          apply hnotAdded
          rw [← hname]
          exact (hl.map Inbound.name).subset (mem_entries hx).2.2
        intro x hx
        rcases hadding with ⟨done, hdone, hq⟩ | ⟨done, rest, hadded, hq⟩
        · rw [hq] at hx
          rcases List.mem_append.mp hx with hx | hx
          · exact hkept x hx
          · exact hentries done hdone.sublist _ _ x hx
        · rw [hq] at hx
          rcases List.mem_append.mp hx with hx | hx
          · rcases List.mem_append.mp hx with hx | hx
            · exact hkept x hx
            · exact hentries done (hadded ▸ List.sublist_append_left ..) _ _ x hx
          · exact hentries rest (hadded ▸ List.sublist_append_right ..) _ _ x hx
    | nil =>
        refine .inr ⟨rfl, ?_⟩
        rw [remaining_nil] at hr
        rcases hadding with ⟨done, ⟨rest, hdone⟩, hq⟩ | ⟨done, rest, hadded, hq⟩
        · cases done with
          | nil =>
              rw [hr] at hq
              exact absurd (hq.trans (List.append_nil _)) hchanged
          | cons inb done =>
              refine ⟨inb, done ++ rest, hdone.symm, entry secrets false r.nextId inb, ?_, rfl⟩
              rw [hq]
              exact List.mem_append_right _ List.mem_cons_self
        · cases done with
          | nil =>
              cases rest with
              | nil =>
                  rw [hr] at hq
                  exact absurd (hq.trans (by simp [entries])) hchanged
              | cons inb rest =>
                  refine ⟨inb, rest, hadded, entry secrets false r.nextId inb, ?_, rfl⟩
                  rw [hq]
                  exact List.mem_append_right _ List.mem_cons_self
          | cons inb done =>
              refine ⟨inb, done ++ rest, hadded, entry secrets true r.nextId inb, ?_, rfl⟩
              rw [hq]
              exact List.mem_append_left _ (List.mem_append_right _ List.mem_cons_self)

/-- The actions before the first one that works on the inbounds leave the panel as it is. -/
theorem run_stops {I : Panel → (String → Option Nat) → Prop}
    (hI : ∀ p f, I p f → p = q) (hstart : I q fun _ => none) {a : AnsibleAction}
    {before after : List AnsibleAction} (hactions : run.actions = before ++ a :: after)
    (hbefore : ∀ b ∈ before, b ≠ .DelInbound ∧ b ≠ .AddInbound)
    (hstop : Triple (On I) (task refuses run a) (fun _ _ => False) (Leaves (· = q))) :
    ∃ e w, masterPlaybook refuses run (start q fates) = .error e w ∧ w.panel = q := by
  have htriple : Triple (On I) (masterPlaybook refuses run) (fun _ _ => False)
      (Leaves (· = q)) := by
    unfold masterPlaybook
    rw [hactions]
    refine Triple.forM_stop ?_ hstop
    intro b hb
    rw [task_aside (hbefore b hb).1 (hbefore b hb).2]
    exact triple_aside hI
  exact htriple.fails hstart

end Repeats

section Instances

open Xcplane.Specimen

instance (ns : List String) (p : Panel) (declared : InboundMap) :
    Decidable (Mirrors ns p declared) :=
  inferInstanceAs (Decidable (∀ n ∈ ns, _))

/-- The declaration has another inbound in the place of the one that `alpha` has. -/
def swapped : KetServer :=
  { alpha with
    inbounds := [proxied, Inbound.superInbound]
    secrets := secrets [("proxied", "id2"), ("super", "super")] }

def swappedData : RebaseData where
  addedInbounds := [proxied]
  removedInbounds := [direct]
  rebaseDomain := ⟨none, none, none, none⟩

/-- The panel of `alpha`, where someone has added an inbound by hand. -/
def alphaPanel : Panel :=
  (Panel.empty.add "direct" 8080 .VlessTcpReality [.mother "id1"]).add "mine" 9000 .VlessWsTls []

/-- The panel refuses a port that is taken. -/
def takenPort (p : Panel) (inb : Inbound) : Bool :=
  p.inbounds.any fun x => x.port == inb.port

def swapActions : List AnsibleAction :=
  [.PortsCheck, .XuiAuth, .DelInbound, .AddInbound]

def swap (panel : Panel) (fates : List Fate) : EStateM.Result BoxError World PUnit :=
  masterPlaybook takenPort
    { server := swapped, actions := swapActions, rebaseData := some swappedData }
    (start panel fates)

def ended : EStateM.Result BoxError World PUnit → Bool
  | .ok .. => true
  | .error .. => false

theorem swapped_data :
    compareServer forms { forced := true } inboundOrder alpha swapped = .ok swappedData := by
  decide +kernel

theorem swapped_plan : planActions forms alpha swapped (some swappedData) = .ok swapActions := by
  decide +kernel

theorem swapped_supervised : Supervised alpha swapped where
  curr := by decide
  new := by decide

theorem alphaPanel_mirrors :
    Mirrors (inboundOrder.names alpha swapped) alphaPanel (firstInbound alpha) := by
  decide +kernel

theorem takenPort_of_mem (p : Panel) (inb : Inbound) :
    ∀ x ∈ p.inbounds, x.port = inb.port → takenPort p inb = true := by
  intro x hx hport
  exact List.any_eq_true.mpr ⟨x, hx, by simpa using hport⟩

theorem rebased_swapped :
    Mirrors (inboundOrder.names alpha swapped) (panelOf (swap alphaPanel []))
        (firstInbound swapped) ∧
      (panelOf (swap alphaPanel [])).inbounds = remaining [direct] alphaPanel.inbounds ++
        entries swapped.secrets true 3 [proxied] := by
  have hended : ended (swap alphaPanel []) = true := by decide +kernel
  cases hrun : swap alphaPanel [] with
  | error e w =>
      rw [hrun] at hended
      cases hended
  | ok _ w =>
      exact rebased swapped_data swapped_plan swapped_supervised alphaPanel_mirrors hrun

/-- The request that adds the inbound is lost after it has taken effect. -/
def lostFates : List Fate :=
  List.replicate 7 .answered ++ [.lost "timed out"]

theorem between_lost :
    named "proxied" (panelOf (swap alphaPanel lostFates)).inbounds =
        named "proxied" alphaPanel.inbounds ∨
      (firstInbound alpha "proxied" ≠ none ∧ firstInbound swapped "proxied" = none ∧
        named "proxied" (panelOf (swap alphaPanel lostFates)).inbounds = []) ∨
      ∃ inb users id, firstInbound alpha "proxied" = none ∧
        firstInbound swapped "proxied" = some inb ∧ alphaPanel.nextId ≤ id ∧
        named "proxied" (panelOf (swap alphaPanel lostFates)).inbounds =
          [entry swapped.secrets users id inb] ∧
        ∀ k, firstInbound alpha k ≠ none → firstInbound swapped k = none →
          named k (panelOf (swap alphaPanel lostFates)).inbounds = [] :=
  between swapped_data swapped_plan swapped_supervised alphaPanel_mirrors rfl "proxied"

end Instances

end Xcplane.PanelInbounds
