import Xcplane.CookieOutline

/-!
The runs of the cookie calls: where they are sound, and how a call comes to send the
session that was rejected once more.
-/

namespace Xcplane.CookieSessions

open Xcplane.Lib

section Runs

variable {ι : Type} {existing : Option UInt64} {events : List (ι × Answer)}
  {w : Threads (Shared ι) ι Point}

theorem outline : Outline (xuiGetCallCookie (ι := ι)) Admits Inv At Guarantee where
  keeps i answer w hs h hadmits := by
    obtain ⟨hinv, hown, hguarantee⟩ := kept_call hs h hadmits
    exact ⟨hinv, hown, hguarantee⟩
  stable _ _ _ _ _ hne _ hguarantee h := h.stable hne hguarantee

theorem inv_start : Inv (start (ι := ι) existing).shared where
  one := by
    induction existing with
    | none => exact .inl ⟨rfl, rfl, rfl, rfl⟩
    | some c => exact .inr rfl
  level _ := rfl
  bounded := Nat.le_refl _
  loginOnce := List.nodup_nil
  loginBelow _ hv := nomatch hv
  raisedOnce := List.nodup_nil
  raisedBelow _ hv := nomatch hv
  noted :=
    { newer := fun _ _ _ he => nomatch he
      needed := fun _ _ he => nomatch he }

theorem holds_start : Holds Inv At (start (ι := ι) existing) where
  shared := inv_start
  own _ :=
    { gate := iff_of_false (fun hnone => nomatch hnone) Bool.false_ne_true
      level := fun hcontra => nomatch hcontra
      facts := trivial }

theorem eq_fetchAdd_of_lag {point : Point} (h : lag point ≠ 0) :
    ∃ duty cred, point = .login duty (.fetchAdd cred) := by
  unfold lag at h
  split at h
  · rename_i duty cred
    exact ⟨duty, cred, rfl⟩
  · exact absurd rfl h

/-- Where the counter is behind the sessions, some call is about to raise it. -/
theorem exists_fetchAdd (hw : Holds Inv At w) (hbehind : session w.shared ≠ count w.shared) :
    ∃ j duty, w.own j = .login duty (.fetchAdd 0) := by
  cases hgate : w.shared.loginGate with
  | none => exact absurd (hw.shared.level hgate) hbehind
  | some j =>
      have hat := hw.own j
      have hlevel := hat.level (hat.gate.mp hgate)
      have hlag : lag (w.own j) ≠ 0 := by omega
      obtain ⟨duty, cred, hpoint⟩ := eq_fetchAdd_of_lag hlag
      have hfacts := hat.facts
      rw [hpoint] at hfacts
      have hzero : cred = 0 := hfacts.1
      rw [hzero] at hpoint
      exact ⟨j, duty, hpoint⟩

variable [DecidableEq ι]

theorem holds_run (h : Along step Admits (start existing) events) :
    Holds Inv At (run step (start existing) events) :=
  outline.run holds_start h

theorem countKept_of_later {e : ι × Answer} (hs : Inv w.shared)
    (hlater : Later w.shared (step w e).shared) : CountKept w e := by
  intro cred hcred
  rcases hs.one with ⟨hnone, -⟩ | hvisible
  · rw [hnone] at hcred
    cases hcred
  · have hzero : cred = 0 := Option.some.inj (hcred.symm.trans hvisible)
    rw [hzero]
    exact ⟨hlater.visible hvisible, UInt64.le_iff_toNat_le.mpr hlater.count⟩

theorem sound_of_admits (h : Along step Admits (start existing) events) :
    Sound existing events := by
  have hinv := (holds_run h).shared
  refine ⟨hinv.loginOnce, hinv.raisedOnce, ?_, hinv.noted.newer, hinv.noted.needed⟩
  have hsteps := outline.along holds_start h
  exact along_imp (fun _ _ hstep => countKept_of_later hstep.1 hstep.2.toLater) hsteps

/-- Three steps of a call whose counter has changed since it read it. -/
theorem retried_of_reload {i : ι} {before : UInt64} {rejected : Nat}
    (hpoint : w.own i = .reload before rejected) (hvisible : w.shared.xui = some 0)
    (hne : (w.shared.structs 0).cookieCount ≠ before) :
    Event.retried i rejected (session w.shared) ∈
      (run step w [(i, .accepted), (i, .accepted), (i, .accepted)]).shared.log := by
  have hreload : step w (i, .accepted) =
      { shared := w.shared
        own := Function.update w.own i (.countAfter 0 before rejected) } := by
    simp only [step, advance, hpoint, xuiGetCallCookie, hvisible]
  have hcount : step (step w (i, .accepted)) (i, .accepted) =
      { shared := w.shared
        own := Function.update w.own i (.resend 0 rejected false) } := by
    rw [hreload]
    simp only [step, advance, Function.update_self, xuiGetCallCookie, if_pos hne,
      Function.update_idem]
  show _ ∈ (step (step (step w (i, .accepted)) (i, .accepted)) (i, .accepted)).shared.log
  rw [hcount]
  simp only [step, advance, Function.update_self, xuiGetCallCookie]
  exact List.mem_cons_self

/-- The step of the call that raises the counter. -/
theorem step_fetchAdd {j : ι} {duty : Duty} {answer : Answer}
    (hpoint : w.own j = .login duty (.fetchAdd 0)) : step w (j, answer) =
      { shared := raised j w.shared, own := Function.update w.own j (.login duty (.store 0)) } := by
  simp only [step, advance, hpoint, xuiGetCallCookie, xuiLogin]
  rfl

/-- A call that was rejected before the counter was raised, and reads it thereafter. -/
theorem retried_of_fetchAdd {i j : ι} {duty : Duty} {before : UInt64} {rejected : Nat}
    (hpoint : w.own i = .reload before rejected) (hvisible : w.shared.xui = some 0)
    (hsame : (w.shared.structs 0).cookieCount = before)
    (hholder : w.own j = .login duty (.fetchAdd 0)) :
    Event.retried i rejected (session w.shared) ∈
      (run step w [(j, .accepted), (i, .accepted), (i, .accepted), (i, .accepted)]).shared.log := by
  have hne : i ≠ j := by
    rintro rfl
    rw [hpoint] at hholder
    cases hholder
  have hraise : step w (j, .accepted) =
      { shared := raised j w.shared, own := Function.update w.own j (.login duty (.store 0)) } :=
    step_fetchAdd hholder
  have hwaits : (step w (j, .accepted)).own i = .reload before rejected := by
    rw [hraise]
    exact (Function.update_of_ne hne ..).trans hpoint
  have hchanged : ((step w (j, .accepted)).shared.structs 0).cookieCount ≠ before := by
    rw [hraise]
    show (w.shared.structs 0).cookieCount + 1 ≠ before
    rw [hsame]
    simp
  have hvisible' : (step w (j, .accepted)).shared.xui = some 0 := by
    rw [hraise]
    exact hvisible
  have hsession : session (step w (j, .accepted)).shared = session w.shared := by
    rw [hraise]
    exact session_raised
  rw [← hsession]
  exact retried_of_reload hwaits hvisible' hchanged

/-- After the rejection of the present session, which is newer than the counter showed
to the call, it can happen that the call sends the same session once more. -/
theorem exists_same_retry {i : ι} {before : UInt64} {sent : Nat} (hw : Holds Inv At w)
    (hpoint : w.own i = .sent before sent) (hbefore : before.toNat < sent)
    (hsent : session w.shared = sent) :
    ∃ later, Event.retried i sent sent ∈
      (run step (step w (i, .rejected)) later).shared.log := by
  subst hsent
  have hfacts := (hw.own i).facts
  rw [hpoint] at hfacts
  have hvisible : w.shared.xui = some 0 := hfacts.1
  have hstep : step w (i, .rejected) =
      { shared := record (.rejected i (session w.shared)) w.shared
        own := Function.update w.own i (.reload before (session w.shared)) } := by
    simp only [step, advance, hpoint, xuiGetCallCookie]
  rw [hstep]
  by_cases hcount : (w.shared.structs 0).cookieCount = before
  · -- the login of the session has still to raise the counter, and it does so first
    have hbehind : session w.shared ≠ count w.shared := by
      rw [count, hcount]
      omega
    obtain ⟨j, duty, hholder⟩ := exists_fetchAdd hw hbehind
    have hne : j ≠ i := by
      rintro rfl
      rw [hpoint] at hholder
      cases hholder
    refine ⟨[(j, .accepted), (i, .accepted), (i, .accepted), (i, .accepted)], ?_⟩
    exact retried_of_fetchAdd (Function.update_self ..) hvisible hcount
      ((Function.update_of_ne hne ..).trans hholder)
  · exact ⟨[(i, .accepted), (i, .accepted), (i, .accepted)],
      retried_of_reload (Function.update_self ..) hvisible hcount⟩

theorem toNat_add_one_of_last {c : UInt64} (h : ¬ c.toNat + 1 < 2 ^ 64) : (c + 1).toNat = 0 := by
  have hbound := c.toNat_lt
  have hlast : c.toNat = 2 ^ 64 - 1 := by omega
  rw [UInt64.toNat_add, hlast]
  rfl

/-- From a step that does not meet the condition the run can go on to a state in which
the calls are not sound. -/
theorem exists_unsound {e : ι × Answer} (h : Along step Admits (start existing) events)
    (he : ¬ Admits (run step (start existing) events) e) :
    ∃ later, ¬ Sound existing (events ++ e :: later) := by
  have hw := holds_run h
  obtain ⟨i, answer⟩ := e
  have hfacts := (hw.own i).facts
  rw [Admits] at he
  unfold AdmitsAt at he
  split at he
  · rename_i before sent hpoint
    dsimp only at hpoint
    rw [hpoint] at hfacts
    simp only [Classical.not_imp, not_forall, not_or, Nat.not_le, Nat.not_lt] at he
    obtain ⟨rfl, cred, hcred, hbefore, hsession⟩ := he
    have hzero : cred = 0 := Option.some.inj (hcred.symm.trans hfacts.1)
    rw [hzero] at hsession
    have hsent := Nat.le_antisymm hsession hfacts.2.2.2
    obtain ⟨later, hlater⟩ := exists_same_retry hw hpoint hbefore hsent
    refine ⟨later, ?_⟩
    intro hsound
    have hnewer := hsound.newer i sent sent
    rw [run, List.foldl_append] at hnewer
    exact Nat.lt_irrefl _ (hnewer hlater)
  · rename_i duty cred hpoint
    dsimp only at hpoint
    rw [hpoint] at hfacts
    obtain ⟨rfl, hvisible, -⟩ := hfacts
    refine ⟨[], ?_⟩
    intro hsound
    obtain ⟨-, hkept, -⟩ := along_append_iff.mp hsound.kept
    have hle := (hkept 0 hvisible).2
    have hwrapped : ((step (run step (start existing) events) (i, answer)).shared.structs
        0).cookieCount.toNat = 0 := by
      rw [step_fetchAdd hpoint]
      exact toNat_add_one_of_last he
    rw [UInt64.le_iff_toNat_le, hwrapped] at hle
    omega
  · exact absurd trivial he

/-- While every step meets the condition the calls are sound, and from the first one that
does not they need not stay so. -/
theorem calls_sound (h : Along step Admits (start existing) events) :
    Sound existing events ∧ ∀ e, ¬ Admits (run step (start existing) events) e →
      ∃ later, ¬ Sound existing (events ++ e :: later) :=
  ⟨sound_of_admits h, fun _ he => exists_unsound h he⟩

end Runs

section Instances

/-- The first call creates the struct; the second one finds it before the login ends, is
rejected without a session and comes to the gate when the login is done. -/
def crossed : List (Bool × Answer) :=
  [List.replicate 5 (false, .accepted), List.replicate 3 (true, .accepted),
    [(true, .rejected), (true, .accepted)], List.replicate 8 (false, .accepted),
    List.replicate 7 (true, .accepted), List.replicate 3 (false, .accepted)].flatten

theorem calls_sound_crossed :
    Along step Admits (start none) crossed ∧
      Event.retried true 0 1 ∈ (run step (start none) crossed).shared.log ∧
      Sound none crossed :=
  ⟨by decide +kernel, by decide +kernel, (calls_sound (by decide +kernel)).1⟩

/-- The second call logs in after the first one has read the counter. The first one is
rejected with the new session, and its retry sends the same session. -/
def overtaken : List (Bool × Answer) :=
  [List.replicate 2 (false, .accepted), List.replicate 3 (true, .accepted),
    [(true, .rejected)], List.replicate 14 (true, .accepted),
    [(false, .accepted), (false, .rejected)], List.replicate 3 (false, .accepted)].flatten

theorem retried_overtaken : ¬ Sound (some 1) overtaken := by
  intro hsound
  have hretried : Event.retried false 2 2 ∈ (run step (start (some 1)) overtaken).shared.log := by
    decide +kernel
  have hnewer := hsound.newer false 2 2 hretried
  omega

end Instances

end Xcplane.CookieSessions
