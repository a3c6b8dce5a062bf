import Xcplane.Escalation

/-!
Whether the entry of a service in the registry of fix actions says what its status says, so
that the other services of the server read the health and the fix level that it has.
-/

namespace Xcplane.RegistrySync

open Xcplane.Types
open Xcplane.Deploy
open Xcplane.Service
open Xcplane.Escalation

section Statement

/-- The entry of a service has the health and the fix level of the status, and this is what
the other services read. -/
structure InSync (m : ActionMap) (kind : SvcKind) (status : SvcStatus) : Prop where
  entry : ∃ action, m kind = some action ∧ action.svcHealth = status.health ∧
    action.fixTry = status.fixTry
  health : kind = .Ssh ∨ kind = .Nginx →
    siblingHealthCheck m kind = decide (status.health = .Ok)
  level : kind = SvcKind.superXray → superSiblingFixtry m = .ok status.fixTry

/-- A healthy check of the supervisor resets what its entry keeps. -/
def RecoversUnseen (status : SvcStatus) : Prop :=
  status.health ≠ .Ok ∨ 0 < status.failedCount ∧ status.fixTry ≠ 0

/-- A healthy check of another service resets a level that its status keeps. -/
def ResetUnasked (status : SvcStatus) : Prop :=
  status.health = .Ok ∧ status.failedCount = 0 ∧ status.fixTry ≠ 0

/-- The supervisor of Xray takes out a finished run and rises. -/
def Harvests (w : Watch) (runs : List FixRun) (status : SvcStatus) (m : ActionMap) : Prop :=
  w.autoFix = true ∧ w.fixThreshold ≤ status.failedCount + 1 ∧
    siblingsHealthy w.kind m = true ∧ status.fixTry < 2 ∧
      ∃ id, stored w.kind m = some id ∧ (finished runs id).isSome = true

/-- The status changes in a way that the entry does not follow, or the other way round. -/
def FallsBehind (w : Watch) (runs : List FixRun) (healthy : Bool) (status : SvcStatus)
    (m : ActionMap) : Prop :=
  if healthy then
    if w.kind = SvcKind.superXray then RecoversUnseen status else ResetUnasked status
  else w.kind = SvcKind.superXray ∧ Harvests w runs status m

end Statement

variable {w : Watch} {runs : List FixRun} {c : Circumstances} {status status' : SvcStatus}
  {m : ActionMap} {kind : SvcKind}

section Entries

theorem inSync_iff : InSync m kind status ↔ ∃ action, m kind = some action ∧
    action.svcHealth = status.health ∧ action.fixTry = status.fixTry := by
  constructor
  · exact InSync.entry
  · rintro ⟨action, haction, hhealth, hlevel⟩
    refine ⟨⟨action, haction, hhealth, hlevel⟩, ?_, ?_⟩
    · intro _
      rw [siblingHealthCheck, haction, ← hhealth]
    · rintro rfl
      rw [superSiblingFixtry, haction, ← hlevel]

theorem inSync_setEntry_iff {action : DashAction} {f : DashAction → DashAction}
    (haction : m kind = some action) :
    InSync (setEntry m kind f) kind status ↔
      (f action).svcHealth = status.health ∧ (f action).fixTry = status.fixTry := by
  have hentry : setEntry m kind f kind = some (f action) := by
    rw [setEntry, if_pos rfl, haction]
    rfl
  rw [inSync_iff, hentry]
  simp only [Option.some.injEq, exists_eq_left']

end Entries

section Actions

/-- The status that is returned, if any, is that of the entry. -/
def Follows (kind : SvcKind) (handled : Handled) : Prop :=
  ∀ status, handled.status = .ok status → InSync handled.actionMap kind status

theorem follows_ok {spawned : Option AnsibleAction} {info : String} (h : InSync m kind status) :
    Follows kind ⟨.ok status, m, spawned, info⟩ := by
  intro status' hok
  rwa [← Except.ok.inj hok]

theorem follows_error {e : BoxError} {spawned : Option AnsibleAction} {info : String} :
    Follows kind ⟨.error e, m, spawned, info⟩ :=
  fun _ hok => nomatch hok

theorem follows_nginxStart {nextId : Nat} {action : DashAction}
    (haction : m .Nginx = some action) : Follows .Nginx (nginxStart nextId status m) :=
  follows_ok ((inSync_setEntry_iff haction).mpr ⟨rfl, rfl⟩)

/-- Whatever Nginx does about its failures, its entry follows. -/
theorem follows_nginxActions (h : InSync m .Nginx status) :
    Follows .Nginx (nginxActions runs status m) := by
  obtain ⟨action, haction, _⟩ := h.entry
  unfold nginxActions
  split
  · split
    · split
      · exact follows_error
      · split
        · exact follows_nginxStart haction
        · split
          · exact follows_ok h
          · dsimp only
            split
            · exact follows_error
            · exact follows_nginxStart (entry_untied haction)
    · exact follows_ok h
  · exact follows_ok h

/-- The entry of the supervisor keeps the level when a finished run is taken out. -/
theorem superXraySick_inSync_iff (h : InSync m SvcKind.superXray status)
    (hok : (superXraySick runs c status m).status = .ok status') :
    InSync (superXraySick runs c status m).actionMap SvcKind.superXray status' ↔
      ¬ (siblingsHealthy SvcKind.superXray m = true ∧ status.fixTry < 2 ∧
        ∃ id, stored SvcKind.superXray m = some id ∧ (finished runs id).isSome = true) := by
  obtain ⟨found, hfound, hhealth, hlevel⟩ := h.entry
  have hcourse : Course SvcKind.superXray runs c.lastXuiDb status m
      (superXraySick runs c status m) := superXraySick_course
  generalize superXraySick runs c status m = handled at hok hcourse
  cases hcourse with
  | closed hsiblings =>
      rw [← Except.ok.inj hok]
      exact iff_of_true h fun hbad => absurd (hsiblings.symm.trans hbad.1) Bool.noConfusion
  | exhausted hsiblings hlast =>
      rw [← Except.ok.inj hok]
      exact iff_of_true h fun hbad => hlast hbad.2.1
  | unregistered _ hentry => cases hok
  | free hentered hfree =>
      have hstored : stored SvcKind.superXray m = none := by
        rw [stored_of_entry hentered.entry, hfree]
      rw [← Except.ok.inj hok]
      refine iff_of_true ?_ ?_
      · exact (inSync_setEntry_iff hfound).mpr ⟨hhealth, rfl⟩
      · rintro ⟨_, _, id, hid, _⟩
        cases hstored.symm.trans hid
  | running hentered hid hrunning =>
      rw [← Except.ok.inj hok]
      refine iff_of_true h ?_
      rintro ⟨_, _, id', hid', hfinished⟩
      rw [stored_of_entry hentered.entry, hid] at hid'
      cases hid'
      rw [hrunning] at hfinished
      cases hfinished
  | lost _ _ _ _ => cases hok
  | next hnginx => cases hnginx
  | counted hentered hid hfinished _ hskip =>
      rw [← Except.ok.inj hok]
      refine iff_of_false ?_ ?_
      · rw [untied, inSync_setEntry_iff hfound]
        rintro ⟨_, hsame⟩
        have hrises := le_skipRestore hskip
        dsimp only at hsame
        omega
      · rw [not_not, stored_of_entry hentered.entry, hid]
        exact ⟨hentered.siblings, hentered.level, _, rfl, by rw [hfinished]; rfl⟩

end Actions

section Checks

theorem recovered_inSync_iff (h : InSync m kind status) :
    InSync m kind (recovered status) ↔ ¬ RecoversUnseen status := by
  obtain ⟨found, hfound, hhealth, hlevel⟩ := h.entry
  have hiff : InSync m kind (recovered status) ↔ (recovered status).health = status.health ∧
      (recovered status).fixTry = status.fixTry := by
    rw [inSync_iff, hfound]
    simp only [Option.some.injEq, exists_eq_left', hhealth, hlevel, eq_comm]
  rw [hiff, recovered, RecoversUnseen]
  split
  · rename_i hcause
    simp only [gt_iff_lt] at hcause
    grind
  · rename_i hcause
    grind

/-- A service other than the supervisor has its entry reset with every healthy check. -/
theorem reset_inSync_iff (h : InSync m kind status) :
    InSync (setEntry m kind fun _ => ⟨.Ok, 0, none⟩) kind (recovered status) ↔
      ¬ ResetUnasked status := by
  obtain ⟨found, hfound, _⟩ := h.entry
  rw [inSync_setEntry_iff hfound, recovered, ResetUnasked]
  split
  · rename_i hcause
    grind
  · rename_i hcause
    grind

theorem handleOk_inSync_iff (h : InSync m w.kind status)
    (hok : (handleOk w runs c status m).status = .ok status') :
    InSync (handleOk w runs c status m).actionMap w.kind status' ↔
      ¬ if w.kind = SvcKind.superXray then RecoversUnseen status else ResetUnasked status := by
  have hhealth : (recovered status).health = .Ok := by
    rw [recovered]
    split
    · rfl
    · rename_i hcause
      exact not_not.mp (not_or.mp hcause).2
  by_cases hsuper : w.kind = SvcKind.superXray
  · have hhandled : handleOk w runs c status m = ⟨.ok (recovered status), m, none, ""⟩ := by
      rw [handleOk, if_pos hsuper, superXrayActions, hhealth]
    rw [hhandled] at hok ⊢
    rw [← Except.ok.inj hok, if_pos hsuper]
    exact recovered_inSync_iff h
  · have hhandled : handleOk w runs c status m = ⟨.ok (recovered status),
        setEntry m w.kind fun _ => ⟨.Ok, 0, none⟩, none, ""⟩ := by
      unfold handleOk at hok ⊢
      dsimp only at hok ⊢
      rw [if_neg hsuper] at hok ⊢
      split
      · rename_i inbound hkind
        rw [hkind] at hok
        dsimp only at hok
        split at hok
        · rename_i hcontains
          rw [if_pos hcontains]
        · cases hok
      · rfl
    rw [hhandled] at hok ⊢
    rw [← Except.ok.inj hok, if_neg hsuper]
    exact reset_inSync_iff h

theorem failedOnce_count {now : Except BoxError Nat} {failed : SvcStatus}
    (hfailed : failedOnce now status = .ok failed) :
    failed.failedCount = status.failedCount + 1 := by
  unfold failedOnce at hfailed
  dsimp only at hfailed
  split at hfailed
  · cases now with
    | error e => cases hfailed
    | ok t => cases hfailed; rfl
  · cases hfailed
    rfl

theorem fixActions_inSync_iff (h : InSync m w.kind status) (hsick : status.health = .Sick)
    (hok : (fixActions w runs c status m).status = .ok status') :
    InSync (fixActions w runs c status m).actionMap w.kind status' ↔
      ¬ (w.kind = SvcKind.superXray ∧ siblingsHealthy w.kind m = true ∧ status.fixTry < 2 ∧
        ∃ id, stored w.kind m = some id ∧ (finished runs id).isSome = true) := by
  obtain ⟨found, hfound, _⟩ := h.entry
  by_cases hsuper : w.kind = SvcKind.superXray
  · have hactions : fixActions w runs c status m = superXraySick runs c status m := by
      simp [fixActions, hsuper, SvcKind.superXray, superXrayActions_sick hsick]
    rw [hactions] at hok ⊢
    rw [hsuper] at h ⊢
    rw [superXraySick_inSync_iff h hok, and_iff_right rfl]
  · have hfollows : Follows w.kind (fixActions w runs c status m) := by
      unfold fixActions
      split
      · rename_i hkind
        rw [hkind] at hfound ⊢
        exact follows_ok ((inSync_setEntry_iff hfound).mpr ⟨rfl, rfl⟩)
      · rename_i hkind
        rw [hkind] at h ⊢
        exact follows_nginxActions h
      · rename_i inbound hkind
        split
        · rename_i hname
          rw [hname] at hkind
          exact absurd hkind hsuper
        · split
          · exact follows_error
          · exact follows_ok ((inSync_setEntry_iff hfound).mpr ⟨rfl, rfl⟩)
    exact iff_of_true (hfollows status' hok) fun hbad => hsuper hbad.1

theorem handleErr_inSync_iff (h : InSync m w.kind status)
    (hok : (handleErr w runs c status m).status = .ok status') :
    InSync (handleErr w runs c status m).actionMap w.kind status' ↔
      ¬ (w.kind = SvcKind.superXray ∧ Harvests w runs status m) := by
  obtain ⟨found, hfound, _, hlevel⟩ := h.entry
  unfold handleErr at hok ⊢
  split
  · rename_i e hfailed
    rw [hfailed] at hok
    cases hok
  · rename_i failed hfailed
    rw [hfailed] at hok
    obtain ⟨hsick, hsame⟩ := failedOnce_ok hfailed
    have hcount := failedOnce_count hfailed
    have hmarked : InSync (setEntry m w.kind fun action => { action with svcHealth := .Sick })
        w.kind failed :=
      (inSync_setEntry_iff hfound).mpr ⟨hsick.symm, hlevel.trans hsame.symm⟩
    have hstored : stored w.kind (setEntry m w.kind fun action =>
        { action with svcHealth := .Sick }) = stored w.kind m :=
      stored_setEntry_of_keep fun _ => rfl
    dsimp only at hok ⊢
    split
    · rename_i hreached
      rw [if_pos hreached] at hok
      obtain ⟨hauto, hthreshold⟩ := Bool.and_eq_true_iff.mp hreached
      have hthreshold := of_decide_eq_true hthreshold
      rw [hcount] at hthreshold
      rw [fixActions_inSync_iff hmarked hsick hok, hstored, hsame, Harvests]
      apply not_congr
      apply and_congr_right
      intro hsuper
      rw [siblingsHealthy_setEntry (.inr hsuper), and_iff_right hauto,
        and_iff_right hthreshold]
    · rename_i hreached
      rw [if_neg hreached] at hok
      rw [← Except.ok.inj hok]
      refine iff_of_true hmarked ?_
      rintro ⟨_, hauto, hthreshold, _⟩
      rw [← hcount] at hthreshold
      exact hreached (by rw [hauto, decide_eq_true hthreshold]; rfl)

end Checks

/-- A check after which there is a status leaves the entry with its health and its level
exactly when it does not fall behind. -/
theorem handleResponse_inSync_iff (w : Watch) (runs : List FixRun) (c : Circumstances)
    (healthy : Bool) (status status' : SvcStatus) (m : ActionMap)
    (h : InSync m w.kind status)
    (hok : (handleResponse w runs c healthy status m).status = .ok status') :
    InSync (handleResponse w runs c healthy status m).actionMap w.kind status' ↔
      ¬ FallsBehind w runs healthy status m := by
  cases healthy with
  | true => exact handleOk_inSync_iff h hok
  | false => exact handleErr_inSync_iff h hok

section Instances

/-- The supervisor of a server whose runs all ended. -/
def supervisor : Watch where
  kind := SvcKind.superXray
  inbounds := ["direct"]
  autoFix := true
  fixThreshold := 1

def calm : Circumstances where
  now := .ok 100
  lastXuiDb := .ok (.ok ())
  aggregator := .ok ()

def failing : SvcStatus := ⟨.Sick, 3, 40, 1⟩

/-- All services of the server at one health and one level. -/
def uniform (health : SvcHealth) (fixTry : Nat) : ActionMap :=
  fun _ => some ⟨health, fixTry, none⟩

theorem inSync_uniform (status : SvcStatus) (kind : SvcKind) :
    InSync (uniform status.health status.fixTry) kind status :=
  inSync_iff.mpr ⟨_, rfl, rfl, rfl⟩

/-- The supervisor has recovered, and its entry still says that it is sick at level one,
which is what the other inbounds go on to copy. -/
theorem recovery_unseen :
    InSync (uniform .Sick 1) supervisor.kind failing ∧
      (handleResponse supervisor [] calm true failing (uniform .Sick 1)).status =
        .ok ⟨.Ok, 0, 40, 0⟩ ∧
      superSiblingFixtry
        (handleResponse supervisor [] calm true failing (uniform .Sick 1)).actionMap = .ok 1 ∧
      ¬ InSync (handleResponse supervisor [] calm true failing (uniform .Sick 1)).actionMap
        supervisor.kind ⟨.Ok, 0, 40, 0⟩ :=
  ⟨inSync_uniform failing supervisor.kind, rfl, rfl, fun h => absurd (h.level rfl) (by decide)⟩

theorem handleResponse_inSync_iff_ssh :
    InSync (handleResponse { supervisor with kind := .Ssh } [] calm true failing
      (uniform .Sick 1)).actionMap .Ssh ⟨.Ok, 0, 40, 0⟩ :=
  (handleResponse_inSync_iff { supervisor with kind := .Ssh } [] calm true failing
    ⟨.Ok, 0, 40, 0⟩ (uniform .Sick 1) (inSync_uniform failing .Ssh) rfl).mpr
      fun hbehind => absurd hbehind.1 (by decide)

end Instances

end Xcplane.RegistrySync
