import Xcplane.Reconcile
import Xcplane.Specimen

/-!
What a failed reconciliation leaves of the data directories. The deletion round
comes before every step that can fail, so its removals are never undone.
-/

namespace Xcplane.DataDirs

open Xcplane.Types
open Xcplane.Lib
open Xcplane.Merge
open Xcplane.Reconcile

variable {δ : Type} {old new : Cloud}

def doomed (old new : Cloud) (dirs : Dirs δ) (n : String) : Bool :=
  (old.collected n).isSome && (new.collected n).isNone && (dirs n).isSome

/-- The first directory of the deletion round, if there is one, cannot be removed
and stays as it is. -/
def Spared (removeDirAll : String → δ → Except (BoxError × Option δ) Unit) (old new : Cloud)
    (names : List String) (dirs : Dirs δ) : Prop :=
  ∀ n d, names.find? (doomed old new dirs) = some n → dirs n = some d →
    ∃ e, removeDirAll n d = .error (e, some d)

section Round

variable {removeDirAll : String → δ → Except (BoxError × Option δ) Unit}

theorem removeDir_of_ne {dirs dirs' : Dirs δ} {n k : String} {e : Option BoxError}
    (h : removeDir removeDirAll dirs n = (dirs', e)) (hk : k ≠ n) : dirs' k = dirs k := by
  unfold removeDir at h
  split at h
  · cases h
    rfl
  · split at h
    · cases h
      exact Function.update_of_ne hk _ _
    · cases h
      exact Function.update_of_ne hk _ _

theorem deletionRound_of_notMem {names : List String} {dirs : Dirs δ} {k : String}
    (hk : k ∉ names ∨ k ∉ old.names) :
    (deletionRound removeDirAll old new names dirs).1 k = dirs k := by
  induction names generalizing dirs with
  | nil => rfl
  | cons n rest ih =>
      have hrest : k ∉ rest ∨ k ∉ old.names := by
        rcases hk with hk | hk
        · exact .inl fun hmem => hk (List.mem_cons_of_mem n hmem)
        · exact .inr hk
      rw [deletionRound]
      split
      · rename_i s hold hnew
        have hs := (Cloud.collected_eq_some hold).2
        have hne : k ≠ s.name := by
          rintro rfl
          rcases hk with hk | hk
          · exact hk (hs ▸ List.mem_cons_self)
          · exact hk (Cloud.mem_names (Cloud.collected_eq_some hold).1)
        split
        · rename_i dirs' e hremove
          exact removeDir_of_ne hremove hne
        · rename_i dirs' hremove
          rw [ih hrest]
          exact removeDir_of_ne hremove hne
      · exact ih hrest

theorem exists_dir_of_doomed {n : String} {dirs : Dirs δ} (h : doomed old new dirs n = true) :
    ∃ d, dirs n = some d := by
  simp only [doomed, Bool.and_eq_true] at h
  exact Option.isSome_iff_exists.mp h.2

theorem deletionRound_cons_doomed {n : String} {rest : List String} {dirs : Dirs δ} {d : δ}
    (hdoomed : doomed old new dirs n = true) (hd : dirs n = some d) :
    deletionRound removeDirAll old new (n :: rest) dirs =
      match removeDirAll n d with
      | .ok () => deletionRound removeDirAll old new rest (Function.update dirs n none)
      | .error (e, left) => (Function.update dirs n left, some e) := by
  unfold doomed at hdoomed
  rw [deletionRound]
  cases hold : old.collected n with
  | none => simp [hold] at hdoomed
  | some s =>
      have hs := (Cloud.collected_eq_some hold).2
      cases hnew : new.collected n with
      | some t => simp [hnew] at hdoomed
      | none =>
          simp only [removeDir, hs, hd]
          rcases removeDirAll n d with ⟨e, left⟩ | ⟨⟩
          · rfl
          · rfl

theorem deletionRound_cons_of_not_doomed {n : String} {rest : List String} {dirs : Dirs δ}
    (hdoomed : doomed old new dirs n = false) :
    deletionRound removeDirAll old new (n :: rest) dirs =
      deletionRound removeDirAll old new rest dirs := by
  unfold doomed at hdoomed
  rw [deletionRound]
  cases hold : old.collected n with
  | none => rfl
  | some s =>
      have hs := (Cloud.collected_eq_some hold).2
      cases hnew : new.collected n with
      | some t => rfl
      | none =>
          have hd : dirs n = none := by simpa [hold, hnew] using hdoomed
          simp [removeDir, hs, hd]

/-- The deletion round leaves every directory as it was exactly when it has none
to remove, or fails at the first one without touching it. -/
theorem deletionRound_unchanged_iff {names : List String} {dirs : Dirs δ}
    (hnodup : names.Nodup) :
    (∀ n, (deletionRound removeDirAll old new names dirs).1 n = dirs n) ↔
      Spared removeDirAll old new names dirs := by
  induction names with
  | nil => simp [deletionRound, Spared]
  | cons n rest ih =>
      obtain ⟨hn, hrest⟩ := List.nodup_cons.mp hnodup
      cases hdoomed : doomed old new dirs n with
      | false =>
          rw [deletionRound_cons_of_not_doomed hdoomed, ih hrest, Spared, Spared,
            List.find?_cons_of_neg (by simp [hdoomed])]
      | true =>
          obtain ⟨d, hd⟩ := exists_dir_of_doomed hdoomed
          rw [deletionRound_cons_doomed hdoomed hd, Spared, List.find?_cons_of_pos hdoomed]
          constructor
          · intro h n' d' hn' hd'
            cases hn'
            rw [hd] at hd'
            cases hd'
            have hkept := h n
            cases hremove : removeDirAll n d with
            | error failed =>
                obtain ⟨e, left⟩ := failed
                simp only [hremove, Function.update_self, hd] at hkept
                exact ⟨e, by rw [hkept]⟩
            | ok u =>
                simp only [hremove, hd] at hkept
                rw [deletionRound_of_notMem (.inl hn), Function.update_self] at hkept
                cases hkept
          · intro h k
            obtain ⟨e, he⟩ := h n d rfl hd
            simp only [he]
            rw [← hd, Function.update_eq_self]

end Round

section Reconciliation

variable {env : ReconEnv δ} {mode : ReconMode}
  {rebaseData : Option (List (String × RebaseDiff.RebaseData))} {ord : MergeOrder old new}
  {dirs : Dirs δ}

theorem finish_dirs {finalCloud : Cloud} {pairs : List (KetServer × KetServer)} :
    (finish env mode rebaseData finalCloud pairs dirs).dirs = dirs := by
  unfold finish
  split
  · rfl
  · split
    · rfl
    · rfl
    · rfl

theorem reconcileCloud_dirs (hold : old.servers ≠ []) :
    (reconcileCloud env old new mode rebaseData ord dirs).dirs =
      (deletionRound env.removeDirAll old new ord.names dirs).1 := by
  unfold reconcileCloud
  rw [if_neg (by simpa using hold)]
  split
  · rename_i dirs' e hround
    rw [hround]
  · rename_i dirs' hround
    rw [hround]
    split
    · rfl
    · exact finish_dirs

theorem doomed_mem_old {n : String} (h : doomed old new dirs n = true) : n ∈ old.names := by
  simp only [doomed, Bool.and_eq_true] at h
  exact Cloud.collected_isSome_iff.mp h.1.1

/-- A failed reconciliation leaves the data directories of the servers that the
daemon keeps managing as they were exactly when no server was deleted that had
one, or the first removal failed without touching it. -/
theorem reconcileCloud_error_dirs_iff {e : BoxError} :
    (reconcileCloud env old new mode rebaseData ord dirs).result = .error e →
      ((∀ s ∈ old.servers,
          (reconcileCloud env old new mode rebaseData ord dirs).dirs s.name = dirs s.name) ↔
        Spared env.removeDirAll old new ord.names dirs) := by
  intro _
  rcases eq_or_ne old.servers [] with hempty | hold
  · have hnone : ord.names.find? (doomed old new dirs) = none := by
      rw [List.find?_eq_none]
      intro n _ hn
      have hmem := doomed_mem_old hn
      simp [Cloud.names, hempty] at hmem
    simp [Spared, hnone, hempty]
  · rw [reconcileCloud_dirs hold, ← deletionRound_unchanged_iff ord.enumerates.nodup]
    constructor
    · intro hkept n
      rcases Classical.em (n ∈ old.names) with hn | hn
      · obtain ⟨s, hs, rfl⟩ := List.mem_map.mp hn
        exact hkept s hs
      · exact deletionRound_of_notMem (.inr hn)
    · intro hkept s _
      exact hkept s.name

end Reconciliation

section Instances

open Xcplane.Specimen

/-- Server `alpha` is deleted, `beta` gets another IP and a new server takes the
one that `beta` had. -/
def replaced : Cloud :=
  cloud [{ beta with ip := quadNine },
    { beta with name := "gamma", domain := .domain "c.example.org" }]

theorem reconcileCloud_replaced_error :
    (reconcileCloud env (cloud [alpha, beta]) replaced .Reload none (order _ _) dirs).result =
      .error "[ Reload ] The new server 'gamma' uses an existing IP in the cloud." := by
  rfl

theorem reconcileCloud_error_dirs_iff_replaced :
    (∀ s ∈ (cloud [alpha, beta]).servers,
        (reconcileCloud env (cloud [alpha, beta]) replaced .Reload none (order _ _) dirs).dirs
          s.name = dirs s.name) ↔
      Spared env.removeDirAll (cloud [alpha, beta]) replaced
        (order (cloud [alpha, beta]) replaced).names dirs :=
  reconcileCloud_error_dirs_iff reconcileCloud_replaced_error

/-- The reconciliation is rejected after the directory of `alpha` was removed,
and the daemon keeps managing `alpha`. -/
theorem reconcileCloud_replaced_dir_lost :
    (∃ e, (reconcileCloud env (cloud [alpha, beta]) replaced .Reload none (order _ _)
        dirs).result = .error e) ∧
      replaced.Distinct ∧ alpha ∈ (cloud [alpha, beta]).servers ∧ dirs alpha.name ≠ none ∧
      (reconcileCloud env (cloud [alpha, beta]) replaced .Reload none (order _ _) dirs).dirs
        alpha.name = none :=
  ⟨⟨_, rfl⟩, cloud_distinct (by decide), List.mem_cons_self, by decide, by decide⟩

end Instances

end Xcplane.DataDirs
