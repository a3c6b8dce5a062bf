import Xcplane.DataDirs
import Xcplane.JoinedRuns
import Xcplane.Uniqueness

/-!
When a Reload or a Remap ends well: what its deletion round, its merge and its
Cloudflare states need of the two clouds and of what surrounds them.
-/

namespace Xcplane.Acceptance

open Xcplane.Types
open Xcplane.Lib
open Xcplane.Cloudflare
open Xcplane.Merge
open Xcplane.Reconcile
open Xcplane.ReconcileSpec
open Xcplane.DataDirs
open Xcplane.JoinedRuns
open Xcplane.Uniqueness

variable {δ : Type}

/-- The directories of the servers that the new cloud drops can be removed. -/
def Removable (removeDirAll : String → δ → Except (BoxError × Option δ) Unit)
    (old new : Cloud) (dirs : Dirs δ) : Prop :=
  ∀ n d, doomed old new dirs n = true → dirs n = some d → removeDirAll n d = .ok ()

/-- The merge gets past the name: its two declarations can be merged, or the added
one has a free domain and a free IP. -/
structure Mergeable (mode : ReconMode) (old new : Cloud) (taken : Taken) (n : String) : Prop where
  common : ∀ o s, old.collected n = some o → new.collected n = some s →
    ∃ m, mergeServer mode new.settings.inboundSet o s = .ok m
  added : ∀ s, old.collected n = none → new.collected n = some s →
    s.domain ∉ taken.domains ∧ s.ip ∉ taken.ips

/-- Cloudflare answers what the states of the servers of the cloud need. -/
def Answered (env : ReconEnv δ) (cloud : Cloud) : Prop :=
  ∀ s ∈ cloud.servers,
    ∃ st, setCfState env.forms env.cf (sharedList env.cf env.cfList cloud) s = .ok st

/-- The addresses that an added server is compared with. -/
def takenAtMerge {old new : Cloud} (ord : MergeOrder old new) : Taken :=
  takenAfterDeletion old new ord.names (takenBy old)

/-- What a Reload or a Remap needs in order to end well. -/
inductive Acceptable (env : ReconEnv δ) (mode : ReconMode) (old new : Cloud)
    (ord : MergeOrder old new) (dirs : Dirs δ) : Prop
  | first (hempty : old.servers = []) (hanswered : Answered env new)
  | merged (hold : old.servers ≠ []) (hremovable : Removable env.removeDirAll old new dirs)
      (hmergeable : ∀ n, Mergeable mode old new (takenAtMerge ord) n)
      (hanswered : ∀ servers pairs,
        mergeRound mode old new ord.names (takenAtMerge ord) = .ok (servers, pairs) →
          Answered env { servers, settings := new.settings })

section Rounds

variable {old new : Cloud} {mode : ReconMode} {names : List String}

theorem deletionRound_ok_iff {removeDirAll : String → δ → Except (BoxError × Option δ) Unit}
    {dirs : Dirs δ} (hnodup : names.Nodup) :
    (deletionRound removeDirAll old new names dirs).2 = none ↔
      ∀ n ∈ names, ∀ d, doomed old new dirs n = true → dirs n = some d →
        removeDirAll n d = .ok () := by
  induction names generalizing dirs with
  | nil => simp [deletionRound]
  | cons n rest ih =>
      obtain ⟨hn, hrest⟩ := List.nodup_cons.mp hnodup
      rw [List.forall_mem_cons]
      cases hdoomed : doomed old new dirs n with
      | false =>
          rw [deletionRound_cons_of_not_doomed hdoomed, ih hrest]
          simp
      | true =>
          obtain ⟨d, hd⟩ := exists_dir_of_doomed hdoomed
          rw [deletionRound_cons_doomed hdoomed hd]
          have hkeep : ∀ k ∈ rest, Function.update dirs n none k = dirs k := by
            intro k hk
            apply Function.update_of_ne
            rintro rfl
            exact hn hk
          cases hremove : removeDirAll n d with
          | error failed => simp [hd, hremove]
          | ok u =>
              simp only [hd, Option.some.injEq, forall_eq', hremove, true_and, ih hrest,
                forall_const]
              apply forall₂_congr
              intro k hk
              rw [doomed, doomed, hkeep k hk]

theorem exists_mergeRound_ok_iff {taken : Taken} (hnew : new.Distinct) (hnodup : names.Nodup)
    (hmem : ∀ n ∈ names, n ∈ old.names ∨ n ∈ new.names) :
    (∃ result, mergeRound mode old new names taken = .ok result) ↔
      ∀ n ∈ names, Mergeable mode old new taken n := by
  constructor
  · rintro ⟨result, h⟩ n hn
    exact ⟨fun o s ho hs => mergeRound_merges h hn ho hs,
      fun s ho hs => mergeRound_avoids h hn ho hs⟩
  · intro h
    induction names generalizing taken with
    | nil => exact ⟨_, rfl⟩
    | cons n rest ih =>
        obtain ⟨hn, hrest⟩ := List.nodup_cons.mp hnodup
        rw [List.forall_mem_cons] at h hmem
        rw [mergeRound]
        cases ho : old.collected n with
        | none =>
            cases hs : new.collected n with
            | none =>
                -- a name of neither cloud is not gone through
                exfalso
                rw [← Cloud.collected_isSome_iff, ← Cloud.collected_isSome_iff, ho, hs] at hmem
                simpa using hmem.1
            | some s =>
                obtain ⟨hdomain, hip⟩ := h.1.added s ho hs
                have hfree : ∀ k ∈ rest, Mergeable mode old new
                    { domains := s.domain :: taken.domains, ips := s.ip :: taken.ips } k := by
                  intro k hk
                  refine ⟨(h.2 k hk).common, fun t hto hts => ?_⟩
                  obtain ⟨htdomain, htip⟩ := (h.2 k hk).added t hto hts
                  have hne : k ≠ n := by
                    rintro rfl
                    exact hn hk
                  obtain ⟨hd, hi⟩ := address_ne hnew hts hs hne
                  exact ⟨by simp [hd, htdomain], by simp [hi, htip]⟩
                obtain ⟨⟨merged, pairs⟩, hround⟩ := ih hrest hmem.2 hfree
                refine ⟨(s :: merged, pairs), ?_⟩
                simp only [ensure_bind_eq_ok_iff]
                refine ⟨by simpa using hdomain, by simpa using hip, ?_⟩
                rw [hround]
                rfl
        | some o =>
            cases hs : new.collected n with
            | none => exact ih hrest hmem.2 h.2
            | some s =>
                obtain ⟨m, hm⟩ := h.1.common o s ho hs
                obtain ⟨⟨merged, pairs⟩, hround⟩ := ih hrest hmem.2 h.2
                simp only [hm, hround]
                exact ⟨_, rfl⟩

theorem exists_prepareCloudflareState_ok_iff {env : ReconEnv δ} {cloud : Cloud} :
    (∃ c, prepareCloudflareState env.forms env.cf env.cfList cloud = .ok c) ↔
      Answered env cloud := by
  constructor
  · rintro ⟨c, h⟩ s hs
    obtain ⟨servers, hservers, _⟩ := bind_eq_ok_iff.mp h
    obtain ⟨s', _, hs'⟩ := exists_right_of_mem (mapM_eq_ok_iff.mp hservers) hs
    obtain ⟨st, hst, _⟩ := bind_eq_ok_iff.mp hs'
    exact ⟨st, hst⟩
  · intro h
    obtain ⟨servers, hservers⟩ := exists_mapM_eq_ok (l := cloud.servers) (f := fun s => do
      let cfstate ← setCfState env.forms env.cf (sharedList env.cf env.cfList cloud) s
      .ok { s with cfstate := some cfstate }) fun s hs => by
        obtain ⟨st, hst⟩ := h s hs
        exact ⟨_, bind_eq_ok_iff.mpr ⟨st, hst, rfl⟩⟩
    exact ⟨{ cloud with servers }, bind_eq_ok_iff.mpr ⟨servers, hservers, rfl⟩⟩

end Rounds

section Local

variable {env : ReconEnv δ} {old new : Cloud} {mode : ReconMode}
  {rebaseData : Option (List (String × RebaseDiff.RebaseData))} {ord : MergeOrder old new}
  {dirs : Dirs δ}

theorem removable_iff (ord : MergeOrder old new) : Removable env.removeDirAll old new dirs ↔
    (deletionRound env.removeDirAll old new ord.names dirs).2 = none := by
  rw [deletionRound_ok_iff ord.enumerates.nodup]
  constructor
  · exact fun h n _ => h n
  · intro h n d hdoomed
    exact h n ((ord.enumerates.mem_iff n).mpr (.inl (doomed_mem_old hdoomed))) d hdoomed

theorem mergeable_iff (ord : MergeOrder old new) (hnew : new.Distinct) :
    (∀ n, Mergeable mode old new (takenAtMerge ord) n) ↔
      ∃ result, mergeRound mode old new ord.names (takenAtMerge ord) = .ok result := by
  rw [exists_mergeRound_ok_iff hnew ord.enumerates.nodup fun n hn =>
    (ord.enumerates.mem_iff n).mp hn]
  constructor
  · exact fun h n _ => h n
  · intro h n
    by_cases hn : n ∈ ord.names
    · exact h n hn
    · rw [ord.enumerates.mem_iff, not_or, ← Cloud.collected_isSome_iff,
        ← Cloud.collected_isSome_iff, Option.not_isSome_iff_eq_none,
        Option.not_isSome_iff_eq_none] at hn
      refine ⟨fun o s ho _ => ?_, fun s _ hs => ?_⟩
      · simp [hn.1] at ho
      · simp [hn.2] at hs

/-- Without a remote side only the Cloudflare state is set after the merge. -/
theorem reconcileCloud_local_entry (hmode : mode ≠ .Rebase) (hnew : new.names.Nodup) {c : Cloud}
    (h : (reconcileCloud env old new mode rebaseData ord dirs).result = .ok c) {x : KetServer}
    (hx : x ∈ c.servers) :
    ∃ m, Entry mode old new x.name m ∧ x = { m with cfstate := x.cfstate } := by
  obtain ⟨m, hentry, hfinal, hconn⟩ := reconcileCloud_conn hnew h hx
  refine ⟨m, hentry, ?_⟩
  cases hconn with
  | merged _ hconn =>
      have hsame := hfinal.same
      rwa [hconn] at hsame
  | joined _ hrebase => exact absurd hrebase hmode

/-- A reconciliation without a remote side ends well exactly when its rounds do and
Cloudflare answers for every server they give. -/
theorem reconcileCloud_local_ok_iff (hmode : mode ≠ .Rebase) (hnew : new.Distinct) :
    (∃ c, (reconcileCloud env old new mode rebaseData ord dirs).result = .ok c) ↔
      Acceptable env mode old new ord dirs := by
  by_cases hempty : old.servers = []
  · have hresult : (reconcileCloud env old new mode rebaseData ord dirs).result =
        prepareCloudflareState env.forms env.cf env.cfList new := by
      rw [reconcileCloud, if_pos (List.isEmpty_iff.mpr hempty)]
    rw [hresult, exists_prepareCloudflareState_ok_iff]
    constructor
    · exact .first hempty
    · intro h
      cases h with
      | first _ hanswered => exact hanswered
      | merged hold => exact absurd hempty hold
  · constructor
    · rintro ⟨c, h⟩
      cases reconcileCloud_proceeded h with
      | first hempty' _ => exact absurd (List.isEmpty_iff.mp hempty') hempty
      | merged servers pairs dirs' _ hmerge hfinish hresult =>
          refine .merged hempty ?_ ((mergeable_iff ord hnew).mpr ⟨_, hmerge⟩) ?_
          · rw [removable_iff ord]
            by_contra hdeletion
            rw [reconcileCloud, if_neg (by simpa using hempty)] at h
            split at h
            · cases h
            · rename_i hdone
              rw [hdone] at hdeletion
              exact hdeletion rfl
          · intro servers' pairs' hmerge'
            rw [takenAtMerge, hmerge] at hmerge'
            cases hmerge'
            have hlocal := finish_local_ok hmode hresult
            exact exists_prepareCloudflareState_ok_iff.mp ⟨c, hlocal⟩
    · intro h
      cases h with
      | first hempty' => exact absurd hempty' hempty
      | merged _ hremovable hmergeable hanswered =>
          obtain ⟨⟨servers, pairs⟩, hmerge⟩ := (mergeable_iff ord hnew).mp hmergeable
          obtain ⟨c, hc⟩ :=
            exists_prepareCloudflareState_ok_iff.mpr (hanswered servers pairs hmerge)
          have hdeletion := (removable_iff ord).mp hremovable
          refine ⟨c, ?_⟩
          rw [reconcileCloud, if_neg (by simpa using hempty)]
          split
          · rename_i dirs' e hfailed
            rw [hfailed] at hdeletion
            cases hdeletion
          · rw [takenAtMerge] at hmerge
            simp only [hmerge, finish, hc]
            cases mode with
            | Rebase => exact absurd rfl hmode
            | Reload => rfl
            | Remap => rfl

end Local

end Xcplane.Acceptance
