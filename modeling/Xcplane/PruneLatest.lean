import Xcplane.LatestBackup
import Xcplane.Lib.StableSort

/-!
Whether pruning keeps the backup that a restore would take: it goes by the times of
creation, and the restore by the names.
-/

namespace Xcplane.PruneLatest

open Xcplane.XuiBackups
open Xcplane.Lib

section Statement

variable (server : String) (entries : List FileEntry)

/-- The directory after a pruning in which every removal succeeded. -/
def pruned : List FileEntry :=
  removeFiles entries (prunable server entries) (prunable server entries).length

/-- The backups of the server created after `f`, and those created with it and listed
before it. -/
def newerThan (f : FileEntry) : List FileEntry :=
  (backupsOf server entries).filter fun g =>
    decide (f.created.getD 0 ≤ g.created.getD 0) &&
      (!decide (g.created.getD 0 ≤ f.created.getD 0) ||
        decide ((backupsOf server entries).idxOf g < (backupsOf server entries).idxOf f))

/-- The file with the greatest name is one of the last created. -/
def LatestIsNew : Prop :=
  ∀ f ∈ backupsOf server entries, lastXuiDb server entries = some f.name →
    (newerThan server entries f).length < Constants.retainedXuiDbnum

/-- A directory with one entry for each name, in which the creation times of the backups
are known. -/
structure Listing : Prop where
  names : (entries.map FileEntry.name).Nodup
  created : ∀ f ∈ backupsOf server entries, f.created.isSome = true

end Statement

section Pruning

variable {server : String} {entries : List FileEntry} {f : FileEntry}

def createdOrder (a b : FileEntry) : Bool :=
  decide (b.created.getD 0 ≤ a.created.getD 0)

theorem createdOrder_trans (a b c : FileEntry) (hab : createdOrder a b = true)
    (hbc : createdOrder b c = true) : createdOrder a c = true :=
  decide_eq_true ((of_decide_eq_true hbc).trans (of_decide_eq_true hab))

theorem createdOrder_total (a b : FileEntry) : (createdOrder a b || createdOrder b a) = true := by
  rw [Bool.or_eq_true]
  rcases Nat.le_total (b.created.getD 0) (a.created.getD 0) with h | h
  · exact Or.inl (decide_eq_true h)
  · exact Or.inr (decide_eq_true h)

theorem backupsOf_nodup (h : Listing server entries) : (backupsOf server entries).Nodup :=
  (List.Nodup.of_map _ h.names).filter _

theorem prunable_eq (h : Listing server entries) :
    prunable server entries =
      ((backupsOf server entries).mergeSort createdOrder).drop Constants.retainedXuiDbnum := by
  rw [prunable, List.filter_eq_self.mpr h.created]
  rfl

theorem mem_prunable_iff (h : Listing server entries) (hf : f ∈ backupsOf server entries) :
    f ∈ prunable server entries ↔
      Constants.retainedXuiDbnum ≤ (newerThan server entries f).length := by
  rw [prunable_eq h, mem_drop_mergeSort_iff createdOrder_trans createdOrder_total
    (backupsOf_nodup h) hf]
  rfl

theorem backupsOf_pruned : backupsOf server (pruned server entries) =
    (backupsOf server entries).filter fun f => !(prunable server entries).contains f := by
  rw [backupsOf, pruned, removeFiles, List.take_length, List.filter_comm, ← backupsOf]

/-- Pruning leaves as many backups as are retained, or all of them. -/
theorem length_pruned_le (h : Listing server entries) :
    (backupsOf server (pruned server entries)).length ≤ Constants.retainedXuiDbnum := by
  have hperm := List.mergeSort_perm (backupsOf server entries) createdOrder
  have hsplit := List.take_append_drop Constants.retainedXuiDbnum
    ((backupsOf server entries).mergeSort createdOrder)
  rw [← prunable_eq h] at hsplit
  have hdropped : (prunable server entries).filter
      (fun f => !(prunable server entries).contains f) = [] := by
    rw [List.filter_eq_nil_iff]
    intro f hf
    simpa using hf
  calc (backupsOf server (pruned server entries)).length
      = (((backupsOf server entries).mergeSort createdOrder).filter
          fun f => !(prunable server entries).contains f).length := by
        rw [backupsOf_pruned, (hperm.filter _).length_eq]
    _ ≤ (((backupsOf server entries).mergeSort createdOrder).take
          Constants.retainedXuiDbnum).length := by
        conv_lhs => rw [← hsplit, List.filter_append, hdropped, List.append_nil]
        exact List.length_filter_le _ _
    _ ≤ Constants.retainedXuiDbnum := List.length_take_le _ _

/-- Nothing else than the removal of the selected file changes what is selected. -/
theorem lastXuiDb_pruned_iff (h : Listing server entries) (hf : f ∈ backupsOf server entries)
    (hlast : lastXuiDb server entries = some f.name) :
    lastXuiDb server (pruned server entries) = lastXuiDb server entries ↔
      f ∉ prunable server entries := by
  have hmem (g : FileEntry) : g ∈ backupsOf server (pruned server entries) ↔
      g ∈ backupsOf server entries ∧ g ∉ prunable server entries := by
    rw [backupsOf_pruned, List.mem_filter, Bool.not_eq_true', List.contains_eq_mem,
      decide_eq_false_iff_not]
  constructor
  · intro hsame
    obtain ⟨⟨g, hg, hname⟩, _⟩ := mem_of_lastXuiDb (hsame.trans hlast)
    obtain ⟨hg, hkept⟩ := (hmem g).mp hg
    have hgf : g = f := List.inj_on_of_nodup_map h.names (List.mem_of_mem_filter hg)
      (List.mem_of_mem_filter hf) hname
    exact hgf ▸ hkept
  · intro hkept
    obtain ⟨_, hnewest⟩ := mem_of_lastXuiDb hlast
    rw [hlast, lastXuiDb, List.max?_eq_some_iff]
    refine ⟨List.mem_map_of_mem ((hmem f).mpr ⟨hf, hkept⟩), ?_⟩
    rw [List.forall_mem_map]
    intro g hg
    exact hnewest g ((hmem g).mp hg).1

/-- Pruning leaves the selected backup alone exactly when fewer backups than are retained
are newer than it by their creation. -/
theorem prune_keeps_latest_iff (server : String) (entries : List FileEntry)
    (h : Listing server entries) :
    (lastXuiDb server (pruned server entries) = lastXuiDb server entries ∧
        (backupsOf server (pruned server entries)).length ≤ Constants.retainedXuiDbnum) ↔
      LatestIsNew server entries := by
  rw [and_iff_left (length_pruned_le h)]
  constructor
  · intro hsame f hf hlast
    have hkept := (lastXuiDb_pruned_iff h hf hlast).mp hsame
    rw [mem_prunable_iff h hf] at hkept
    exact Nat.lt_of_not_le hkept
  · intro hnew
    cases hlast : lastXuiDb server entries with
    | none =>
        rw [lastXuiDb, List.max?_eq_none_iff, List.map_eq_nil_iff] at hlast
        rw [lastXuiDb, backupsOf_pruned, hlast]
        rfl
    | some name =>
        obtain ⟨⟨f, hf, rfl⟩, _⟩ := mem_of_lastXuiDb hlast
        rw [← hlast, lastXuiDb_pruned_iff h hf hlast, mem_prunable_iff h hf]
        exact Nat.not_le_of_gt (hnew f hf hlast)

/-- Times of creation that agree with the names do no harm. -/
theorem latestIsNew_of_agreeing (hagree : ∀ f ∈ backupsOf server entries,
    ∀ g ∈ backupsOf server entries, f.created.getD 0 ≤ g.created.getD 0 → f.name ≤ g.name)
    (h : Listing server entries) : LatestIsNew server entries := by
  intro f hf hlast
  obtain ⟨_, hnewest⟩ := mem_of_lastXuiDb hlast
  have hnone : newerThan server entries f = [] := by
    rw [newerThan, List.filter_eq_nil_iff]
    intro g hg hnewer
    obtain ⟨hle, hbefore⟩ := Bool.and_eq_true_iff.mp hnewer
    have hname : g.name = f.name :=
      le_antisymm (hnewest g hg) (hagree f hf g hg (of_decide_eq_true hle))
    have hgf : g = f := List.inj_on_of_nodup_map h.names (List.mem_of_mem_filter hg)
      (List.mem_of_mem_filter hf) hname
    subst hgf
    simp at hbefore
  rw [hnone]
  decide

end Pruning

section Instances

open Xcplane.Stamps
open Xcplane.LatestBackup

theorem hour_lt (i : Nat) : i / 3600 % 24 < 24 :=
  Nat.mod_lt _ (by decide)

theorem minute_lt (i : Nat) : i / 60 % 60 < 60 :=
  Nat.mod_lt _ (by decide)

theorem second_le (i : Nat) : i % 60 ≤ 60 :=
  (Nat.mod_lt _ (by decide)).le

/-- The seconds of a day. -/
def moment (i : Nat) : Stamp :=
  { january with
    hour := i / 3600 % 24
    minute := i / 60 % 60
    second := i % 60
    hour_lt := hour_lt i
    minute_lt := minute_lt i
    second_le := second_le i }

theorem moment_before {i j : Nat} (hij : i < j) (hj : j < 86400) :
    (moment i).Before (moment j) := by
  have hsplit : i / 3600 % 24 < j / 3600 % 24 ∨ i / 3600 % 24 = j / 3600 % 24 ∧
      (i / 60 % 60 < j / 60 % 60 ∨ i / 60 % 60 = j / 60 % 60 ∧ i % 60 < j % 60) := by
    omega
  simpa [Stamp.Before, Stamp.fields, moment, List.cons_lt_cons_iff] using hsplit

/-- The backup of the i-th second, created at some time. -/
def dated (time : Nat → Nat) (i : Nat) : FileEntry :=
  ⟨backupName "alpha" (moment i).text, i, some (time i)⟩

theorem dated_name_lt {time : Nat → Nat} {i j : Nat} (hij : i < j) (hj : j < 86400) :
    (dated time i).name < (dated time j).name :=
  (backupName_lt_iff "alpha" (moment i) (moment j)).mpr (moment_before hij hj)

def directory (time : Nat → Nat) (n : Nat) : List FileEntry :=
  (List.range n).map (dated time)

theorem backupsOf_directory (time : Nat → Nat) (n : Nat) :
    backupsOf "alpha" (directory time n) = directory time n := by
  have hproper : Naming.isProper "alpha" = true := by decide
  rw [backupsOf, List.filter_eq_self]
  intro f hf
  obtain ⟨i, _, rfl⟩ := List.mem_map.mp hf
  exact (isBackupOf_backupName_iff hproper hproper (moment i)).mpr rfl

theorem listing_directory {time : Nat → Nat} {n : Nat} (hn : n ≤ 86400) :
    Listing "alpha" (directory time n) where
  names := by
    rw [directory, List.map_map]
    apply List.nodup_range.map_on
    intro i hi j hj heq
    rw [List.mem_range] at hi hj
    rcases Nat.lt_trichotomy i j with hlt | heq' | hlt
    · exact absurd heq (dated_name_lt hlt (by omega)).ne
    · exact heq'
    · exact absurd heq.symm (dated_name_lt hlt (by omega)).ne
  created := by
    intro f hf
    rw [backupsOf_directory] at hf
    obtain ⟨i, _, rfl⟩ := List.mem_map.mp hf
    rfl

/-- A data directory that was copied from the latest name to the first. -/
def copied (n : Nat) : List FileEntry :=
  directory (fun i => 5000 - i) n

theorem lastXuiDb_copied {n : Nat} (hn : n < 86400) :
    lastXuiDb "alpha" (copied (n + 1)) = some (dated (fun i => 5000 - i) n).name := by
  rw [lastXuiDb, copied, backupsOf_directory, List.max?_eq_some_iff, List.forall_mem_map, directory]
  refine ⟨List.mem_map_of_mem (List.mem_map_of_mem List.self_mem_range_succ), ?_⟩
  intro f hf
  obtain ⟨i, hi, rfl⟩ := List.mem_map.mp hf
  rcases Nat.lt_succ_iff_lt_or_eq.mp (List.mem_range.mp hi) with hlt | rfl
  · exact (dated_name_lt hlt hn).le
  · exact le_rfl

theorem newerThan_copied {n : Nat} (hn : n ≤ 5000) :
    n ≤ (newerThan "alpha" (copied (n + 1)) (dated (fun i => 5000 - i) n)).length := by
  have hrest : copied (n + 1) = copied n ++ [dated (fun i => 5000 - i) n] := by
    rw [copied, directory, List.range_succ, List.map_append]
    rfl
  have hnewer : ∀ g ∈ copied n, (5000 - n ≤ g.created.getD 0 ∧ ¬ g.created.getD 0 ≤ 5000 - n) := by
    intro g hg
    obtain ⟨i, hi, rfl⟩ := List.mem_map.mp hg
    have hi := List.mem_range.mp hi
    simp only [dated, Option.getD_some]
    omega
  rw [newerThan, copied, backupsOf_directory, ← copied]
  conv_rhs => rw [hrest, List.filter_append, List.length_append]
  rw [List.filter_eq_self.mpr]
  · simp [copied, directory]
  · intro g hg
    obtain ⟨hle, hnle⟩ := hnewer g hg
    simp [dated, hle, hnle]

/-- Of one backup more than is retained, the one with the latest name was copied first and
is pruned. -/
theorem latest_pruned :
    lastXuiDb "alpha" (pruned "alpha" (copied 4321)) ≠ lastXuiDb "alpha" (copied 4321) := by
  have hlisting : Listing "alpha" (copied 4321) := listing_directory (by decide)
  have hlast : lastXuiDb "alpha" (copied 4321) = some (dated (fun i => 5000 - i) 4320).name :=
    lastXuiDb_copied (by decide)
  have hmem : dated (fun i => 5000 - i) 4320 ∈ backupsOf "alpha" (copied 4321) := by
    rw [copied, backupsOf_directory]
    exact List.mem_map_of_mem List.self_mem_range_succ
  intro hsame
  apply (lastXuiDb_pruned_iff hlisting hmem hlast).mp hsame
  exact (mem_prunable_iff hlisting hmem).mpr (newerThan_copied (n := 4320) (by decide))

/-- The same backups, created in the order of their names. -/
def inOrder (n : Nat) : List FileEntry :=
  directory id n

/-- One of the backups is pruned, and it is not the latest. -/
theorem prune_keeps_latest_iff_inOrder :
    lastXuiDb "alpha" (pruned "alpha" (inOrder 4321)) = lastXuiDb "alpha" (inOrder 4321) ∧
      (backupsOf "alpha" (pruned "alpha" (inOrder 4321))).length ≤ Constants.retainedXuiDbnum := by
  have hlisting : Listing "alpha" (inOrder 4321) := listing_directory (by decide)
  refine (prune_keeps_latest_iff "alpha" (inOrder 4321) hlisting).mpr ?_
  refine latestIsNew_of_agreeing (fun f hf g hg hle => ?_) hlisting
  rw [inOrder, backupsOf_directory] at hf hg
  obtain ⟨i, hi, rfl⟩ := List.mem_map.mp hf
  obtain ⟨j, hj, rfl⟩ := List.mem_map.mp hg
  have hj := List.mem_range.mp hj
  rcases Nat.lt_or_eq_of_le hle with hlt | heq
  · exact (dated_name_lt (i := i) (j := j) hlt (by omega)).le
  · obtain rfl : i = j := heq
    exact le_rfl

end Instances

end Xcplane.PruneLatest
