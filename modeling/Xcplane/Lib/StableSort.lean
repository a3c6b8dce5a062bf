import Mathlib.Data.List.Basic
import Mathlib.Data.List.Nodup
import Mathlib.Order.Lattice

/-!
Where a stable sort puts an element: behind those that it has to follow, and behind those of
its own rank that are listed before it; and which of the greatest elements is the last.
-/

namespace Xcplane.Lib

open List

variable {α : Type} [DecidableEq α] {le : α → α → Bool} {l m₁ m₂ : List α}
  {x y : α}

/-- Sorted by `le`, `y` goes before `x`. -/
def goesBefore (le : α → α → Bool) (l : List α) (x y : α) : Bool :=
  le y x && (!le x y || decide (l.idxOf y < l.idxOf x))

theorem pair_sublist_of_idxOf_lt (hy : y ∈ l) (h : l.idxOf x < l.idxOf y) : [x, y] <+ l := by
  induction l with
  | nil => exact absurd hy List.not_mem_nil
  | cons a rest ih =>
      by_cases hax : a = x
      · subst hax
        apply Sublist.cons_cons
        rw [List.singleton_sublist]
        apply List.mem_of_ne_of_mem _ hy
        rintro rfl
        exact absurd h (Nat.lt_irrefl _)
      · have hay : a ≠ y := by
          rintro rfl
          rw [List.idxOf_cons_self] at h
          exact absurd h (Nat.not_lt_zero _)
        rw [List.idxOf_cons_ne rest hax, List.idxOf_cons_ne rest hay] at h
        exact (ih (List.mem_of_ne_of_mem hay.symm hy) (Nat.lt_of_succ_lt_succ h)).cons a

omit [DecidableEq α] in
theorem not_pair_sublist_of_nodup (hnodup : l.Nodup) (h : [x, y] <+ l) : ¬ [y, x] <+ l := by
  induction l with
  | nil => exact absurd (h.subset List.mem_cons_self) List.not_mem_nil
  | cons a rest ih =>
      obtain ⟨hfresh, hrest⟩ := List.nodup_cons.mp hnodup
      have hne : x ≠ y := by
        have hpair := hnodup.sublist h
        simpa using hpair
      intro h'
      cases h with
      | cons _ h =>
          cases h' with
          | cons _ h' => exact ih hrest h h'
          | cons_cons _ _ => exact hfresh (h.subset (by simp))
      | cons_cons _ h =>
          cases h' with
          | cons _ h' => exact hfresh (h'.subset (by simp))
          | cons_cons _ _ => exact hne rfl

section Sorted

variable (trans : ∀ a b c, le a b → le b c → le a c) (total : ∀ a b, le a b || le b a)

include trans total

/-- What goes before an element in the order of the sort is not listed after it. -/
theorem mem_of_goesBefore (hnodup : (m₁ ++ x :: m₂).Nodup) (hx : x ∈ l)
    (h : l.mergeSort le = m₁ ++ x :: m₂) (hy : y ∈ m₁ ++ x :: m₂)
    (hbefore : goesBefore le l x y = true) : y ∈ m₁ := by
  have hsorted := pairwise_mergeSort trans total l
  rw [h] at hsorted
  obtain ⟨_, hright, _⟩ := List.pairwise_append.mp hsorted
  simp only [goesBefore, Bool.and_eq_true, Bool.or_eq_true, Bool.not_eq_true',
    decide_eq_true_eq] at hbefore
  obtain ⟨hle, hbefore⟩ := hbefore
  by_contra hnot
  obtain hmem₁ | rfl | hmem₂ := by simpa using hy
  · exact hnot hmem₁
  · rcases hbefore with hbefore | hbefore
    · exact absurd (hle.symm.trans hbefore) Bool.noConfusion
    · exact absurd hbefore (Nat.lt_irrefl _)
  · have hle' := List.rel_of_pairwise_cons hright hmem₂
    rcases hbefore with hbefore | hbefore
    · exact absurd (hle'.symm.trans hbefore) Bool.noConfusion
    · have hkept := pair_sublist_mergeSort trans total hle
        (pair_sublist_of_idxOf_lt hx hbefore)
      rw [h] at hkept
      apply not_pair_sublist_of_nodup hnodup hkept
      have hpair : [x, y] <+ x :: m₂ := (List.singleton_sublist.mpr hmem₂).cons_cons x
      exact hpair.trans (List.sublist_append_right m₁ _)

/-- What is listed before an element goes before it in the order of the sort. -/
theorem goesBefore_of_mem (hnodup : (m₁ ++ x :: m₂).Nodup) (hx : x ∈ l) (hy : y ∈ l)
    (h : l.mergeSort le = m₁ ++ x :: m₂) (hmem : y ∈ m₁) : goesBefore le l x y = true := by
  have hsorted := pairwise_mergeSort trans total l
  rw [h] at hsorted
  obtain ⟨_, _, hacross⟩ := List.pairwise_append.mp hsorted
  simp only [goesBefore, Bool.and_eq_true, Bool.or_eq_true, Bool.not_eq_true',
    decide_eq_true_eq]
  refine ⟨hacross y hmem x List.mem_cons_self, ?_⟩
  by_contra hnot
  obtain ⟨hle, hlt⟩ := not_or.mp hnot
  have hle : le x y = true := eq_true_of_ne_false hle
  have hne : x ≠ y := by
    rintro rfl
    exact List.disjoint_of_nodup_append hnodup hmem List.mem_cons_self
  have hlt' : l.idxOf x < l.idxOf y := by
    apply Nat.lt_of_le_of_ne (Nat.le_of_not_lt hlt)
    intro heq
    exact hne ((List.idxOf_inj hx).mp heq)
  have hkept := pair_sublist_mergeSort trans total hle (pair_sublist_of_idxOf_lt hy hlt')
  rw [h] at hkept
  apply not_pair_sublist_of_nodup hnodup hkept
  exact (List.singleton_sublist.mpr hmem).append (List.singleton_sublist.mpr List.mem_cons_self)

theorem goesBefore_iff_of_sorted (hnodup : l.Nodup) (h : l.mergeSort le = m₁ ++ x :: m₂)
    (hy : y ∈ m₁ ++ x :: m₂) : goesBefore le l x y = true ↔ y ∈ m₁ := by
  have hsortedNodup : (m₁ ++ x :: m₂).Nodup := by
    rw [← h]
    exact (mergeSort_perm l le).nodup_iff.mpr hnodup
  have hmem : ∀ z ∈ m₁ ++ x :: m₂, z ∈ l := by
    intro z hz
    rw [← h] at hz
    exact mem_mergeSort.mp hz
  have hx : x ∈ l := hmem x (List.mem_append_right m₁ List.mem_cons_self)
  constructor
  · intro hbefore
    exact mem_of_goesBefore trans total hsortedNodup hx h hy hbefore
  · intro hmem₁
    exact goesBefore_of_mem trans total hsortedNodup hx (hmem y hy) h hmem₁

/-- An element is among those that are dropped when enough others go before it. -/
theorem mem_drop_mergeSort_iff (hnodup : l.Nodup) (hx : x ∈ l) (k : Nat) :
    x ∈ (l.mergeSort le).drop k ↔ k ≤ (l.filter (goesBefore le l x)).length := by
  have hsorted : x ∈ l.mergeSort le := mem_mergeSort.mpr hx
  obtain ⟨m₁, m₂, h⟩ := List.append_of_mem hsorted
  have hsortedNodup : (m₁ ++ x :: m₂).Nodup := by
    rw [← h]
    exact (mergeSort_perm l le).nodup_iff.mpr hnodup
  have hcount : (l.filter (goesBefore le l x)).length = m₁.length := by
    have hfilter : (m₁ ++ x :: m₂).filter (goesBefore le l x) = m₁ := by
      have hiff := fun y hy => goesBefore_iff_of_sorted trans total hnodup (y := y) h hy
      rw [List.filter_append, List.filter_eq_self.mpr, List.filter_eq_nil_iff.mpr,
        List.append_nil]
      · intro y hy hbefore
        exact List.disjoint_of_nodup_append hsortedNodup
          ((hiff y (List.mem_append_right m₁ hy)).mp hbefore) hy
      · intro y hy
        exact (hiff y (List.mem_append_left _ hy)).mpr hy
    rw [← ((mergeSort_perm l le).filter _).length_eq, h, hfilter]
  rw [h, hcount]
  constructor
  · intro hdrop
    by_contra hlt
    have hshort : (m₁ ++ [x]).length ≤ k := by
      rw [List.length_append, List.length_singleton]
      omega
    rw [← List.singleton_append, ← List.append_assoc, List.drop_append,
      List.drop_eq_nil_of_le hshort, List.nil_append] at hdrop
    have hright := (List.nodup_append.mp hsortedNodup).2.1
    exact (List.nodup_cons.mp hright).1 (List.mem_of_mem_drop hdrop)
  · intro hle
    rw [List.drop_append_of_le_length hle]
    exact List.mem_append_right _ List.mem_cons_self

end Sorted

section Greatest

variable {β κ : Type} [LinearOrder κ] {key : β → κ}

/-- The last of the elements with the greatest key. -/
def maxByKey (key : β → κ) : List β → Option β
  | [] => none
  | a :: rest =>
      match maxByKey key rest with
      | none => some a
      | some b => if key a ≤ key b then some b else some a

theorem maxByKey_eq_none_iff {l : List β} : maxByKey key l = none ↔ l = [] := by
  cases l with
  | nil => exact iff_of_true rfl rfl
  | cons a rest =>
      refine iff_of_false ?_ (List.cons_ne_nil a rest)
      rw [maxByKey]
      split
      · exact Option.some_ne_none a
      · split
        · exact Option.some_ne_none _
        · exact Option.some_ne_none a

theorem mem_of_maxByKey {l : List β} {b : β} (h : maxByKey key l = some b) : b ∈ l := by
  induction l with
  | nil => cases h
  | cons a rest ih =>
      rw [maxByKey] at h
      split at h
      · rw [Option.some.inj h]
        exact List.mem_cons_self
      · rename_i m hm
        split at h
        · exact List.mem_cons_of_mem a (ih (hm.trans h))
        · rw [Option.some.inj h]
          exact List.mem_cons_self

/-- Smaller keys after the first element leave it the greatest. -/
theorem maxByKey_cons_of_lt {rest : List β} {b : β} (h : ∀ a ∈ rest, key a < key b) :
    maxByKey key (b :: rest) = some b := by
  rw [maxByKey]
  split
  · rfl
  · rename_i m hm
    rw [if_neg (not_le.mpr (h m (mem_of_maxByKey hm)))]

/-- Keys that are not greater before the greatest element leave it the greatest. -/
theorem maxByKey_append_of_le {before rest : List β} {b : β} (hrest : maxByKey key rest = some b)
    (h : ∀ a ∈ before, key a ≤ key b) : maxByKey key (before ++ rest) = some b := by
  induction before with
  | nil => exact hrest
  | cons a before ih =>
      obtain ⟨ha, hbefore⟩ := List.forall_mem_cons.mp h
      rw [List.cons_append, maxByKey, ih hbefore]
      exact if_pos ha

theorem exists_split_of_maxByKey {l : List β} {b : β} (h : maxByKey key l = some b) :
    ∃ before after, l = before ++ b :: after ∧
      (∀ a ∈ before, key a ≤ key b) ∧ ∀ a ∈ after, key a < key b := by
  induction l generalizing b with
  | nil => cases h
  | cons a rest ih =>
      rw [maxByKey] at h
      split at h
      · rename_i hnone
        rw [maxByKey_eq_none_iff.mp hnone, Option.some.inj h]
        exact ⟨[], [], rfl, List.forall_mem_nil _, List.forall_mem_nil _⟩
      · rename_i m hm
        obtain ⟨before, after, hsplit, hbefore, hafter⟩ := ih hm
        split at h
        · rename_i ham
          rw [← Option.some.inj h]
          refine ⟨a :: before, after, ?_, List.forall_mem_cons.mpr ⟨ham, hbefore⟩, hafter⟩
          rw [hsplit, List.cons_append]
        · rename_i ham
          rw [← Option.some.inj h]
          refine ⟨[], rest, rfl, List.forall_mem_nil _, ?_⟩
          rw [hsplit, List.forall_mem_append, List.forall_mem_cons]
          have hlt := not_le.mp ham
          exact ⟨fun c hc => (hbefore c hc).trans_lt hlt, hlt,
            fun c hc => (hafter c hc).trans hlt⟩

theorem maxByKey_eq_some_iff {l : List β} {b : β} : maxByKey key l = some b ↔
    ∃ before after, l = before ++ b :: after ∧
      (∀ a ∈ before, key a ≤ key b) ∧ ∀ a ∈ after, key a < key b := by
  constructor
  · exact exists_split_of_maxByKey
  · rintro ⟨before, after, rfl, hbefore, hafter⟩
    exact maxByKey_append_of_le (maxByKey_cons_of_lt hafter) hbefore

theorem maxByKey_filter_eq_some_iff {p : β → Bool} {l : List β} {b : β} :
    maxByKey key (l.filter p) = some b ↔ ∃ before after, l = before ++ b :: after ∧ p b ∧
      (∀ a ∈ before, p a → key a ≤ key b) ∧ ∀ a ∈ after, p a → key a < key b := by
  rw [maxByKey_eq_some_iff]
  constructor
  · rintro ⟨before, after, hsplit, hbefore, hafter⟩
    obtain ⟨l₁, l₂, rfl, rfl, htail⟩ := List.filter_eq_append_iff.mp hsplit
    obtain ⟨l₃, l₄, rfl, hnone, hb, rfl⟩ := List.filter_eq_cons_iff.mp htail
    refine ⟨l₁ ++ l₃, l₄, (List.append_assoc l₁ l₃ (b :: l₄)).symm, hb, ?_, ?_⟩
    · intro a ha hp
      rcases List.mem_append.mp ha with ha | ha
      · exact hbefore a (List.mem_filter.mpr ⟨ha, hp⟩)
      · exact absurd hp (hnone a ha)
    · intro a ha hp
      exact hafter a (List.mem_filter.mpr ⟨ha, hp⟩)
  · rintro ⟨before, after, rfl, hb, hbefore, hafter⟩
    refine ⟨before.filter p, after.filter p, ?_, ?_, ?_⟩
    · rw [List.filter_append, List.filter_cons_of_pos hb]
    · intro a ha
      exact hbefore a (List.mem_filter.mp ha).1 (List.mem_filter.mp ha).2
    · intro a ha
      exact hafter a (List.mem_filter.mp ha).1 (List.mem_filter.mp ha).2

end Greatest

end Xcplane.Lib
