import Mathlib.Data.List.Basic
import Mathlib.Logic.Basic
import Xcplane.Lib.Result

/-!
Writes that settle. Executing one establishes what it is for, and changes nothing
where that already holds. A sequence whose later writes do not undo the earlier
ones then leaves a state as it was only if every write was settled in it.
-/

namespace Xcplane.Lib

variable {σ τ ε : Type}

/-- `settled w s` says that the state has what the write `w` is for. -/
structure Settling (exec : τ → σ → Except ε σ) (settled : τ → σ → Prop) (same : σ → σ → Prop) :
    Prop where
  equivalence : Equivalence same
  congr : ∀ w s s', same s s' → settled w s' → settled w s
  establishes : ∀ w s s', exec w s = .ok s' → settled w s'
  unchanged : ∀ w s s', settled w s → exec w s = .ok s' → same s s'

/-- Executing `w'` does not undo `w`. -/
def Leaves (exec : τ → σ → Except ε σ) (settled : τ → σ → Prop) (w w' : τ) : Prop :=
  ∀ s s', settled w s → exec w' s = .ok s' → settled w s'

section Rules

variable {exec : τ → σ → Except ε σ} {settled : τ → σ → Prop} {same : σ → σ → Prop}
  {writes : List τ} {s s' : σ}

theorem settled_of_leaves {w : τ} (hw : ∀ w' ∈ writes, Leaves exec settled w w')
    (hs : settled w s) (h : writes.foldlM (fun s w => exec w s) s = .ok s') : settled w s' := by
  induction writes generalizing s with
  | nil =>
      cases h
      exact hs
  | cons x rest ih =>
      rw [List.foldlM_cons] at h
      obtain ⟨s₁, hs₁, h⟩ := bind_eq_ok_iff.mp h
      rw [List.forall_mem_cons] at hw
      exact ih hw.2 (hw.1 s s₁ hs hs₁) h

theorem Settling.settled_of_pairwise (hset : Settling exec settled same)
    (hw : writes.Pairwise (Leaves exec settled))
    (h : writes.foldlM (fun s w => exec w s) s = .ok s') : ∀ w ∈ writes, settled w s' := by
  induction writes generalizing s with
  | nil => simp
  | cons x rest ih =>
      rw [List.foldlM_cons] at h
      obtain ⟨s₁, hs₁, h⟩ := bind_eq_ok_iff.mp h
      rw [List.pairwise_cons] at hw
      rw [List.forall_mem_cons]
      exact ⟨settled_of_leaves hw.1 (hset.establishes x s s₁ hs₁) h, ih hw.2 h⟩

theorem Settling.same_of_settled (hset : Settling exec settled same)
    (hs : ∀ w ∈ writes, settled w s)
    (h : writes.foldlM (fun s w => exec w s) s = .ok s') : same s s' := by
  induction writes generalizing s with
  | nil =>
      cases h
      exact hset.equivalence.refl _
  | cons x rest ih =>
      rw [List.foldlM_cons] at h
      obtain ⟨s₁, hs₁, h⟩ := bind_eq_ok_iff.mp h
      rw [List.forall_mem_cons] at hs
      have hsame : same s s₁ := hset.unchanged x s s₁ hs.1 hs₁
      have hrest : ∀ w ∈ rest, settled w s₁ := fun w hw =>
        hset.congr w s₁ s (hset.equivalence.symm hsame) (hs.2 w hw)
      exact hset.equivalence.trans hsame (ih hrest h)

/-- The sequence leaves the state as it was exactly when each of its writes was
settled from the beginning. -/
theorem Settling.same_iff (hset : Settling exec settled same)
    (hw : writes.Pairwise (Leaves exec settled))
    (h : writes.foldlM (fun s w => exec w s) s = .ok s') :
    same s s' ↔ ∀ w ∈ writes, settled w s := by
  constructor
  · intro hsame w hmem
    exact hset.congr w s s' hsame (hset.settled_of_pairwise hw h w hmem)
  · intro hs
    exact hset.same_of_settled hs h

end Rules

end Xcplane.Lib
