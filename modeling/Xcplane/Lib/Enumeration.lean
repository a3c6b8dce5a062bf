import Mathlib.Data.List.Dedup
import Mathlib.Data.List.Perm.Lattice

/-!
Iteration over a set in an order that is not specified: a list that holds every
element of the set once.
-/

namespace Xcplane.Lib

variable {α : Type}

structure Enumerates (l : List α) (p : α → Prop) : Prop where
  nodup : l.Nodup
  mem_iff : ∀ a, a ∈ l ↔ p a

namespace Enumerates

variable {l l' : List α} {p : α → Prop}

theorem dedup [DecidableEq α] (l : List α) : Enumerates l.dedup (· ∈ l) where
  nodup := List.nodup_dedup l
  mem_iff _ := List.mem_dedup

/-- Any element may come first. -/
theorem exists_cons [DecidableEq α] (h : Enumerates l p) {a : α} (ha : p a) :
    ∃ rest, Enumerates (a :: rest) p := by
  have hperm : l.Perm (a :: l.erase a) := List.perm_cons_erase ((h.mem_iff a).mpr ha)
  refine ⟨l.erase a, hperm.nodup_iff.mp h.nodup, ?_⟩
  intro b
  rw [← hperm.mem_iff]
  exact h.mem_iff b

theorem perm (h : Enumerates l p) (h' : Enumerates l' p) : l.Perm l' :=
  (List.perm_ext_iff_of_nodup h.nodup h'.nodup).mpr fun a =>
    (h.mem_iff a).trans (h'.mem_iff a).symm

end Enumerates

end Xcplane.Lib
