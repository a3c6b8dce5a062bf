import Mathlib.Data.List.Nodup

/-!
Lists whose elements are pairwise distinct and not seen before: what is left to check
while each element joins those seen.
-/

namespace Xcplane.Lib

variable {α : Type} {seen l : List α} {a : α}

structure Fresh (seen l : List α) : Prop where
  nodup : l.Nodup
  unseen : ∀ a ∈ l, a ∉ seen

@[simp] theorem fresh_nil : Fresh seen [] where
  nodup := List.nodup_nil
  unseen := by simp

theorem fresh_of_none : Fresh [] l ↔ l.Nodup :=
  ⟨Fresh.nodup, fun h => ⟨h, fun _ _ => List.not_mem_nil⟩⟩

/-- The first element is unseen, and the others remain so once it is seen. -/
theorem fresh_cons : Fresh seen (a :: l) ↔ a ∉ seen ∧ Fresh (a :: seen) l := by
  constructor
  · intro h
    obtain ⟨hhead, hrest⟩ := List.nodup_cons.mp h.nodup
    refine ⟨h.unseen a List.mem_cons_self, hrest, ?_⟩
    intro b hb hmem
    rcases List.mem_cons.mp hmem with rfl | hmem
    · exact hhead hb
    · exact h.unseen b (List.mem_cons_of_mem _ hb) hmem
  · rintro ⟨hhead, h⟩
    refine ⟨List.nodup_cons.mpr ⟨?_, h.nodup⟩, ?_⟩
    · intro hmem
      exact h.unseen a hmem List.mem_cons_self
    · intro b hb
      rcases List.mem_cons.mp hb with rfl | hb
      · exact hhead
      · intro hmem
        exact h.unseen b hb (List.mem_cons_of_mem _ hmem)

end Xcplane.Lib
