import Mathlib.Data.List.Forall2

/-!
Lists that are related element by element.
-/

namespace Xcplane.Lib

variable {α β γ : Type} {R : α → β → Prop} {l : List α} {l' : List β}

theorem exists_left_of_mem (h : List.Forall₂ R l l') {b : β} (hb : b ∈ l') :
    ∃ a ∈ l, R a b := by
  induction h with
  | nil => simp at hb
  | @cons a b' l l' hab _ ih =>
      rcases List.mem_cons.mp hb with rfl | hb
      · exact ⟨a, List.mem_cons_self, hab⟩
      · obtain ⟨x, hx, hxb⟩ := ih hb
        exact ⟨x, List.mem_cons_of_mem a hx, hxb⟩

theorem exists_right_of_mem (h : List.Forall₂ R l l') {a : α} (ha : a ∈ l) :
    ∃ b ∈ l', R a b := by
  obtain ⟨b, hb, hab⟩ := exists_left_of_mem h.flip ha
  exact ⟨b, hb, hab⟩

theorem map_eq_of_forall₂ {f : α → γ} {g : β → γ} (h : List.Forall₂ R l l')
    (hfg : ∀ a b, R a b → f a = g b) : l.map f = l'.map g := by
  induction h with
  | nil => rfl
  | cons hab _ ih => rw [List.map_cons, List.map_cons, hfg _ _ hab, ih]

theorem forall₂_comp {S : β → γ → Prop} {T : α → γ → Prop} {l'' : List γ}
    (h : List.Forall₂ R l l') (h' : List.Forall₂ S l' l'')
    (hcomp : ∀ a b c, R a b → S b c → T a c) : List.Forall₂ T l l'' := by
  induction h generalizing l'' with
  | nil =>
      cases h'
      exact .nil
  | cons hab _ ih =>
      obtain ⟨c, rest, hbc, hrest, rfl⟩ := List.forall₂_cons_left_iff.mp h'
      exact .cons (hcomp _ _ _ hab hbc) (ih hrest)

theorem forall₂_filterMap {S : γ → β → Prop} {f : α → Option γ} (h : List.Forall₂ R l l')
    (hf : ∀ a ∈ l, ∀ b, R a b → ∃ c, f a = some c ∧ S c b) :
    List.Forall₂ S (l.filterMap f) l' := by
  induction h with
  | nil => exact .nil
  | cons hab _ ih =>
      rw [List.forall_mem_cons] at hf
      obtain ⟨c, hc, hcb⟩ := hf.1 _ hab
      rw [List.filterMap_cons_some hc]
      exact .cons hcb (ih hf.2)

end Xcplane.Lib
