import Mathlib.Data.List.Basic

/-!
Stores in which things are created and never removed: how often a run creates what is only
created where it is missing, and rules for programs that create things in such a store.
-/

namespace Xcplane.Lib

section Runs

variable {σ ε : Type}

/-- The creations that lead from one store to another. -/
inductive Makes (made : σ → ε → σ → Prop) : σ → List ε → σ → Prop
  | nil (s : σ) : Makes made s [] s
  | cons {s s' s'' : σ} {e : ε} {es : List ε} :
      made s e s' → Makes made s' es s'' → Makes made s (e :: es) s''

variable {made : σ → ε → σ → Prop} {s s' s'' : σ} {e : ε} {es es' : List ε}

theorem Makes.single (h : made s e s') : Makes made s [e] s' :=
  .cons h (.nil s')

theorem Makes.append (h : Makes made s es s') (h' : Makes made s' es' s'') :
    Makes made s (es ++ es') s'' := by
  induction h with
  | nil s => exact h'
  | cons hmade _ ih => exact .cons hmade (ih h')

theorem Makes.preserves {P : σ → Prop} (hkeep : ∀ s e s', made s e s' → P s → P s')
    (h : Makes made s es s') (hs : P s) : P s' := by
  induction h with
  | nil s => exact hs
  | cons hmade _ ih => exact ih (hkeep _ _ _ hmade hs)

variable {present : σ → Prop} {kind : ε → Bool}

theorem Makes.countP_eq_zero (hkeep : ∀ s e s', made s e s' → present s → present s')
    (hmissing : ∀ s e s', made s e s' → kind e = true → ¬ present s)
    (h : Makes made s es s') (hs : present s) : es.countP kind = 0 := by
  induction h with
  | nil s => rfl
  | cons hmade _ ih =>
      rw [List.countP_cons_of_neg]
      · exact ih (hkeep _ _ _ hmade hs)
      · intro hkind
        exact hmissing _ _ _ hmade hkind hs

/-- What is created only where it is missing, and then is there, is created once. -/
theorem Makes.countP_le_one (hkeep : ∀ s e s', made s e s' → present s → present s')
    (hmissing : ∀ s e s', made s e s' → kind e = true → ¬ present s)
    (hthere : ∀ s e s', made s e s' → kind e = true → present s')
    (h : Makes made s es s') : es.countP kind ≤ 1 := by
  induction h with
  | nil s => exact Nat.zero_le 1
  | @cons s s' s'' e es hmade hrest ih =>
      by_cases hkind : kind e = true
      · have hnone := hrest.countP_eq_zero hkeep hmissing (hthere _ _ _ hmade hkind)
        rw [List.countP_cons_of_pos hkind]
        exact Nat.le_of_eq (congrArg (· + 1) hnone)
      · rw [List.countP_cons_of_neg hkind]
        exact ih

theorem Makes.eq_of_nothing (hnothing : ∀ s e s', ¬ made s e s') (h : Makes made s es s') :
    s' = s := by
  cases h with
  | nil _ => rfl
  | cons hmade _ => exact absurd hmade (hnothing _ _ _)

end Runs

section Programs

variable {σ ε ω β α α' : Type}

/-- From every state that meets `P`, all that the program does to the store is to create
things. Its result meets `Q`, and where it fails, the state meets `E`. -/
def Grows (made : σ → ε → σ → Prop) (store : ω → σ) (P : ω → Prop) (m : EStateM β ω α)
    (Q : α → ω → Prop) (E : ω → Prop) : Prop :=
  ∀ w, P w → match m w with
    | .ok a w' => (∃ es, Makes made (store w) es (store w')) ∧ Q a w'
    | .error _ w' => (∃ es, Makes made (store w) es (store w')) ∧ E w'

variable {made : σ → ε → σ → Prop} {store : ω → σ} {P P' : ω → Prop} {m : EStateM β ω α}
  {f : α → EStateM β ω α'} {Q Q' : α → ω → Prop} {R : α' → ω → Prop} {E E' : ω → Prop}

theorem Grows.pure {a : α} (h : ∀ w, P w → Q a w) :
    Grows made store P (Pure.pure a : EStateM β ω α) Q E :=
  fun w hw => ⟨⟨[], .nil _⟩, h w hw⟩

theorem Grows.bind (hm : Grows made store P m Q E)
    (hf : ∀ a, Grows made store (Q a) (f a) R E) : Grows made store P (m >>= f) R E := by
  intro w hw
  have hfirst := hm w hw
  show match EStateM.bind m f w with | .ok a w' => _ | .error _ w' => _
  unfold EStateM.bind
  cases hmw : m w with
  | error e w' =>
      rw [hmw] at hfirst
      exact hfirst
  | ok a w' =>
      rw [hmw] at hfirst
      obtain ⟨⟨es, hes⟩, hQ⟩ := hfirst
      have hsecond := hf a w' hQ
      dsimp only at hsecond ⊢
      split at hsecond
      · obtain ⟨⟨es', hes'⟩, hR⟩ := hsecond
        exact ⟨⟨es ++ es', hes.append hes'⟩, hR⟩
      · obtain ⟨⟨es', hes'⟩, hE⟩ := hsecond
        exact ⟨⟨es ++ es', hes.append hes'⟩, hE⟩

theorem Grows.weaken (hm : Grows made store P m Q E) (hP : ∀ w, P' w → P w)
    (hQ : ∀ a w, Q a w → Q' a w) (hE : ∀ w, E w → E' w) : Grows made store P' m Q' E' := by
  intro w hw
  have h := hm w (hP w hw)
  split at h
  · exact ⟨h.1, hQ _ _ h.2⟩
  · exact ⟨h.1, hE _ h.2⟩

/-- What no creation undoes still holds after the program. -/
theorem Grows.frame {R : σ → Prop} (hkeep : ∀ s e s', made s e s' → R s → R s')
    (hm : Grows made store P m Q E) :
    Grows made store (fun w => P w ∧ R (store w)) m (fun a w => Q a w ∧ R (store w))
      (fun w => E w ∧ R (store w)) := by
  rintro w ⟨hw, hR⟩
  have h := hm w hw
  split at h
  · obtain ⟨⟨es, hes⟩, hQ⟩ := h
    exact ⟨⟨es, hes⟩, hQ, hes.preserves hkeep hR⟩
  · obtain ⟨⟨es, hes⟩, hE⟩ := h
    exact ⟨⟨es, hes⟩, hE, hes.preserves hkeep hR⟩

end Programs

end Xcplane.Lib
