import Mathlib.Data.List.Basic

/-!
Programs that may fail and keep the state that they have reached: what holds where they end
and where they fail, with the rules for sequences and for loops.
-/

namespace Xcplane.Lib

variable {ω ε α β : Type}

/-- From every state that meets `P`, the result of the program meets `Q`, and where the program
fails, the state meets `E`. -/
def Triple (P : ω → Prop) (m : EStateM ε ω α) (Q : α → ω → Prop) (E : ω → Prop) : Prop :=
  ∀ w, P w → match m w with
    | .ok a w' => Q a w'
    | .error _ w' => E w'

section Rules

variable {P P' : ω → Prop} {m : EStateM ε ω α} {f : α → EStateM ε ω β} {Q Q' : α → ω → Prop}
  {R : β → ω → Prop} {E E' : ω → Prop} {w w' : ω}

theorem Triple.ok (h : Triple P m Q E) (hw : P w) {a : α} (hm : m w = .ok a w') : Q a w' := by
  have hrun := h w hw
  rw [hm] at hrun
  exact hrun

theorem Triple.error (h : Triple P m Q E) (hw : P w) {e : ε} (hm : m w = .error e w') : E w' := by
  have hrun := h w hw
  rw [hm] at hrun
  exact hrun

theorem Triple.pure {a : α} (h : ∀ w, P w → Q a w) :
    Triple P (Pure.pure a : EStateM ε ω α) Q E :=
  h

theorem Triple.bind (hm : Triple P m Q E) (hf : ∀ a, Triple (Q a) (f a) R E) :
    Triple P (m >>= f) R E := by
  intro w hw
  have hfirst := hm w hw
  show match EStateM.bind m f w with | .ok a w' => _ | .error _ w' => _
  unfold EStateM.bind
  cases hmw : m w with
  | error e w' =>
      rw [hmw] at hfirst
      exact hfirst
  | ok a w' =>
      rw [hmw] at hfirst
      exact hf a w' hfirst

theorem Triple.weaken (hm : Triple P m Q E) (hP : ∀ w, P' w → P w)
    (hQ : ∀ a w, Q a w → Q' a w) (hE : ∀ w, E w → E' w) : Triple P' m Q' E' := by
  intro w hw
  have h := hm w (hP w hw)
  split at h
  · exact hQ _ _ h
  · exact hE _ h

/-- A loop keeps what is said of the elements done so far. -/
theorem Triple.forM {xs : List α} {g : α → EStateM ε ω PUnit} {I : List α → ω → Prop}
    (h : ∀ done x rest, xs = done ++ x :: rest →
      Triple (I done) (g x) (fun _ => I (done ++ [x])) E) :
    Triple (I []) (xs.forM g) (fun _ => I xs) E := by
  have hrest : ∀ rest done, xs = done ++ rest →
      Triple (I done) (rest.forM g) (fun _ => I xs) E := by
    intro rest
    induction rest with
    | nil =>
        intro done hxs
        rw [List.append_nil] at hxs
        rw [hxs]
        exact Triple.pure fun _ hw => hw
    | cons x rest ih =>
        intro done hxs
        show Triple (I done) (g x >>= fun _ => rest.forM g) (fun _ => I xs) E
        refine Triple.bind (h done x rest hxs) fun _ => ih (done ++ [x]) ?_
        rw [hxs, List.append_assoc, List.singleton_append]
  exact hrest xs [] rfl

/-- A loop keeps what each of its steps keeps. -/
theorem Triple.forM_keep {xs : List α} {g : α → EStateM ε ω PUnit}
    (h : ∀ x ∈ xs, Triple P (g x) (fun _ => P) E) :
    Triple P (xs.forM g) (fun _ => P) E := by
  apply Triple.forM (I := fun _ => P)
  intro done x rest hxs
  apply h
  rw [hxs]
  exact List.mem_append_right _ List.mem_cons_self

theorem Triple.bind_stop (hm : Triple P m (fun _ _ => False) E) :
    Triple P (m >>= f) (fun _ _ => False) E := by
  refine Triple.bind hm fun _ w hw => ?_
  exact hw.elim

/-- A loop that comes to a step that fails. -/
theorem Triple.forM_stop {before after : List α} {x : α} {g : α → EStateM ε ω PUnit}
    (hkeep : ∀ y ∈ before, Triple P (g y) (fun _ => P) E)
    (hstop : Triple P (g x) (fun _ _ => False) E) :
    Triple P ((before ++ x :: after).forM g) (fun _ _ => False) E := by
  rw [List.forM_eq_forM, List.forM_append]
  exact Triple.bind (Triple.forM_keep hkeep) fun _ => Triple.bind_stop hstop

theorem Triple.fails (h : Triple P m (fun _ _ => False) E) (hw : P w) :
    ∃ e w', m w = .error e w' ∧ E w' := by
  cases hm : m w with
  | ok a w' => exact (h.ok hw hm).elim
  | error e w' => exact ⟨e, w', rfl, h.error hw hm⟩

end Rules

end Xcplane.Lib
