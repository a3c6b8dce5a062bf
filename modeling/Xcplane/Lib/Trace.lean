import Mathlib.Data.List.Basic

/-!
Runs of a system that takes one step for each event: conditions on every step of
a run, and the rule that carries an invariant along it.
-/

namespace Xcplane.Lib

variable {σ ε : Type}

def run (step : σ → ε → σ) (s : σ) (events : List ε) : σ :=
  events.foldl step s

/-- Every step of the run satisfies the condition. -/
def Along (step : σ → ε → σ) (P : σ → ε → Prop) : σ → List ε → Prop
  | _, [] => True
  | s, e :: events => P s e ∧ Along step P (step s e) events

instance Along.decidable {step : σ → ε → σ} {P : σ → ε → Prop}
    [∀ s e, Decidable (P s e)] : ∀ s events, Decidable (Along step P s events)
  | _, [] => isTrue trivial
  | s, e :: events =>
      have : Decidable (Along step P (step s e) events) := Along.decidable (step s e) events
      inferInstanceAs (Decidable (P s e ∧ Along step P (step s e) events))

section Rules

variable {step : σ → ε → σ} {P Q : σ → ε → Prop} {inv : σ → Prop} {s : σ} {events : List ε}

/-- What every step that satisfies the condition preserves holds at the end. -/
theorem run_preserves (hstep : ∀ s e, inv s → P s e → inv (step s e)) (hs : inv s)
    (h : Along step P s events) : inv (run step s events) := by
  induction events generalizing s with
  | nil => exact hs
  | cons e events ih => exact ih (hstep s e hs h.1) h.2

theorem run_preserves_always (hstep : ∀ s e, inv s → inv (step s e)) (hs : inv s) :
    inv (run step s events) := by
  induction events generalizing s with
  | nil => exact hs
  | cons e events ih => exact ih (hstep s e hs)

theorem along_and (hP : Along step P s events) (hQ : Along step Q s events) :
    Along step (fun s e => P s e ∧ Q s e) s events := by
  induction events generalizing s with
  | nil => trivial
  | cons e events ih => exact ⟨⟨hP.1, hQ.1⟩, ih hP.2 hQ.2⟩

theorem along_append_iff {later : List ε} : Along step P s (events ++ later) ↔
    Along step P s events ∧ Along step P (run step s events) later := by
  induction events generalizing s with
  | nil => simp [Along, run]
  | cons e events ih =>
      simp only [List.cons_append, Along, ih, and_assoc]
      rfl

theorem along_imp (himp : ∀ s e, P s e → Q s e) (h : Along step P s events) :
    Along step Q s events := by
  induction events generalizing s with
  | nil => trivial
  | cons e events ih => exact ⟨himp s e h.1, ih h.2⟩

theorem along_of_forall (h : ∀ e ∈ events, ∀ s, P s e) : Along step P s events := by
  induction events generalizing s with
  | nil => trivial
  | cons e events ih =>
      exact ⟨h e List.mem_cons_self s, ih fun e' he' => h e' (List.mem_cons_of_mem e he')⟩

/-- A condition that keeps an invariant gives what each step has from the invariant. -/
theorem along_of_inv (hstep : ∀ s e, inv s → P s e → inv (step s e))
    (hQ : ∀ s e, inv s → P s e → Q s e) (hs : inv s) (h : Along step P s events) :
    Along step Q s events := by
  induction events generalizing s with
  | nil => trivial
  | cons e events ih => exact ⟨hQ s e hs h.1, ih (hstep s e hs h.1) h.2⟩

/-- Where the steps that meet a condition keep an invariant, and under the invariant a
step has a property exactly when it meets the condition, so have all steps of a run. -/
theorem along_iff_of_inv {C : σ → ε → Prop}
    (hinv : ∀ s e, inv s → P s e → C s e → inv (step s e))
    (hstep : ∀ s e, inv s → P s e → (Q s e ↔ C s e)) (hs : inv s) (h : Along step P s events) :
    Along step Q s events ↔ Along step C s events := by
  induction events generalizing s with
  | nil => exact Iff.rfl
  | cons e events ih =>
      have hiff := hstep s e hs h.1
      constructor
      · rintro ⟨hQ, hrest⟩
        exact ⟨hiff.mp hQ, (ih (hinv s e hs h.1 (hiff.mp hQ)) h.2).mp hrest⟩
      · rintro ⟨hC, hrest⟩
        exact ⟨hiff.mpr hC, (ih (hinv s e hs h.1 hC) h.2).mpr hrest⟩

/-- Where a step keeps what is good exactly under a condition, a run keeps it at
every step exactly when every step meets the condition. -/
theorem along_good_iff {good : σ → Prop} {C : σ → ε → Prop}
    (hinv : ∀ s e, inv s → P s e → inv (step s e))
    (hstep : ∀ s e, inv s → P s e → good s → (good (step s e) ↔ C s e)) (hs : inv s)
    (hgood : good s) (h : Along step P s events) :
    Along step (fun s e => good (step s e)) s events ↔ Along step C s events := by
  have hkeep : ∀ s e, (fun s => inv s ∧ good s) s → P s e → C s e →
      (fun s => inv s ∧ good s) (step s e) :=
    fun s e hboth hP hC => ⟨hinv s e hboth.1 hP, (hstep s e hboth.1 hP hboth.2).mpr hC⟩
  exact along_iff_of_inv hkeep (fun s e hboth hP => hstep s e hboth.1 hP hboth.2) ⟨hs, hgood⟩ h

theorem along_good_iff_always {good : σ → Prop} {C : σ → ε → Prop}
    (hstep : ∀ s e, good s → (good (step s e) ↔ C s e)) (hgood : good s) :
    Along step (fun s e => good (step s e)) s events ↔ Along step C s events := by
  have hinv : ∀ s e, (fun _ : σ => True) s → (fun _ _ => True) s e →
      (fun _ : σ => True) (step s e) :=
    fun _ _ _ _ => trivial
  have hall : Along step (fun _ _ => True) s events := along_of_forall fun _ _ _ => trivial
  exact along_good_iff hinv (fun s e _ _ => hstep s e) trivial hgood hall

end Rules

end Xcplane.Lib
