import Xcplane.Lib.Trace

/-!
Writes that are made once: an attempt may stop after any of them, and the next one does
nothing where it finds that an earlier one was begun.
-/

namespace Xcplane.Lib

variable {σ ω : Type}

/-- An attempt that stops after so many writes. -/
def attemptOnce (apply : σ → ω → σ) (begun : σ → Bool) (writes : List ω) (s : σ) (stop : Nat) : σ :=
  if begun s then s else run apply s (writes.take stop)

/-- The attempt that counts: the first one that writes anything. -/
def firstStop (stops : List Nat) : Nat :=
  (stops.find? fun n => n ≠ 0).getD 0

section Rules

variable {apply : σ → ω → σ} {begun : σ → Bool} {writes : List ω} {s : σ}

theorem attempts_begun (h : begun s = true) (stops : List Nat) :
    run (attemptOnce apply begun writes) s stops = s := by
  induction stops with
  | nil => rfl
  | cons n stops ih =>
      have hnothing : attemptOnce apply begun writes s n = s := if_pos h
      calc run (attemptOnce apply begun writes) (attemptOnce apply begun writes s n) stops
        _ = run (attemptOnce apply begun writes) s stops := by rw [hnothing]
        _ = s := ih

/-- However often it is attempted, what is there is what the first attempt left that wrote
anything. -/
theorem attempts_eq (hfresh : begun s = false)
    (hbegun : ∀ n, n ≠ 0 → begun (run apply s (writes.take n)) = true) (stops : List Nat) :
    run (attemptOnce apply begun writes) s stops =
      run apply s (writes.take (firstStop stops)) := by
  induction stops with
  | nil => rfl
  | cons n stops ih =>
      have hfirst : attemptOnce apply begun writes s n = run apply s (writes.take n) :=
        if_neg (by simp [hfresh])
      show run (attemptOnce apply begun writes) (attemptOnce apply begun writes s n) stops = _
      rw [hfirst]
      rcases eq_or_ne n 0 with rfl | hn
      · exact ih
      · have hstops : firstStop (n :: stops) = n := by simp [firstStop, hn]
        rw [hstops]
        exact attempts_begun (hbegun n hn) stops

end Rules

end Xcplane.Lib
