import Mathlib.Logic.Function.Basic
import Mathlib.Logic.Function.Iterate
import Xcplane.Lib.Trace

/-!
Threads that share a state and hold a local state each, and the rely-guarantee rule:
what every thread keeps of the shared state and of its own, and what it guarantees to
the others, holds in every interleaving.
-/

namespace Xcplane.Lib

variable {σ ι τ α : Type}

/-- A shared state and the local state of each thread. -/
structure Threads (σ ι τ : Type) where
  shared : σ
  own : ι → τ

section Steps

variable [DecidableEq ι]

/-- The thread that is scheduled acts on the shared state and its own. -/
def advance (act : ι → α → σ → τ → σ × τ) (w : Threads σ ι τ) (e : ι × α) : Threads σ ι τ where
  shared := (act e.1 e.2 w.shared (w.own e.1)).1
  own := Function.update w.own e.1 (act e.1 e.2 w.shared (w.own e.1)).2

variable {act : ι → α → σ → τ → σ × τ} {w : Threads σ ι τ} {i j : ι} {a : α}

@[simp]
theorem advance_own_self :
    (advance act w (i, a)).own i = (act i a w.shared (w.own i)).2 :=
  Function.update_self ..

theorem advance_own_of_ne (h : j ≠ i) : (advance act w (i, a)).own j = w.own j :=
  Function.update_of_ne h ..

end Steps

/-- What holds of the shared state, and of each thread together with it. -/
structure Holds (inv : σ → Prop) (assert : ι → σ → τ → Prop) (w : Threads σ ι τ) : Prop where
  shared : inv w.shared
  own : ∀ i, assert i w.shared (w.own i)

/-- A thread keeps the invariant and its own assertion and guarantees a relation between
the shared states; no assertion of another thread is lost under that relation. -/
structure Outline (act : ι → α → σ → τ → σ × τ) (P : Threads σ ι τ → ι × α → Prop)
    (inv : σ → Prop) (assert : ι → σ → τ → Prop) (guarantee : ι → σ → σ → Prop) : Prop where
  keeps : ∀ i a w, inv w.shared → assert i w.shared (w.own i) → P w (i, a) →
    inv (act i a w.shared (w.own i)).1 ∧
      assert i (act i a w.shared (w.own i)).1 (act i a w.shared (w.own i)).2 ∧
        guarantee i w.shared (act i a w.shared (w.own i)).1
  stable : ∀ i j s s' t, j ≠ i → inv s → guarantee i s s' → assert j s t → assert j s' t

section Rules

variable [DecidableEq ι] {act : ι → α → σ → τ → σ × τ} {P : Threads σ ι τ → ι × α → Prop}
  {inv : σ → Prop} {assert : ι → σ → τ → Prop} {guarantee : ι → σ → σ → Prop}
  {w : Threads σ ι τ} {e : ι × α} {events : List (ι × α)}

theorem Outline.step (h : Outline act P inv assert guarantee) (hw : Holds inv assert w)
    (he : P w e) : Holds inv assert (advance act w e) := by
  obtain ⟨i, a⟩ := e
  obtain ⟨hinv, hown, hguarantee⟩ := h.keeps i a w hw.shared (hw.own i) he
  refine ⟨hinv, ?_⟩
  intro j
  by_cases hj : j = i
  · rw [hj, advance_own_self]
    exact hown
  · rw [advance_own_of_ne hj]
    exact h.stable i j _ _ _ hj hw.shared hguarantee (hw.own j)

theorem Outline.guaranteed (h : Outline act P inv assert guarantee) (hw : Holds inv assert w)
    (he : P w e) : guarantee e.1 w.shared (advance act w e).shared :=
  (h.keeps e.1 e.2 w hw.shared (hw.own e.1) he).2.2

theorem Outline.run (h : Outline act P inv assert guarantee) (hw : Holds inv assert w)
    (hall : Along (advance act) P w events) : Holds inv assert (run (advance act) w events) :=
  run_preserves (fun _ _ hw he => h.step hw he) hw hall

/-- What each step guarantees, each step of a run has. -/
theorem Outline.along (h : Outline act P inv assert guarantee) (hw : Holds inv assert w)
    (hall : Along (advance act) P w events) :
    Along (advance act) (fun w e => inv w.shared ∧ guarantee e.1 w.shared (advance act w e).shared)
      w events :=
  along_of_inv (fun _ _ hw he => h.step hw he) (fun _ _ hw he => ⟨hw.shared, h.guaranteed hw he⟩)
    hw hall

end Rules

section Solo

variable {act : ι → α → σ → τ → σ × τ} {i : ι} {a : α} {s s' s'' : σ × τ}

/-- What one thread comes to by itself, taking one action again and again. -/
def Reaches (act : ι → α → σ → τ → σ × τ) (i : ι) (a : α) (s s' : σ × τ) : Prop :=
  ∃ n, (fun s : σ × τ => act i a s.1 s.2)^[n] s = s'

theorem Reaches.refl : Reaches act i a s s := ⟨0, rfl⟩

theorem Reaches.trans (h : Reaches act i a s s') (h' : Reaches act i a s' s'') :
    Reaches act i a s s'' := by
  obtain ⟨n, rfl⟩ := h
  obtain ⟨m, rfl⟩ := h'
  exact ⟨m + n, Function.iterate_add_apply ..⟩

theorem Reaches.step (h : act i a s.1 s.2 = s') (h' : Reaches act i a s' s'') :
    Reaches act i a s s'' := by
  obtain ⟨n, rfl⟩ := h'
  exact ⟨n + 1, by rw [Function.iterate_succ_apply, h]⟩

theorem run_replicate [DecidableEq ι] (n : Nat) (w : Threads σ ι τ) :
    run (advance act) w (List.replicate n (i, a)) =
      { shared := ((fun s : σ × τ => act i a s.1 s.2)^[n] (w.shared, w.own i)).1
        own := Function.update w.own i
          ((fun s : σ × τ => act i a s.1 s.2)^[n] (w.shared, w.own i)).2 } := by
  induction n generalizing w with
  | zero => simp [run]
  | succ n ih =>
      have hrest := ih (advance act w (i, a))
      rw [List.replicate_succ]
      show run (advance act) (advance act w (i, a)) (List.replicate n (i, a)) = _
      rw [hrest, Function.iterate_succ_apply]
      simp [advance]

theorem Reaches.run [DecidableEq ι] {w : Threads σ ι τ}
    (h : Reaches act i a (w.shared, w.own i) s) :
    ∃ n, Lib.run (advance act) w (List.replicate n (i, a)) =
      { shared := s.1, own := Function.update w.own i s.2 } := by
  obtain ⟨n, rfl⟩ := h
  exact ⟨n, run_replicate n w⟩

end Solo

/-- A step keeps the invariant and the assertion of the thread that takes it, and the
assertions of the others are not lost; for the step all assertions may be used. -/
structure Noninterference (act : ι → α → σ → τ → σ × τ) (P : Threads σ ι τ → ι × α → Prop)
    (inv : σ → Prop) (assert : ι → σ → τ → Prop) : Prop where
  keeps : ∀ i a w, Holds inv assert w → P w (i, a) →
    inv (act i a w.shared (w.own i)).1 ∧
      assert i (act i a w.shared (w.own i)).1 (act i a w.shared (w.own i)).2
  others : ∀ i j a w, j ≠ i → Holds inv assert w → P w (i, a) →
    assert j (act i a w.shared (w.own i)).1 (w.own j)

section Noninterference

variable [DecidableEq ι] {act : ι → α → σ → τ → σ × τ} {P : Threads σ ι τ → ι × α → Prop}
  {inv : σ → Prop} {assert : ι → σ → τ → Prop} {w : Threads σ ι τ} {e : ι × α}
  {events : List (ι × α)}

theorem Noninterference.step (h : Noninterference act P inv assert) (hw : Holds inv assert w)
    (he : P w e) : Holds inv assert (advance act w e) := by
  obtain ⟨i, a⟩ := e
  obtain ⟨hinv, hown⟩ := h.keeps i a w hw he
  refine ⟨hinv, ?_⟩
  intro j
  by_cases hj : j = i
  · rw [hj, advance_own_self]
    exact hown
  · rw [advance_own_of_ne hj]
    exact h.others i j a w hj hw he

theorem Noninterference.run (h : Noninterference act P inv assert) (hw : Holds inv assert w)
    (hall : Along (advance act) P w events) : Holds inv assert (run (advance act) w events) :=
  run_preserves (fun _ _ hw he => h.step hw he) hw hall

end Noninterference

end Xcplane.Lib
