import Mathlib.Data.List.Basic

/-!
Sequences of tasks that may stop at any point: the state that the tasks done so far
lead to, and rules for what holds wherever a sequence stops.
-/

namespace Xcplane.Lib

variable {σ τ : Type}

/-- The state after the tasks, if each of them succeeds. -/
def attempt (step : τ → σ → Option σ) : σ → List τ → Option σ
  | s, [] => some s
  | s, t :: tasks => (step t s).bind fun s' => attempt step s' tasks

section Rules

variable {step : τ → σ → Option σ} {s s' : σ} {t : τ}
  {tasks before after done : List τ}

theorem attempt_cons_eq_some_iff :
    attempt step s (t :: tasks) = some s' ↔
      ∃ m, step t s = some m ∧ attempt step m tasks = some s' :=
  Option.bind_eq_some_iff

theorem attempt_append_eq_some_iff :
    attempt step s (before ++ after) = some s' ↔
      ∃ m, attempt step s before = some m ∧ attempt step m after = some s' := by
  induction before generalizing s with
  | nil => simp [attempt]
  | cons t before ih =>
      rw [List.cons_append, attempt_cons_eq_some_iff]
      constructor
      · rintro ⟨m, hm, h⟩
        obtain ⟨m', hm', h⟩ := ih.mp h
        exact ⟨m', attempt_cons_eq_some_iff.mpr ⟨m, hm, hm'⟩, h⟩
      · rintro ⟨m', hm', h⟩
        obtain ⟨m, hm, hm'⟩ := attempt_cons_eq_some_iff.mp hm'
        exact ⟨m, hm, ih.mpr ⟨m', hm', h⟩⟩

/-- A sequence that succeeds succeeds up to every point of it. -/
theorem exists_attempt_of_prefix (hdone : done <+: tasks) (h : attempt step s tasks = some s') :
    ∃ m, attempt step s done = some m := by
  obtain ⟨rest, rfl⟩ := hdone
  obtain ⟨m, hm, _⟩ := attempt_append_eq_some_iff.mp h
  exact ⟨m, hm⟩

/-- What every task keeps holds wherever the tasks stop. -/
theorem attempt_preserves (inv : σ → Prop)
    (hstep : ∀ t ∈ tasks, ∀ s s', inv s → step t s = some s' → inv s') (hs : inv s)
    (hdone : done <+: tasks) (h : attempt step s done = some s') : inv s' := by
  induction done generalizing s tasks with
  | nil =>
      cases h
      exact hs
  | cons t done ih =>
      obtain ⟨m, hm, hrest⟩ := attempt_cons_eq_some_iff.mp h
      obtain ⟨rest, rfl⟩ := hdone
      have hmem : t ∈ t :: done ++ rest := List.mem_cons_self
      have hkept : ∀ u ∈ done ++ rest, ∀ s s', inv s → step u s = some s' → inv s' :=
        fun u hu => hstep u (List.mem_cons_of_mem t hu)
      exact ih hkept (hstep t hmem s m hs hm) (List.prefix_append done rest) hrest

theorem prefix_append_iff :
    done <+: before ++ after ↔
      done <+: before ∨ ∃ rest, rest <+: after ∧ done = before ++ rest := by
  constructor
  · intro h
    rcases List.prefix_or_prefix_of_prefix h (List.prefix_append before after) with h' | h'
    · exact .inl h'
    · obtain ⟨rest, rfl⟩ := h'
      exact .inr ⟨rest, (List.prefix_append_right_inj before).mp h, rfl⟩
  · rintro (h | ⟨rest, h, rfl⟩)
    · exact h.trans (List.prefix_append before after)
    · exact (List.prefix_append_right_inj before).mpr h

/-- Two sequences stop in the first one, or in the second one after its first task. -/
theorem prefix_append_cons (h : done <+: before ++ t :: after) :
    done <+: before ∨ ∃ rest, rest <+: after ∧ done = before ++ t :: rest := by
  rcases prefix_append_iff.mp h with h | ⟨rest, hrest, rfl⟩
  · exact .inl h
  · rcases List.prefix_cons_iff.mp hrest with rfl | ⟨rest', rfl, hrest'⟩
    · rw [List.append_nil]
      exact .inl (List.prefix_refl before)
    · exact .inr ⟨rest', hrest', rfl⟩

end Rules

end Xcplane.Lib
