import Mathlib.Data.List.Forall2

/-!
Computations that may fail: what an `Except` computation that ended well tells
about its parts.
-/

namespace Xcplane.Lib

variable {ε α β : Type}

def ensure (c : Bool) (e : ε) : Except ε Unit :=
  if c then .ok () else .error e

theorem bind_eq_ok_iff {x : Except ε α} {f : α → Except ε β} {b : β} :
    (x >>= f) = .ok b ↔ ∃ a, x = .ok a ∧ f a = .ok b := by
  cases x <;> simp [bind, Except.bind]

theorem ensure_bind_eq_ok_iff {c : Bool} {e : ε} {f : Unit → Except ε β} {b : β} :
    (ensure c e >>= f) = .ok b ↔ c = true ∧ f () = .ok b := by
  cases c <;> simp [ensure, bind, Except.bind]

/-- `Option::ok_or`. -/
def okOr (o : Option α) (e : ε) : Except ε α :=
  match o with
  | none => .error e
  | some a => .ok a

theorem okOr_eq_ok_iff {o : Option α} {e : ε} {a : α} : okOr o e = .ok a ↔ o = some a := by
  cases o <;> simp [okOr]

theorem okOr_error_iff {o : Option α} {e : ε} : (∃ e', okOr o e = .error e') ↔ o = none := by
  cases o <;> simp [okOr]

theorem pure_eq_ok_iff {a b : α} : (pure a : Except ε α) = .ok b ↔ a = b := by
  simp [pure, Except.pure]

theorem mapM_eq_ok_iff {f : α → Except ε β} {l : List α} {l' : List β} :
    l.mapM f = .ok l' ↔ List.Forall₂ (fun a b => f a = .ok b) l l' := by
  induction l generalizing l' with
  | nil =>
      rw [List.mapM_nil, pure_eq_ok_iff, List.forall₂_nil_left_iff]
      exact eq_comm
  | cons a l ih =>
      rw [List.mapM_cons, bind_eq_ok_iff, List.forall₂_cons_left_iff]
      constructor
      · rintro ⟨b, hb, h⟩
        obtain ⟨bs, hbs, h⟩ := bind_eq_ok_iff.mp h
        exact ⟨b, bs, hb, ih.mp hbs, (pure_eq_ok_iff.mp h).symm⟩
      · rintro ⟨b, bs, hb, hbs, rfl⟩
        exact ⟨b, hb, bind_eq_ok_iff.mpr ⟨bs, ih.mpr hbs, rfl⟩⟩

theorem exists_mapM_eq_ok {f : α → Except ε β} {l : List α} (h : ∀ a ∈ l, ∃ b, f a = .ok b) :
    ∃ l', l.mapM f = .ok l' := by
  induction l with
  | nil => exact ⟨[], rfl⟩
  | cons a l ih =>
      obtain ⟨b, hb⟩ := h a List.mem_cons_self
      obtain ⟨l', hl'⟩ := ih fun x hx => h x (List.mem_cons_of_mem a hx)
      refine ⟨b :: l', ?_⟩
      rw [mapM_eq_ok_iff] at hl' ⊢
      exact .cons hb hl'

theorem mapM_congr {f g : α → Except ε β} {l : List α} (h : ∀ a ∈ l, f a = g a) :
    l.mapM f = l.mapM g := by
  induction l with
  | nil => rfl
  | cons a l ih =>
      rw [List.mapM_cons, List.mapM_cons, h a List.mem_cons_self,
        ih fun x hx => h x (List.mem_cons_of_mem a hx)]

theorem isOk_error {e : ε} : (Except.error e : Except ε α).isOk = false := rfl

theorem isOk_ok {a : α} : (Except.ok a : Except ε α).isOk = true := rfl

theorem isOk_iff {x : Except ε α} : x.isOk = true ↔ ∃ a, x = .ok a := by
  cases x with
  | error e => simp [isOk_error]
  | ok a => simp [isOk_ok]

/-- What is no error is the value that it holds. -/
theorem eq_ok_of_isOk {x : Except ε α} (h : x.isOk = true) (d : α) :
    x = .ok (x.toOption.getD d) := by
  obtain ⟨a, rfl⟩ := isOk_iff.mp h
  rfl

end Xcplane.Lib
