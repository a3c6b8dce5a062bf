import Mathlib.Data.Nat.Digits.Defs
import Mathlib.Order.Basic

/-!
Numbers in decimal, padded to a width: their texts are ordered as they are.
-/

namespace Xcplane.Lib

section Lexicographic

variable {α : Type} [LT α]

/-- Texts that begin with blocks of one length are ordered by the blocks first. -/
theorem append_lt_append_iff {a b x y : List α} (h : a.length = b.length) :
    a ++ x < b ++ y ↔ a < b ∨ a = b ∧ x < y := by
  induction a generalizing b with
  | nil =>
      obtain rfl := List.length_eq_zero_iff.mp h.symm
      simp [List.not_lt_nil]
  | cons c a ih =>
      cases b with
      | nil => simp at h
      | cons d b =>
          rw [List.cons_append, List.cons_append, List.cons_lt_cons_iff, List.cons_lt_cons_iff,
            ih (Nat.succ.inj h), List.cons.injEq]
          tauto

end Lexicographic

/-- A number in decimal, with zeros before it. -/
def padded : Nat → Nat → List Char
  | 0, _ => []
  | width + 1, n => padded width (n / 10) ++ [Nat.digitChar (n % 10)]

@[simp] theorem length_padded (width n : Nat) : (padded width n).length = width := by
  induction width generalizing n with
  | zero => rfl
  | succ width ih => simp [padded, ih]

theorem digitChar_lt_iff : ∀ m < 10, ∀ n < 10, Nat.digitChar m < Nat.digitChar n ↔ m < n := by
  decide

theorem digitChar_inj : ∀ m < 10, ∀ n < 10, Nat.digitChar m = Nat.digitChar n → m = n := by
  decide

theorem padded_inj {width m n : Nat} (hm : m < 10 ^ width) (hn : n < 10 ^ width)
    (h : padded width m = padded width n) : m = n := by
  induction width generalizing m n with
  | zero => omega
  | succ width ih =>
      rw [Nat.pow_succ] at hm hn
      obtain ⟨hhigh, hlow⟩ := List.append_inj' h rfl
      have hlow' := digitChar_inj _ (Nat.mod_lt m (by decide)) _ (Nat.mod_lt n (by decide))
        (List.singleton_inj.mp hlow)
      have hhigh' := ih (by omega) (by omega) hhigh
      omega

theorem padded_eq_iff {width m n : Nat} (hm : m < 10 ^ width) (hn : n < 10 ^ width) :
    padded width m = padded width n ↔ m = n :=
  ⟨padded_inj hm hn, fun h => by rw [h]⟩

theorem padded_lt_iff {width m n : Nat} (hm : m < 10 ^ width) (hn : n < 10 ^ width) :
    padded width m < padded width n ↔ m < n := by
  induction width generalizing m n with
  | zero => exact iff_of_false (List.not_lt_nil _) (by omega)
  | succ width ih =>
      rw [Nat.pow_succ] at hm hn
      have hlow := digitChar_lt_iff _ (Nat.mod_lt m (by decide)) _ (Nat.mod_lt n (by decide))
      rw [padded, padded, append_lt_append_iff (by simp), ih (by omega) (by omega),
        padded_eq_iff (by omega) (by omega), List.cons_lt_cons_iff, hlow]
      simp only [List.not_lt_nil, and_false, or_false]
      omega

theorem mem_padded {width n : Nat} {c : Char} (h : c ∈ padded width n) : c.isDigit = true := by
  induction width generalizing n with
  | zero => cases h
  | succ width ih =>
      rcases List.mem_append.mp h with h | h
      · exact ih h
      · rw [List.mem_singleton.mp h]
        have hdigits : ∀ d < 10, (Nat.digitChar d).isDigit = true := by decide
        exact hdigits _ (Nat.mod_lt n (by decide))

end Xcplane.Lib
