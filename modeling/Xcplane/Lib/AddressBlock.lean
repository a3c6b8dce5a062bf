import Mathlib.Algebra.Ring.Nat
import Mathlib.Data.Nat.Basic

/-!
Blocks of addresses of a fixed width that share their first bits, and the masks with which
a segment of an address is compared.
-/

namespace Xcplane.Lib

/-- The addresses whose first `length` bits are those of `base`, in which the other bits
are zero. -/
structure AddressBlock (w : Nat) where
  base : BitVec w
  length : Nat
  aligned : base.toNat % 2 ^ (w - length) = 0

namespace AddressBlock

variable {w : Nat}

instance : Membership (BitVec w) (AddressBlock w) where
  mem block x := x.toNat / 2 ^ (w - block.length) = block.base.toNat / 2 ^ (w - block.length)

instance (x : BitVec w) (block : AddressBlock w) : Decidable (x ∈ block) :=
  inferInstanceAs (Decidable (_ = _))

theorem mul_div_lt (n k : Nat) (h : n < 2 ^ w) : n / 2 ^ k * 2 ^ k < 2 ^ w :=
  lt_of_le_of_lt (Nat.div_mul_le_self n (2 ^ k)) h

/-- The block of an address: the bits behind the first `length` are cleared. -/
def around (x : BitVec w) (length : Nat) : AddressBlock w where
  base := .ofNatLT (x.toNat / 2 ^ (w - length) * 2 ^ (w - length)) (mul_div_lt _ _ x.isLt)
  length := length
  aligned := Nat.mul_mod_left _ _

theorem mem_around (x y : BitVec w) (length : Nat) :
    y ∈ around x length ↔ y.toNat / 2 ^ (w - length) = x.toNat / 2 ^ (w - length) := by
  change y.toNat / _ = x.toNat / 2 ^ (w - length) * 2 ^ (w - length) / 2 ^ (w - length) ↔ _
  rw [Nat.mul_div_cancel _ (Nat.two_pow_pos _)]
  exact Iff.rfl

/-- The numbers with the quotient of an aligned one. -/
theorem div_eq_div_iff {n base size : Nat} (haligned : base % size = 0) (hsize : 0 < size) :
    n / size = base / size ↔ base ≤ n ∧ n < base + size := by
  have hbase := Nat.div_add_mod base size
  rw [haligned, Nat.add_zero] at hbase
  rw [Nat.div_eq_iff hsize, Nat.mul_comm, hbase]
  omega

theorem div_eq_iff_div_mod {m n : Nat} (j u : Nat) (hju : j ≤ u) :
    m / 2 ^ j = n / 2 ^ j ↔
      m / 2 ^ u = n / 2 ^ u ∧ m % 2 ^ u / 2 ^ j = n % 2 ^ u / 2 ^ j := by
  have hsplit (k : Nat) : k / 2 ^ j = 2 ^ (u - j) * (k / 2 ^ u) + k % 2 ^ u / 2 ^ j ∧
      k % 2 ^ u / 2 ^ j < 2 ^ (u - j) := by
    have hpow : 2 ^ u = 2 ^ j * 2 ^ (u - j) := by
      rw [← Nat.pow_add, Nat.add_sub_cancel' hju]
    constructor
    · calc k / 2 ^ j
          = (2 ^ j * (2 ^ (u - j) * (k / 2 ^ u)) + k % 2 ^ u) / 2 ^ j := by
            rw [← Nat.mul_assoc, ← hpow, Nat.div_add_mod]
        _ = 2 ^ (u - j) * (k / 2 ^ u) + k % 2 ^ u / 2 ^ j :=
            Nat.mul_add_div (Nat.two_pow_pos j) _ _
    · apply Nat.div_lt_of_lt_mul
      rw [← hpow]
      exact Nat.mod_lt _ (Nat.two_pow_pos u)
  obtain ⟨hm, hm'⟩ := hsplit m
  obtain ⟨hn, hn'⟩ := hsplit n
  constructor
  · intro h
    rw [hm, hn] at h
    have hquot : m / 2 ^ u = n / 2 ^ u := by
      have := congrArg (· / 2 ^ (u - j)) h
      simpa only [Nat.mul_add_div (Nat.two_pow_pos _), Nat.div_eq_of_lt hm',
        Nat.div_eq_of_lt hn', Nat.add_zero] using this
    exact ⟨hquot, by rw [hquot] at h; omega⟩
  · rintro ⟨hquot, hrest⟩
    rw [hm, hn, hquot, hrest]

/-- A block whose length ends in the `u` bits that follow the lowest `k`: those above are
equal, and of those the values are in a range. -/
theorem mem_around_unit {x y : BitVec w} {length : Nat} (k u j : Nat) (hju : j ≤ u)
    (hlength : w - length = k + j) (haligned : x.toNat / 2 ^ k % 2 ^ u % 2 ^ j = 0) :
    y ∈ around x length ↔ y.toNat / 2 ^ (k + u) = x.toNat / 2 ^ (k + u) ∧
      x.toNat / 2 ^ k % 2 ^ u ≤ y.toNat / 2 ^ k % 2 ^ u ∧
        y.toNat / 2 ^ k % 2 ^ u < x.toNat / 2 ^ k % 2 ^ u + 2 ^ j := by
  rw [mem_around, hlength, Nat.pow_add, ← Nat.div_div_eq_div_mul, ← Nat.div_div_eq_div_mul,
    div_eq_iff_div_mod j u hju, div_eq_div_iff haligned (Nat.two_pow_pos j), Nat.pow_add,
    Nat.div_div_eq_div_mul, Nat.div_div_eq_div_mul]

end AddressBlock

/-- A mask that keeps the highest bits of a segment. -/
theorem and_highMask {w : Nat} (k s : Nat) (hk : k ≤ w) (hs : s < 2 ^ w) :
    s &&& (2 ^ w - 2 ^ k) = s / 2 ^ k * 2 ^ k := by
  have hmask : 2 ^ w - 2 ^ k = (2 ^ (w - k) - 1) * 2 ^ k := by
    rw [Nat.sub_mul, ← Nat.pow_add, Nat.sub_add_cancel hk, Nat.one_mul]
  have hhigh : s / 2 ^ k < 2 ^ (w - k) := by
    apply Nat.div_lt_of_lt_mul
    rwa [← Nat.pow_add, Nat.add_sub_cancel' hk]
  have hlow : (s &&& (2 ^ w - 2 ^ k)) % 2 ^ k = 0 := by
    rw [Nat.and_mod_two_pow, hmask, Nat.mul_mod_left, Nat.and_zero]
  have hquot : (s &&& (2 ^ w - 2 ^ k)) / 2 ^ k = s / 2 ^ k := by
    rw [Nat.and_div_two_pow, hmask, Nat.mul_div_cancel _ (Nat.two_pow_pos k),
      Nat.and_two_pow_sub_one_of_lt_two_pow hhigh]
  calc s &&& (2 ^ w - 2 ^ k)
      = 2 ^ k * ((s &&& (2 ^ w - 2 ^ k)) / 2 ^ k) + (s &&& (2 ^ w - 2 ^ k)) % 2 ^ k :=
        (Nat.div_add_mod _ _).symm
    _ = s / 2 ^ k * 2 ^ k := by rw [hlow, hquot, Nat.add_zero, Nat.mul_comm]

end Xcplane.Lib
