import Mathlib.Data.List.Infix

/-!
Reading a stream piece by piece until what was read is enough: where the reading can end,
over all the ways in which the stream can be cut into pieces.
-/

namespace Xcplane.Lib

variable {α : Type}

/-- What successive reads return of a stream: nonempty pieces within the bound. -/
structure Cut (bound : Nat) (s : List α) (chunks : List (List α)) : Prop where
  flatten : chunks.flatten = s
  nonempty : ∀ c ∈ chunks, c ≠ []
  bounded : ∀ c ∈ chunks, c.length ≤ bound

/-- What was read when it is enough, or when the stream ended. -/
def readUntil (enough : List α → Bool) (buf : List α) : List (List α) → List α
  | [] => buf
  | c :: rest => if enough buf then buf else readUntil enough (buf ++ c) rest

/-- Reading can end after `b` elements: the last piece begins where it was not enough. -/
structure Ends (enough : List α → Bool) (bound : Nat) (s : List α) (b : Nat) : Prop where
  le : b ≤ s.length
  done : enough (s.take b) = true ∨ b = s.length
  last : b = 0 ∨ ∃ a < b, b ≤ a + bound ∧ enough (s.take a) = false

section Reading

variable {enough : List α → Bool} {bound : Nat} {s : List α} {chunks : List (List α)}

theorem readUntil_enough {buf : List α} (h : enough buf = true) :
    readUntil enough buf chunks = buf := by
  cases chunks with
  | nil => rfl
  | cons c rest => rw [readUntil, if_pos h]

theorem exists_ends_from {k : Nat} (hk : k ≤ s.length) (hrest : chunks.flatten = s.drop k)
    (hne : ∀ c ∈ chunks, c ≠ []) (hbound : ∀ c ∈ chunks, c.length ≤ bound)
    (hlast : k = 0 ∨ ∃ a < k, k ≤ a + bound ∧ enough (s.take a) = false) :
    ∃ b, Ends enough bound s b ∧ readUntil enough (s.take k) chunks = s.take b := by
  induction chunks generalizing k with
  | nil =>
      have hall : k = s.length := by
        have hlength := congrArg List.length hrest
        rw [List.flatten_nil, List.length_nil, List.length_drop] at hlength
        omega
      exact ⟨k, ⟨hk, .inr hall, hlast⟩, rfl⟩
  | cons c rest ih =>
      cases henough : enough (s.take k) with
      | true => exact ⟨k, ⟨hk, .inl henough, hlast⟩, readUntil_enough henough⟩
      | false =>
          obtain ⟨hc, hne⟩ := List.forall_mem_cons.mp hne
          obtain ⟨hcbound, hbound⟩ := List.forall_mem_cons.mp hbound
          rw [List.flatten_cons] at hrest
          have hpos := List.length_pos_iff.mpr hc
          have hlength := congrArg List.length hrest
          rw [List.length_append, List.length_drop] at hlength
          have htake : s.take k ++ c = s.take (k + c.length) := by
            rw [List.take_add, ← hrest, List.take_left]
          have hdrop : rest.flatten = s.drop (k + c.length) := by
            rw [← List.drop_drop, ← hrest, List.drop_left]
          rw [readUntil, henough, if_neg Bool.false_ne_true, htake]
          exact ih (by omega) hdrop hne hbound (.inr ⟨k, by omega, by omega, henough⟩)

theorem Cut.exists_ends (enough : List α → Bool) (h : Cut bound s chunks) :
    ∃ b, Ends enough bound s b ∧ readUntil enough [] chunks = s.take b :=
  exists_ends_from (Nat.zero_le _) h.flatten h.nonempty h.bounded (.inl rfl)

/-- The pieces of one element each. -/
def singles (s : List α) : List (List α) :=
  s.map fun a => [a]

theorem flatten_singles : (singles s).flatten = s := by
  induction s with
  | nil => rfl
  | cons a s ih =>
      rw [singles, List.map_cons, List.flatten_cons, ← singles, ih]
      rfl

theorem readUntil_singles_append {buf l : List α}
    (h : ∀ p, p <+: l → p ≠ l → enough (buf ++ p) = false) :
    readUntil enough buf (singles l ++ chunks) = readUntil enough (buf ++ l) chunks := by
  induction l generalizing buf with
  | nil =>
      rw [List.append_nil]
      rfl
  | cons a l ih =>
      have hbuf := h [] List.nil_prefix (by simp)
      rw [List.append_nil] at hbuf
      rw [singles, List.map_cons, ← singles, List.cons_append, readUntil, hbuf,
        if_neg Bool.false_ne_true, ih, List.append_assoc]
      · rfl
      · intro p hp hne
        rw [List.append_assoc]
        apply h
        · exact List.cons_prefix_cons.mpr ⟨rfl, hp⟩
        · intro heq
          exact hne (List.cons.inj heq).2

theorem Cut.append {s' : List α} {chunks' : List (List α)} (h : Cut bound s chunks)
    (h' : Cut bound s' chunks') : Cut bound (s ++ s') (chunks ++ chunks') where
  flatten := by rw [List.flatten_append, h.flatten, h'.flatten]
  nonempty := List.forall_mem_append.mpr ⟨h.nonempty, h'.nonempty⟩
  bounded := List.forall_mem_append.mpr ⟨h.bounded, h'.bounded⟩

theorem cut_singleton (hne : s ≠ []) (hbound : s.length ≤ bound) : Cut bound s [s] where
  flatten := by simp
  nonempty := by simpa using hne
  bounded := by simpa using hbound

theorem cut_singles (s : List α) (hbound : 0 < bound) : Cut bound s (singles s) where
  flatten := flatten_singles
  nonempty := by simp [singles]
  bounded := by
    intro c hc
    obtain ⟨a, _, rfl⟩ := List.mem_map.mp hc
    exact hbound

/-- What is enough stays enough as more is read. -/
def Settles (enough : List α → Bool) : Prop :=
  ∀ ⦃p l : List α⦄, p <+: l → enough p = true → enough l = true

/-- Reading does end wherever it can: the stream comes in single elements up to the last
piece. -/
theorem Ends.exists_cut (hbound : 0 < bound) (hsettles : Settles enough) {b : Nat}
    (h : Ends enough bound s b) :
    ∃ chunks, Cut bound s chunks ∧ readUntil enough [] chunks = s.take b := by
  have hend : readUntil enough (s.take b) (singles (s.drop b)) = s.take b := by
    rcases h.done with henough | hall
    · exact readUntil_enough henough
    · rw [hall, List.drop_length]
      rfl
  rcases h.last with rfl | ⟨a, hab, hba, hnot⟩
  · exact ⟨singles s, cut_singles s hbound, hend⟩
  · have htake : s.take a ++ (s.take b).drop a = s.take b := by
      conv_rhs => rw [← List.take_append_drop a (s.take b)]
      rw [List.take_take, min_eq_left (by omega)]
    refine ⟨singles (s.take a) ++ (s.take b).drop a :: singles (s.drop b), ?_, ?_⟩
    · have hlength : ((s.take b).drop a).length = b - a := by
        rw [List.length_drop, List.length_take, min_eq_left h.le]
      have hpiece : Cut bound ((s.take b).drop a) [(s.take b).drop a] :=
        cut_singleton (List.ne_nil_of_length_pos (by omega)) (by omega)
      have hcut := ((cut_singles (s.take a) hbound).append hpiece).append
        (cut_singles (s.drop b) hbound)
      rw [htake, List.take_append_drop] at hcut
      simpa using hcut
    · rw [readUntil_singles_append, List.nil_append, readUntil, hnot, if_neg Bool.false_ne_true,
        htake, hend]
      intro p hp _
      rw [List.nil_append, ← Bool.not_eq_true]
      intro hp'
      rw [hsettles hp hp'] at hnot
      cases hnot

/-- When the first `m` elements are the least that is enough, the last piece is the one
that brings the last of them. -/
theorem ends_iff {m b : Nat} (hm : 0 < m) (hle : m ≤ s.length)
    (henough : ∀ a ≤ s.length, enough (s.take a) = true ↔ m ≤ a) :
    Ends enough bound s b ↔ m ≤ b ∧ b ≤ s.length ∧ b < m + bound := by
  constructor
  · intro h
    have hmb : m ≤ b := by
      rcases h.done with hdone | rfl
      · exact (henough b h.le).mp hdone
      · exact hle
    refine ⟨hmb, h.le, ?_⟩
    rcases h.last with rfl | ⟨a, hab, hba, hnot⟩
    · omega
    · have ham : ¬ m ≤ a := by
        rw [← henough a (hab.le.trans h.le), hnot]
        exact Bool.false_ne_true
      omega
  · rintro ⟨hmb, hb, hbound⟩
    refine ⟨hb, .inl ((henough b hb).mpr hmb), .inr ⟨m - 1, by omega, by omega, ?_⟩⟩
    rw [← Bool.not_eq_true, henough (m - 1) (by omega)]
    omega

theorem Ends.eq_length {b : Nat} (h : Ends enough bound s b)
    (hnever : ∀ a ≤ s.length, enough (s.take a) = false) : b = s.length := by
  rcases h.done with hdone | hall
  · rw [hnever b h.le] at hdone
    cases hdone
  · exact hall

/-- What holds however the stream is cut holds wherever reading can end. -/
theorem forall_cut_iff (hbound : 0 < bound) (hsettles : Settles enough) {p : List α → Prop} :
    (∀ chunks, Cut bound s chunks → p (readUntil enough [] chunks)) ↔
      ∀ b, Ends enough bound s b → p (s.take b) := by
  constructor
  · intro h b hb
    obtain ⟨chunks, hcut, hread⟩ := hb.exists_cut hbound hsettles
    exact hread ▸ h chunks hcut
  · intro h chunks hcut
    obtain ⟨b, hb, hread⟩ := hcut.exists_ends enough
    exact hread ▸ h b hb

end Reading

end Xcplane.Lib
