import Mathlib.Data.List.Infix

/-!
Occurrences of a pattern in a text: in two texts that agree up to stretches that no
occurrence can touch, and in the beginnings of one text.
-/

namespace Xcplane.Lib

variable {α : Type} {pat : List α}

section Aligned

/-- No occurrence of the pattern ends within the stretch or goes beyond its end. -/
structure Untouched (pat xs : List α) : Prop where
  nonempty : xs ≠ []
  ending : ∀ x ∈ pat.getLast?, x ∉ xs
  beyond : ∀ x ∈ xs.getLast?, x ∉ pat

/-- The texts agree up to such stretches. -/
inductive Aligned (pat : List α) : List α → List α → Prop
  | nil : Aligned pat [] []
  | same (a : α) {l l' : List α} (h : Aligned pat l l') : Aligned pat (a :: l) (a :: l')
  | stretch {xs ys l l' : List α} (hx : Untouched pat xs) (hy : Untouched pat ys)
      (h : Aligned pat l l') : Aligned pat (xs ++ l) (ys ++ l')

theorem untouched_of_notMem {xs : List α} (hne : xs ≠ []) (h : ∀ x ∈ xs, x ∉ pat) :
    Untouched pat xs where
  nonempty := hne
  ending x hx hmem := h x hmem (List.mem_of_getLast? hx)
  beyond x hx := h x (List.mem_of_getLast? hx)

theorem Untouched.tail {x : α} {xs : List α} (h : Untouched pat (x :: xs)) (hxs : xs ≠ []) :
    Untouched pat xs where
  nonempty := hxs
  ending a ha hmem := h.ending a ha (List.mem_cons_of_mem _ hmem)
  beyond a ha := h.beyond a (by rw [List.getLast?_cons_of_ne_nil hxs]; exact ha)

theorem not_prefix_untouched {suf xs l : List α} (hsuf : suf <:+ pat) (hne : suf ≠ [])
    (hx : Untouched pat xs) : ¬ suf <+: xs ++ l := by
  intro hbegins
  have hlast : suf.getLast? = pat.getLast? := by
    obtain ⟨before, rfl⟩ := hsuf
    rw [List.getLast?_append_of_ne_nil _ hne]
  rcases List.prefix_or_prefix_of_prefix hbegins (List.prefix_append xs l) with hxs | hxs
  · have hmem := hxs.subset (List.getLast_mem hne)
    exact hx.ending _ (hlast ▸ List.getLast?_eq_some_getLast hne) hmem
  · exact hx.beyond _ (List.getLast?_eq_some_getLast hx.nonempty)
      (hsuf.subset (hxs.subset (List.getLast_mem hx.nonempty)))

theorem Aligned.prefix_iff {l l' suf : List α} (h : Aligned pat l l') (hsuf : suf <:+ pat) :
    suf <+: l ↔ suf <+: l' := by
  induction h generalizing suf with
  | nil => exact Iff.rfl
  | same a _ ih =>
      cases suf with
      | nil => exact iff_of_true List.nil_prefix List.nil_prefix
      | cons b rest =>
          rw [List.cons_prefix_cons, List.cons_prefix_cons,
            ih ((List.suffix_cons b rest).trans hsuf)]
  | stretch hx hy _ _ =>
      by_cases hne : suf = []
      · rw [hne]
        exact iff_of_true List.nil_prefix List.nil_prefix
      · exact iff_of_false (not_prefix_untouched hsuf hne hx) (not_prefix_untouched hsuf hne hy)

theorem infix_untouched_append {xs l : List α} (hpat : pat ≠ []) (hx : Untouched pat xs) :
    pat <:+: xs ++ l ↔ pat <:+: l := by
  induction xs with
  | nil => exact absurd rfl hx.nonempty
  | cons x xs ih =>
      rw [List.cons_append, List.infix_cons_iff, ← List.cons_append,
        or_iff_right (not_prefix_untouched List.suffix_rfl hpat hx)]
      by_cases hxs : xs = []
      · rw [hxs, List.nil_append]
      · exact ih (hx.tail hxs)

/-- The pattern occurs in both texts or in none. -/
theorem Aligned.infix_iff {l l' : List α} (h : Aligned pat l l') (hpat : pat ≠ []) :
    pat <:+: l ↔ pat <:+: l' := by
  induction h with
  | nil => exact Iff.rfl
  | same a h ih =>
      rw [List.infix_cons_iff, List.infix_cons_iff, (h.same a).prefix_iff List.suffix_rfl, ih]
  | stretch hx hy _ ih =>
      rw [infix_untouched_append hpat hx, infix_untouched_append hpat hy, ih]

end Aligned

section Seen

variable {β : Type} {f : α → Option β} {g : β → α} {l : List β} {s : List α}

/-- A pattern is found among what is seen of a text where it is written in the text. -/
theorem map_some_prefix_iff (h : ∀ b ∈ l, ∀ a, f a = some b ↔ a = g b) :
    l.map some <+: s.map f ↔ l.map g <+: s := by
  induction l generalizing s with
  | nil => exact iff_of_true List.nil_prefix List.nil_prefix
  | cons b l ih =>
      obtain ⟨hb, hl⟩ := List.forall_mem_cons.mp h
      cases s with
      | nil => simp
      | cons a s =>
          rw [List.map_cons, List.map_cons, List.map_cons, List.cons_prefix_cons,
            List.cons_prefix_cons, ih hl, eq_comm, hb a, eq_comm]

theorem map_some_infix_iff (h : ∀ b ∈ l, ∀ a, f a = some b ↔ a = g b) :
    l.map some <:+: s.map f ↔ l.map g <:+: s := by
  induction s with
  | nil => simp
  | cons a s ih =>
      rw [List.map_cons, List.infix_cons_iff, List.infix_cons_iff, ← List.map_cons,
        map_some_prefix_iff h, ih]

end Seen

section Position

variable [DecidableEq α]

/-- Where the pattern occurs first. -/
def position (pat : List α) : List α → Option Nat
  | [] => if pat = [] then some 0 else none
  | a :: l => if pat <+: a :: l then some 0 else (position pat l).map (· + 1)

theorem position_eq_none_iff {l : List α} : position pat l = none ↔ ¬ pat <:+: l := by
  induction l with
  | nil => simp [position]
  | cons a l ih =>
      rw [position, List.infix_cons_iff]
      split
      · rename_i hbegins
        simp [hbegins]
      · rename_i hbegins
        rw [Option.map_eq_none_iff, ih]
        simp [hbegins]

/-- The beginnings with an occurrence are those that reach beyond the first one. -/
theorem infix_take_iff {l : List α} {i b : Nat} (h : position pat l = some i)
    (hpat : pat ≠ []) : pat <:+: l.take b ↔ i + pat.length ≤ b := by
  induction l generalizing i b with
  | nil => simp [position, hpat] at h
  | cons a l ih =>
      rw [position] at h
      split at h
      · rename_i hbegins
        obtain rfl := Option.some.inj h
        rw [Nat.zero_add]
        constructor
        · intro hinfix
          exact hinfix.length_le.trans (List.length_take_le _ _)
        · intro hle
          exact (List.prefix_take_iff.mpr ⟨hbegins, hle⟩).isInfix
      · rename_i hbegins
        obtain ⟨j, hj, rfl⟩ := Option.map_eq_some_iff.mp h
        cases b with
        | zero => simp [hpat]
        | succ b =>
            rw [List.take_succ_cons, List.infix_cons_iff, ← List.take_succ_cons, or_iff_right,
              ih hj]
            · omega
            · intro hfirst
              exact hbegins (hfirst.trans (List.take_prefix _ _))

/-- The first occurrence is that of every beginning it lies in. -/
theorem position_take {l : List α} {i b : Nat} (h : position pat l = some i)
    (hb : i + pat.length ≤ b) : position pat (l.take b) = some i := by
  induction l generalizing i b with
  | nil => rwa [List.take_nil]
  | cons a l ih =>
      rw [position] at h
      split at h
      · rename_i hbegins
        obtain rfl := Option.some.inj h
        rw [Nat.zero_add] at hb
        have htake : pat <+: (a :: l).take b := List.prefix_take_iff.mpr ⟨hbegins, hb⟩
        cases b with
        | zero =>
            rw [List.take_zero] at htake
            rw [List.take_zero, position, if_pos (List.prefix_nil.mp htake)]
        | succ b =>
            rw [List.take_succ_cons] at htake ⊢
            rw [position, if_pos htake]
      · rename_i hbegins
        obtain ⟨j, hj, rfl⟩ := Option.map_eq_some_iff.mp h
        obtain ⟨b, rfl⟩ : ∃ b', b = b' + 1 := ⟨b - 1, by omega⟩
        rw [List.take_succ_cons, position, if_neg, ih hj (by omega)]
        · rfl
        · intro htake
          rw [← List.take_succ_cons] at htake
          exact hbegins (htake.trans (List.take_prefix _ _))

end Position

section First

variable [DecidableEq α] {a : α} {before after : List α}

/-- What lies before the first occurrence of an element. -/
theorem takeWhile_until (h : a ∉ before) :
    (before ++ a :: after).takeWhile (fun c => c != a) = before := by
  have hall : ∀ c ∈ before, (c != a) = true := by
    intro c hc
    exact bne_iff_ne.mpr fun heq => h (heq ▸ hc)
  rw [List.takeWhile_append_of_pos hall, List.takeWhile_cons_of_neg (by simp), List.append_nil]

theorem dropWhile_until (h : a ∉ before) :
    (before ++ a :: after).dropWhile (fun c => c != a) = a :: after := by
  have hall : ∀ c ∈ before, (c != a) = true := by
    intro c hc
    exact bne_iff_ne.mpr fun heq => h (heq ▸ hc)
  rw [List.dropWhile_append_of_pos hall, List.dropWhile_cons_of_neg (by simp)]

/-- Two lists that are cut at the first occurrence of an element agree on both sides. -/
theorem eq_of_append_cons_eq {before' after' : List α} (h : a ∉ before) (h' : a ∉ before')
    (heq : before ++ a :: after = before' ++ a :: after') : before = before' ∧ after = after' := by
  constructor
  · have htake : (before ++ a :: after).takeWhile (fun c => c != a) = before := takeWhile_until h
    rw [heq, takeWhile_until h'] at htake
    exact htake.symm
  · have hdrop : (before ++ a :: after).dropWhile (fun c => c != a) = a :: after :=
      dropWhile_until h
    rw [heq, dropWhile_until h'] at hdrop
    exact (List.tail_eq_of_cons_eq hdrop).symm

omit [DecidableEq α] in
theorem mem_intercalate {ls : List (List α)} {c : α} (h : c ∈ [a].intercalate ls) :
    c = a ∨ ∃ l ∈ ls, c ∈ l := by
  induction ls with
  | nil => cases h
  | cons l rest ih =>
      cases rest with
      | nil => exact .inr ⟨l, List.mem_cons_self, by simpa using h⟩
      | cons l' rest =>
          rw [List.intercalate_cons_cons, List.mem_append, List.mem_append] at h
          rcases h with (h | h) | h
          · exact .inr ⟨l, List.mem_cons_self, h⟩
          · exact .inl (List.mem_singleton.mp h)
          · rcases ih h with h | ⟨k, hk, hc⟩
            · exact .inl h
            · exact .inr ⟨k, List.mem_cons_of_mem l hk, hc⟩

end First

end Xcplane.Lib
