import Mathlib.Data.List.Basic
import Mathlib.Data.String.Basic

/-!
Regular expressions with anchors and look-ahead, and what those match that are put together
from classes of characters.
-/

namespace Xcplane.Lib

inductive Regex
  /-- `^` and `$`, the beginning and the end of the text. -/
  | start
  | stop
  /-- `[a-z0-9]`, by the first and the last character of each range. -/
  | oneOf (ranges : List (Char × Char))
  /-- `.`, any character but a line feed. -/
  | any
  | seq (a b : Regex)
  /-- `a{lo,hi}`, without `hi` where there is no upper bound. -/
  | repeated (a : Regex) (lo : Nat) (hi : Option Nat)
  /-- `(?=a)`. -/
  | ahead (a : Regex)

namespace Regex

/-- `a?` and `a*`. -/
def opt (a : Regex) : Regex := .repeated a 0 (some 1)

def star (a : Regex) : Regex := .repeated a 0 none

def inRanges (ranges : List (Char × Char)) (c : Char) : Bool :=
  ranges.any fun range => range.1.val ≤ c.val && c.val ≤ range.2.val

theorem inRanges_append (ranges ranges' : List (Char × Char)) (c : Char) :
    inRanges (ranges ++ ranges') c = (inRanges ranges c || inRanges ranges' c) :=
  List.any_append

theorem inRanges_single (c d : Char) : inRanges [(d, d)] c = (c == d) := by
  rw [Bool.eq_iff_iff, beq_iff_eq]
  constructor
  · intro h
    have hle : d.val ≤ c.val ∧ c.val ≤ d.val := by simpa [inRanges] using h
    exact Char.ext (UInt32.le_antisymm hle.2 hle.1)
  · rintro rfl
    simp [inRanges]

/-- A relation applied so many times. -/
def Times {α : Type} (r : α → α → Prop) : Nat → α → α → Prop
  | 0, s, t => t = s
  | n + 1, s, t => ∃ u, r s u ∧ Times r n u t

/-- What is left of `s`, an end of the text, when the expression has matched its beginning. -/
def Match (text : List Char) : Regex → List Char → List Char → Prop
  | .start, s, t => s = text ∧ t = s
  | .stop, s, t => s = [] ∧ t = s
  | .oneOf ranges, s, t => ∃ c, inRanges ranges c = true ∧ s = c :: t
  | .any, s, t => ∃ c, c ≠ '\n' ∧ s = c :: t
  | .seq a b, s, t => ∃ u, Match text a s u ∧ Match text b u t
  | .repeated a lo hi, s, t =>
      ∃ n, lo ≤ n ∧ (∀ m ∈ hi, n ≤ m) ∧ Times (Match text a) n s t
  | .ahead a, s, t => t = s ∧ ∃ u, Match text a s u

/-- The expression matches the text from its beginning. -/
def Matches (r : Regex) (text : List Char) : Prop :=
  ∃ rest, r.Match text text rest

variable {text s t : List Char} {a b : Regex}

theorem match_opt : (opt a).Match text s t ↔ t = s ∨ a.Match text s t := by
  constructor
  · rintro ⟨n, _, hn, htimes⟩
    match n, hn 1 rfl, htimes with
    | 0, _, htimes => exact Or.inl htimes
    | 1, _, ⟨u, hu, ht⟩ =>
        rw [show t = u from ht]
        exact Or.inr hu
  · rintro (rfl | h)
    · exact ⟨0, le_rfl, fun _ _ => Nat.zero_le _, rfl⟩
    · exact ⟨1, Nat.zero_le 1, fun m hm => (Option.some.inj hm).le, t, h, rfl⟩

/-- A class of characters repeated matches so many of its characters. -/
theorem times_iff {p : Char → Prop} {r : List Char → List Char → Prop}
    (hr : ∀ s t, r s t ↔ ∃ c, p c ∧ s = c :: t) (n : Nat) :
    Times r n s t ↔ ∃ run : List Char, run.length = n ∧ (∀ c ∈ run, p c) ∧ s = run ++ t := by
  induction n generalizing s with
  | zero =>
      constructor
      · intro h
        exact ⟨[], rfl, by simp, (show t = s from h).symm⟩
      · rintro ⟨run, hlen, _, hs⟩
        rw [List.length_eq_zero_iff.mp hlen] at hs
        exact hs.symm
  | succ n ih =>
      constructor
      · rintro ⟨u, hu, htimes⟩
        obtain ⟨c, hc, rfl⟩ := (hr s u).mp hu
        obtain ⟨run, hlen, hrun, rfl⟩ := ih.mp htimes
        exact ⟨c :: run, by rw [List.length_cons, hlen], List.forall_mem_cons.mpr ⟨hc, hrun⟩,
          rfl⟩
      · rintro ⟨run, hlen, hrun, rfl⟩
        obtain ⟨c, run, rfl⟩ := List.exists_cons_of_length_eq_add_one hlen
        obtain ⟨hc, hrun⟩ := List.forall_mem_cons.mp hrun
        refine ⟨run ++ t, (hr _ _).mpr ⟨c, hc, rfl⟩, ih.mpr ⟨run, ?_, hrun, rfl⟩⟩
        exact Nat.add_right_cancel hlen

theorem match_star_oneOf {ranges : List (Char × Char)} :
    (star (oneOf ranges)).Match text s t ↔
      ∃ run : List Char, (∀ c ∈ run, inRanges ranges c = true) ∧ s = run ++ t := by
  have htimes := fun n => times_iff (s := s) (t := t) (r := (oneOf ranges).Match text)
    (fun _ _ => Iff.rfl) n
  constructor
  · rintro ⟨n, _, _, h⟩
    obtain ⟨run, _, hrun⟩ := (htimes n).mp h
    exact ⟨run, hrun⟩
  · rintro ⟨run, hrun⟩
    exact ⟨run.length, Nat.zero_le _, (fun _ hm => nomatch hm),
      (htimes _).mpr ⟨run, rfl, hrun⟩⟩

/-- `(?=.{lo,hi}$)` bounds the length of what follows. -/
theorem match_ahead_length {lo hi : Nat} :
    (ahead (seq (repeated any lo (some hi)) stop)).Match text s t ↔
      t = s ∧ lo ≤ s.length ∧ s.length ≤ hi ∧ '\n' ∉ s := by
  have htimes := fun n u => times_iff (s := s) (t := u) (r := any.Match text)
    (fun _ _ => Iff.rfl) n
  constructor
  · rintro ⟨rfl, u, v, ⟨n, hlo, hhi, h⟩, rfl, rfl⟩
    obtain ⟨run, rfl, hrun, hs⟩ := (htimes n _).mp h
    rw [List.append_nil] at hs
    subst hs
    exact ⟨rfl, hlo, hhi hi rfl, fun h => hrun _ h rfl⟩
  · rintro ⟨rfl, hlo, hhi, hfeed⟩
    refine ⟨rfl, [], [], ⟨t.length, hlo, ?_, ?_⟩, rfl, rfl⟩
    · intro m hm
      exact Option.some.inj hm ▸ hhi
    · refine (htimes _ _).mpr ⟨t, rfl, ?_, (List.append_nil t).symm⟩
      rintro c hc rfl
      exact hfeed hc

/-- `[outer](?:[inner]*[outer])?`. -/
def framed (outer inner : List (Char × Char)) : Regex :=
  .seq (.oneOf outer) (opt (.seq (star (.oneOf inner)) (.oneOf outer)))

/-- The whole text is matched when it begins and ends with a character of the outer class
and all of it is in the inner one. -/
theorem match_framed_iff {outer inner : List (Char × Char)}
    (hsub : ∀ c, inRanges outer c = true → inRanges inner c = true) :
    (framed outer inner).Match text s [] ↔
      s.head?.any (inRanges outer) = true ∧ s.getLast?.any (inRanges outer) = true ∧
        ∀ c ∈ s, inRanges inner c = true := by
  constructor
  · rintro ⟨u, ⟨c, hc, rfl⟩, hopt⟩
    rcases match_opt.mp hopt with rfl | ⟨v, hstar, d, hd, rfl⟩
    · exact ⟨hc, hc, by simpa using hsub c hc⟩
    · obtain ⟨run, hrun, rfl⟩ := match_star_oneOf.mp hstar
      refine ⟨hc, ?_, ?_⟩
      · rw [← List.cons_append, List.getLast?_concat]
        exact hd
      · simp only [List.forall_mem_cons, List.forall_mem_append, List.not_mem_nil,
          false_implies, implies_true, and_true]
        exact ⟨hsub c hc, hrun, hsub d hd⟩
  · rintro ⟨hhead, hlast, hall⟩
    cases s with
    | nil => cases hhead
    | cons c rest =>
        refine ⟨rest, ⟨c, hhead, rfl⟩, match_opt.mpr ?_⟩
        rcases List.eq_nil_or_concat' rest with rfl | ⟨run, d, rfl⟩
        · exact Or.inl rfl
        · rw [← List.cons_append, List.getLast?_concat] at hlast
          refine Or.inr ⟨[d], match_star_oneOf.mpr ⟨run, fun x hx => ?_, rfl⟩, d, hlast, rfl⟩
          exact hall x (List.mem_cons_of_mem c (List.mem_append_left [d] hx))

end Regex

end Xcplane.Lib
