import Xcplane.Lib.Decimal

/-!
The times that the rules and the backups bear, to the second.
-/

namespace Xcplane.Stamps

open Xcplane.Lib

/-- A time of a year of four digits. A leap second is the sixtieth. -/
structure Stamp where
  year : Nat
  month : Nat
  day : Nat
  hour : Nat
  minute : Nat
  second : Nat
  year_lt : year < 10000
  month_le : month ≤ 12
  day_le : day ≤ 31
  hour_lt : hour < 24
  minute_lt : minute < 60
  second_le : second ≤ 60

namespace Stamp

/-- The format `%Y-%m-%d_%H-%M-%S`. -/
def chars (t : Stamp) : List Char :=
  padded 4 t.year ++ '-' :: (padded 2 t.month ++ '-' :: (padded 2 t.day ++ '_' ::
    (padded 2 t.hour ++ '-' :: (padded 2 t.minute ++ '-' :: padded 2 t.second))))

def text (t : Stamp) : String :=
  .ofList t.chars

def fields (t : Stamp) : List Nat :=
  [t.year, t.month, t.day, t.hour, t.minute, t.second]

/-- The first time is before the second. -/
def Before (t u : Stamp) : Prop :=
  t.fields < u.fields

example : text ⟨2026, 9, 2, 7, 5, 0, by decide, by decide, by decide, by decide, by decide,
    by decide⟩ = "2026-09-02_07-05-00" := by decide

theorem block_lt_iff {width m n : Nat} {c : Char} {x y : List Char} (hm : m < 10 ^ width)
    (hn : n < 10 ^ width) :
    padded width m ++ c :: x < padded width n ++ c :: y ↔ m < n ∨ m = n ∧ x < y := by
  rw [append_lt_append_iff (by simp), padded_lt_iff hm hn, padded_eq_iff hm hn,
    List.cons_lt_cons_iff]
  have hirrefl : ¬ c < c := Char.lt_irrefl c
  tauto

theorem fits (t : Stamp) : t.year < 10 ^ 4 ∧ t.month < 10 ^ 2 ∧ t.day < 10 ^ 2 ∧
    t.hour < 10 ^ 2 ∧ t.minute < 10 ^ 2 ∧ t.second < 10 ^ 2 :=
  ⟨t.year_lt, Nat.lt_of_le_of_lt t.month_le (by decide), Nat.lt_of_le_of_lt t.day_le (by decide),
    Nat.lt_trans t.hour_lt (by decide), Nat.lt_trans t.minute_lt (by decide),
    Nat.lt_of_le_of_lt t.second_le (by decide)⟩

/-- The texts are ordered as the times are. -/
theorem chars_lt_iff (t u : Stamp) : t.chars < u.chars ↔ t.Before u := by
  obtain ⟨hy, hmo, hd, hh, hmi, hs⟩ := t.fits
  obtain ⟨hy', hmo', hd', hh', hmi', hs'⟩ := u.fits
  rw [chars, chars, block_lt_iff hy hy', block_lt_iff hmo hmo', block_lt_iff hd hd',
    block_lt_iff hh hh', block_lt_iff hmi hmi', padded_lt_iff hs hs']
  simp only [Before, fields, List.cons_lt_cons_iff, List.not_lt_nil, and_false, or_false]

theorem length_chars (t : Stamp) : t.chars.length = 19 := by
  simp [chars]

/-- A time has no brace and no white space. -/
theorem mem_chars {t : Stamp} {c : Char} (h : c ∈ t.chars) :
    c.isDigit = true ∨ c = '-' ∨ c = '_' := by
  have hpadded : ∀ width n, c ∈ padded width n → c.isDigit = true := fun _ _ => mem_padded
  simp only [chars, List.mem_append, List.mem_cons] at h
  grind

end Stamp

end Xcplane.Stamps
