import Mathlib.Data.List.Basic

/-!
Hash maps as association lists: the first binding of a key counts. Only the
`entry(..).or_insert(..)` way of filling a map is needed.
-/

namespace Xcplane.Lib

variable {κ ν : Type} [DecidableEq κ]

/-- `entry(k).or_insert(v)`. -/
def orInsert (m : List (κ × ν)) (k : κ) (v : ν) : List (κ × ν) :=
  if (m.lookup k).isSome then m else m ++ [(k, v)]

/-- `entry(..).or_insert(..)` for every binding of a list, in its order. -/
def orInsertAll (m l : List (κ × ν)) : List (κ × ν) :=
  l.foldl (fun m kv => orInsert m kv.1 kv.2) m

theorem lookup_cons_ite (kv : κ × ν) (m : List (κ × ν)) (k : κ) :
    (kv :: m).lookup k = if k = kv.1 then some kv.2 else m.lookup k := by
  rw [List.lookup_cons]
  by_cases hk : k = kv.1
  · simp [hk]
  · have hbeq : (k == kv.1) = false := by simpa using hk
    simp [hbeq, hk]

theorem lookup_append (m l : List (κ × ν)) (k : κ) :
    (m ++ l).lookup k = (m.lookup k).or (l.lookup k) := by
  induction m with
  | nil => simp
  | cons kv m ih =>
      rw [List.cons_append, lookup_cons_ite, lookup_cons_ite]
      split
      · simp
      · exact ih

theorem lookup_orInsert (m : List (κ × ν)) (k : κ) (v : ν) (k' : κ) :
    (orInsert m k v).lookup k' = (m.lookup k').or (if k' = k then some v else none) := by
  unfold orInsert
  by_cases hk : k' = k
  · subst hk
    cases hm : m.lookup k' with
    | none => simp [lookup_append, hm]
    | some x => simp [hm]
  · split
    · simp
    · simp [lookup_append, lookup_cons_ite, hk]

/-- Filling a map never replaces a binding, and the first new one wins. -/
theorem lookup_orInsertAll (m l : List (κ × ν)) (k : κ) :
    (orInsertAll m l).lookup k = (m.lookup k).or (l.lookup k) := by
  induction l generalizing m with
  | nil => simp [orInsertAll]
  | cons kv l ih =>
      rw [orInsertAll, List.foldl_cons, ← orInsertAll, ih, lookup_orInsert, lookup_cons_ite]
      by_cases hk : k = kv.1
      · cases m.lookup k <;> simp [hk]
      · simp [hk]

theorem lookup_isSome_iff (m : List (κ × ν)) (k : κ) :
    (m.lookup k).isSome = true ↔ k ∈ m.map Prod.fst := by
  induction m with
  | nil => simp
  | cons kv m ih =>
      rw [lookup_cons_ite, List.map_cons, List.mem_cons]
      by_cases hk : k = kv.1
      · simp [hk]
      · rw [if_neg hk, ih]
        simp [hk]

theorem lookup_map_eq_find? {α : Type} (f : α → κ) (g : α → ν) (l : List α)
    (k : κ) : (l.map fun a => (f a, g a)).lookup k = (l.find? fun a => f a == k).map g := by
  induction l with
  | nil => rfl
  | cons a l ih =>
      rw [List.map_cons, lookup_cons_ite, ih, List.find?_cons]
      rcases eq_or_ne k (f a) with heq | hne
      · simp [heq]
      · have hbeq : (f a == k) = false := by simpa using hne.symm
        simp [hne, hbeq]

end Xcplane.Lib
