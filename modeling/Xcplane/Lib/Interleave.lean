import Mathlib.Data.List.Basic
import Mathlib.Logic.Function.Basic

/-!
Writers that proceed side by side on one store. Whatever the interleaving, a key
ends with the last value that some writer leaves there; and every writer can come
last.
-/

namespace Xcplane.Lib

variable {α κ ν : Type}

/-- The elements of all the lists in one list, those of each list in their order. -/
inductive Interleaving : List (List α) → List α → Prop
  | done {lists : List (List α)} (h : ∀ l ∈ lists, l = []) : Interleaving lists []
  | next (pre post : List (List α)) (x : α) (rest : List α) {l : List α}
      (h : Interleaving (pre ++ rest :: post) l) :
      Interleaving (pre ++ (x :: rest) :: post) (x :: l)

section Interleaving

variable {lists : List (List α)} {l : List α}

theorem Interleaving.mem_iff (h : Interleaving lists l) {x : α} :
    x ∈ l ↔ ∃ xs ∈ lists, x ∈ xs := by
  induction h with
  | done hnil =>
      constructor
      · intro hx
        cases hx
      · rintro ⟨xs, hxs, hx⟩
        rw [hnil xs hxs] at hx
        exact hx
  | next pre post y rest h ih =>
      rw [List.mem_cons, ih]
      constructor
      · rintro (rfl | ⟨xs, hxs, hx⟩)
        · exact ⟨x :: rest, by simp, List.mem_cons_self⟩
        · rw [List.mem_append, List.mem_cons] at hxs
          rcases hxs with hxs | rfl | hxs
          · exact ⟨xs, by simp [hxs], hx⟩
          · exact ⟨y :: xs, by simp, List.mem_cons_of_mem y hx⟩
          · exact ⟨xs, by simp [hxs], hx⟩
      · rintro ⟨xs, hxs, hx⟩
        rw [List.mem_append, List.mem_cons] at hxs
        rcases hxs with hxs | rfl | hxs
        · exact .inr ⟨xs, by simp [hxs], hx⟩
        · rcases List.mem_cons.mp hx with rfl | hx
          · exact .inl rfl
          · exact .inr ⟨rest, by simp, hx⟩
        · exact .inr ⟨xs, by simp [hxs], hx⟩

/-- One list can be taken as a whole before anything else. -/
theorem Interleaving.first {pre post : List (List α)} (xs : List α)
    (h : Interleaving (pre ++ [] :: post) l) : Interleaving (pre ++ xs :: post) (xs ++ l) := by
  induction xs with
  | nil => exact h
  | cons x rest ih => exact .next pre post x rest ih

theorem Interleaving.firstAll {pre post : List (List α)} (lists : List (List α))
    (h : Interleaving (pre ++ (lists.map fun _ => []) ++ post) l) :
    Interleaving (pre ++ lists ++ post) (lists.flatten ++ l) := by
  induction lists generalizing pre with
  | nil => exact h
  | cons xs rest ih =>
      have hrest : Interleaving (pre ++ [] :: (rest ++ post)) (rest.flatten ++ l) := by
        have hnil : pre ++ [] :: (rest ++ post) = (pre ++ [[]]) ++ rest ++ post := by simp
        rw [hnil]
        apply ih
        simpa using h
      have hfirst := hrest.first xs
      rw [List.flatten_cons, List.append_assoc]
      simpa using hfirst

/-- One list after the other. -/
theorem interleaving_flatten (lists : List (List α)) : Interleaving lists lists.flatten := by
  have h : Interleaving ([] ++ (lists.map fun _ => ([] : List α)) ++ []) [] :=
    .done (by simp)
  simpa using Interleaving.firstAll lists h

/-- Every list can come last as a whole. -/
theorem exists_interleaving_append {xs : List α} (hxs : xs ∈ lists) :
    ∃ l, Interleaving lists (l ++ xs) := by
  obtain ⟨pre, post, rfl⟩ := List.append_of_mem hxs
  have hlast : Interleaving ((pre.map fun _ => []) ++ xs :: (post.map fun _ => [])) (xs ++ []) := by
    apply Interleaving.first
    apply Interleaving.done
    intro l hl
    rw [List.mem_append, List.mem_cons, List.mem_map, List.mem_map] at hl
    rcases hl with ⟨_, _, rfl⟩ | rfl | ⟨_, _, rfl⟩
    · rfl
    · rfl
    · rfl
  rw [List.append_nil] at hlast
  have hpost : Interleaving ((pre.map fun _ => []) ++ xs :: post) (post.flatten ++ xs) := by
    have h : Interleaving (((pre.map fun _ => []) ++ [xs]) ++ (post.map fun _ => []) ++ []) xs := by
      simpa using hlast
    simpa using Interleaving.firstAll post h
  refine ⟨pre.flatten ++ post.flatten, ?_⟩
  rw [List.append_assoc]
  have h : Interleaving ([] ++ (pre.map fun _ => []) ++ (xs :: post)) (post.flatten ++ xs) := hpost
  simpa using Interleaving.firstAll pre h

end Interleaving

/-- A write of one key; a value of `none` removes the key. -/
structure Write (κ ν : Type) where
  key : κ
  value : Option ν
  deriving DecidableEq, Repr

section Store

variable [DecidableEq κ]

def writeAll (store : κ → Option ν) (writes : List (Write κ ν)) : κ → Option ν :=
  writes.foldl (fun s w => Function.update s w.key w.value) store

/-- The value of the last write on the key, if there is one. -/
def lastWrite (k : κ) : List (Write κ ν) → Option (Option ν)
  | [] => none
  | w :: rest => (lastWrite k rest).or (if w.key = k then some w.value else none)

variable {store : κ → Option ν} {k : κ} {writes writes' : List (Write κ ν)}

theorem writeAll_apply : writeAll store writes k = (lastWrite k writes).getD (store k) := by
  induction writes generalizing store with
  | nil => rfl
  | cons w rest ih =>
      show writeAll (Function.update store w.key w.value) rest k = _
      rw [ih, lastWrite, Function.update_apply]
      cases lastWrite k rest with
      | some v => rfl
      | none =>
          by_cases hk : k = w.key
          · simp [hk]
          · simp [hk, Ne.symm hk]

theorem lastWrite_append :
    lastWrite k (writes ++ writes') = (lastWrite k writes').or (lastWrite k writes) := by
  induction writes with
  | nil => simp [lastWrite]
  | cons w rest ih => rw [List.cons_append, lastWrite, ih, lastWrite, Option.or_assoc]

theorem lastWrite_eq_none_iff : lastWrite k writes = none ↔ ∀ w ∈ writes, w.key ≠ k := by
  induction writes with
  | nil => simp [lastWrite]
  | cons w rest ih =>
      rw [lastWrite, Option.or_eq_none_iff, ih, List.forall_mem_cons, and_comm]
      simp

theorem mem_of_lastWrite {v : Option ν} (h : lastWrite k writes = some v) : ⟨k, v⟩ ∈ writes := by
  induction writes with
  | nil => cases h
  | cons w rest ih =>
      rw [lastWrite, Option.or_eq_some_iff] at h
      rcases h with h | ⟨_, h⟩
      · exact List.mem_cons_of_mem w (ih h)
      · split at h
        · rename_i hk
          cases h
          cases hk
          exact List.mem_cons_self
        · cases h

theorem exists_lastWrite {w : Write κ ν} (h : w ∈ writes) :
    ∃ v, lastWrite w.key writes = some v := by
  cases hlast : lastWrite w.key writes with
  | some v => exact ⟨v, rfl⟩
  | none => exact absurd rfl (lastWrite_eq_none_iff.mp hlast w h)

/-- The last write of an interleaving is the last one of the writer that made it. -/
theorem Interleaving.lastWrite {lists : List (List (Write κ ν))} (h : Interleaving lists writes)
    {v : Option ν} (hv : Lib.lastWrite k writes = some v) :
    ∃ ws ∈ lists, Lib.lastWrite k ws = some v := by
  induction h with
  | done => cases hv
  | next pre post w rest h ih =>
      rw [Lib.lastWrite, Option.or_eq_some_iff] at hv
      rcases hv with hv | ⟨hnone, hv⟩
      · obtain ⟨ws, hws, hlast⟩ := ih hv
        rw [List.mem_append, List.mem_cons] at hws
        rcases hws with hws | rfl | hws
        · exact ⟨ws, by simp [hws], hlast⟩
        · refine ⟨w :: ws, by simp, ?_⟩
          rw [Lib.lastWrite, hlast]
          rfl
        · exact ⟨ws, by simp [hws], hlast⟩
      · refine ⟨w :: rest, by simp, ?_⟩
        have hrest : Lib.lastWrite k rest = none := by
          rw [lastWrite_eq_none_iff] at hnone ⊢
          intro x hx
          exact hnone x (h.mem_iff.mpr ⟨rest, by simp, hx⟩)
        rw [Lib.lastWrite, hrest, hv]
        rfl

/-- A key ends well whatever the interleaving exactly when every writer that
touches it leaves it well, and it was well before if no writer touches it. -/
theorem forall_interleaving_iff {lists : List (List (Write κ ν))} {P : Option ν → Prop} :
    (∀ writes, Interleaving lists writes → P (writeAll store writes k)) ↔
      (∀ ws ∈ lists, ∀ v, lastWrite k ws = some v → P v) ∧
        ((∀ ws ∈ lists, lastWrite k ws = none) → P (store k)) := by
  constructor
  · intro h
    constructor
    · intro ws hws v hv
      obtain ⟨before, hbefore⟩ := exists_interleaving_append hws
      have hlast := h _ hbefore
      rw [writeAll_apply, lastWrite_append, hv] at hlast
      exact hlast
    · intro hnone
      have hwrites := interleaving_flatten lists
      have hfinal := h lists.flatten hwrites
      rw [writeAll_apply] at hfinal
      cases hlast : lastWrite k lists.flatten with
      | none =>
          rw [hlast] at hfinal
          exact hfinal
      | some v =>
          obtain ⟨ws, hws, hv⟩ := hwrites.lastWrite hlast
          rw [hnone ws hws] at hv
          cases hv
  · rintro ⟨hleft, huntouched⟩ writes hwrites
    rw [writeAll_apply]
    cases hlast : lastWrite k writes with
    | some v =>
        obtain ⟨ws, hws, hv⟩ := hwrites.lastWrite hlast
        exact hleft ws hws v hv
    | none =>
        apply huntouched
        intro ws hws
        rw [lastWrite_eq_none_iff] at hlast ⊢
        intro w hw
        exact hlast w (hwrites.mem_iff.mpr ⟨ws, hws, hw⟩)

end Store

end Xcplane.Lib
