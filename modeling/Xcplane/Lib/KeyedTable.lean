import Mathlib.Data.List.Nodup
import Mathlib.Data.List.Perm.Basic
import Mathlib.Data.List.Perm.Lattice

/-!
Tables with a primary key. A table is the list of its rows together with the
proof that no key occurs twice, so every statement that changes a table has to
say why the keys stay distinct. Lookups by key are the abstract view: each
statement is characterized by the lookups after it.
-/

namespace Xcplane.Lib

variable {κ ρ : Type} [DecidableEq κ]

structure KeyedTable (key : ρ → κ) where
  rows : List ρ
  keys_nodup : (rows.map key).Nodup

namespace KeyedTable

variable {key : ρ → κ}

def empty : KeyedTable key where
  rows := []
  keys_nodup := List.nodup_nil

def find (t : KeyedTable key) (k : κ) : Option ρ :=
  t.rows.find? fun r => key r == k

theorem key_of_find {t : KeyedTable key} {k : κ} {r : ρ} (h : t.find k = some r) :
    key r = k := by
  simpa using List.find?_some h

theorem mem_of_find {t : KeyedTable key} {k : κ} {r : ρ} (h : t.find k = some r) :
    r ∈ t.rows :=
  List.mem_of_find?_eq_some h

theorem find?_eq_some_of_mem {rows : List ρ} (hnodup : (rows.map key).Nodup) {r : ρ}
    (hr : r ∈ rows) : rows.find? (fun x => key x == key r) = some r := by
  induction rows with
  | nil => simp at hr
  | cons x rows ih =>
      simp only [List.map_cons, List.nodup_cons] at hnodup
      rcases List.mem_cons.mp hr with rfl | hr
      · simp
      · have hne : key x ≠ key r := by
          intro heq
          exact hnodup.1 (heq ▸ List.mem_map_of_mem hr)
        rw [List.find?_cons_of_neg (by simpa using hne)]
        exact ih hnodup.2 hr

theorem mem_rows_iff {t : KeyedTable key} {r : ρ} :
    r ∈ t.rows ↔ t.find (key r) = some r :=
  ⟨find?_eq_some_of_mem t.keys_nodup, mem_of_find⟩

theorem find_eq_some_iff {t : KeyedTable key} {k : κ} {r : ρ} :
    t.find k = some r ↔ r ∈ t.rows ∧ key r = k := by
  constructor
  · intro h
    exact ⟨mem_of_find h, key_of_find h⟩
  · rintro ⟨hr, rfl⟩
    exact mem_rows_iff.mp hr

/-- Two tables that answer every lookup alike hold the same rows. -/
theorem rows_perm_of_find {t : KeyedTable key} {l : List ρ} (hl : (l.map key).Nodup)
    (h : ∀ k r, t.find k = some r ↔ r ∈ l ∧ key r = k) : t.rows.Perm l := by
  rw [List.perm_ext_iff_of_nodup t.keys_nodup.of_map hl.of_map]
  intro r
  rw [mem_rows_iff, h]
  simp

/-- `INSERT .. ON CONFLICT(key) DO UPDATE` with every other column replaced. -/
def upsertRows (key : ρ → κ) (r : ρ) : List ρ → List ρ
  | [] => [r]
  | x :: rows => if key x = key r then r :: rows else x :: upsertRows key r rows

theorem mem_keys_upsertRows {rows : List ρ} {r : ρ} {k : κ} :
    k ∈ (upsertRows key r rows).map key ↔ k = key r ∨ k ∈ rows.map key := by
  induction rows with
  | nil => simp [upsertRows]
  | cons x rows ih =>
      by_cases hx : key x = key r
      · simp [upsertRows, hx]
      · rw [upsertRows, if_neg hx, List.map_cons, List.mem_cons, ih, List.map_cons,
          List.mem_cons]
        tauto

theorem nodup_upsertRows {rows : List ρ} (h : (rows.map key).Nodup) (r : ρ) :
    ((upsertRows key r rows).map key).Nodup := by
  induction rows with
  | nil => simp [upsertRows]
  | cons x rows ih =>
      simp only [List.map_cons, List.nodup_cons] at h
      by_cases hx : key x = key r
      · simp only [upsertRows, if_pos hx, List.map_cons, List.nodup_cons]
        exact hx ▸ h
      · simp only [upsertRows, if_neg hx, List.map_cons, List.nodup_cons]
        refine ⟨?_, ih h.2⟩
        rw [mem_keys_upsertRows]
        rintro (heq | hmem)
        · exact hx heq
        · exact h.1 hmem

theorem upsertRows_of_fresh {rows : List ρ} {r : ρ} (h : key r ∉ rows.map key) :
    upsertRows key r rows = rows ++ [r] := by
  induction rows with
  | nil => rfl
  | cons x rows ih =>
      rw [List.map_cons, List.mem_cons, not_or] at h
      rw [upsertRows, if_neg (Ne.symm h.1), ih h.2, List.cons_append]

/-- A row that is replaced by one of its kind is still the first of its kind. -/
theorem find?_upsertRows {p : ρ → Bool} {rows : List ρ} (hnodup : (rows.map key).Nodup)
    {x r : ρ} (hx : rows.find? p = some x) (hkey : key r = key x) (hr : p r = true) :
    (upsertRows key r rows).find? p = some r := by
  induction rows with
  | nil => cases hx
  | cons y rows ih =>
      obtain ⟨hfresh, hrest⟩ := List.nodup_cons.mp hnodup
      by_cases hy : p y = true
      · rw [List.find?_cons_of_pos hy] at hx
        obtain rfl := Option.some.inj hx
        rw [upsertRows, if_pos hkey.symm, List.find?_cons_of_pos hr]
      · rw [List.find?_cons_of_neg hy] at hx
        have hne : key y ≠ key r := by
          intro heq
          apply hfresh
          rw [heq, hkey]
          exact List.mem_map_of_mem (List.mem_of_find?_eq_some hx)
        rw [upsertRows, if_neg hne, List.find?_cons_of_neg hy]
        exact ih hrest hx

def upsert (t : KeyedTable key) (r : ρ) : KeyedTable key where
  rows := upsertRows key r t.rows
  keys_nodup := nodup_upsertRows t.keys_nodup r

theorem rows_upsert (t : KeyedTable key) (r : ρ) :
    (t.upsert r).rows = upsertRows key r t.rows := rfl

theorem find_upsert (t : KeyedTable key) (r : ρ) (k : κ) :
    (t.upsert r).find k = if k = key r then some r else t.find k := by
  obtain ⟨rows, hrows⟩ := t
  simp only [find, upsert]
  clear hrows
  induction rows with
  | nil =>
      by_cases hk : k = key r
      · simp [upsertRows, hk]
      · simp [upsertRows, hk, Ne.symm hk]
  | cons x rows ih =>
      by_cases hx : key x = key r
      · by_cases hk : k = key r
        · simp [upsertRows, hx, hk]
        · simp [upsertRows, hx, hk, Ne.symm hk]
      · rw [upsertRows, if_neg hx]
        by_cases hk : key x = k
        · subst hk
          simp [hx]
        · rw [List.find?_cons_of_neg (by simpa using hk), ih,
            List.find?_cons_of_neg (by simpa using hk)]

@[simp] theorem find_upsert_self (t : KeyedTable key) (r : ρ) :
    (t.upsert r).find (key r) = some r := by
  simp [find_upsert]

theorem find_upsert_of_ne (t : KeyedTable key) {r : ρ} {k : κ} (h : k ≠ key r) :
    (t.upsert r).find k = t.find k := by
  simp [find_upsert, h]

/-- A row that is there is upserted to no effect. -/
theorem find_upsert_of_find {t : KeyedTable key} {r : ρ} (h : t.find (key r) = some r) (k : κ) :
    (t.upsert r).find k = t.find k := by
  rw [find_upsert]
  split
  · rename_i hk
    rw [hk, h]
  · rfl

theorem find_of_find_upsert {t : KeyedTable key} {r x : ρ} {k : κ}
    (h : (t.upsert r).find k = some x) : k = key r ∨ t.find k = some x := by
  by_cases hk : k = key r
  · exact .inl hk
  · rw [find_upsert_of_ne t hk] at h
    exact .inr h

/-- Upserts of rows with other keys leave a lookup alone. -/
theorem find_foldl_upsert_of_notMem {l : List ρ} (t : KeyedTable key) {k : κ}
    (h : k ∉ l.map key) : (l.foldl upsert t).find k = t.find k := by
  induction l generalizing t with
  | nil => rfl
  | cons r l ih =>
      rw [List.map_cons, List.mem_cons, not_or] at h
      rw [List.foldl_cons, ih _ h.2, find_upsert_of_ne t h.1]

/-- After upserts of rows, a key of theirs is stored with one of them. -/
theorem exists_find_foldl_upsert {l : List ρ} (t : KeyedTable key) {k : κ}
    (h : k ∈ l.map key) : ∃ r ∈ l, key r = k ∧ (l.foldl upsert t).find k = some r := by
  induction l generalizing t with
  | nil => simp at h
  | cons x l ih =>
      rw [List.foldl_cons]
      by_cases hk : k ∈ l.map key
      · obtain ⟨r, hr, hkey, hfind⟩ := ih (t.upsert x) hk
        exact ⟨r, List.mem_cons_of_mem x hr, hkey, hfind⟩
      · rw [List.map_cons, List.mem_cons] at h
        have hx : k = key x := h.resolve_right hk
        refine ⟨x, List.mem_cons_self, hx.symm, ?_⟩
        rw [find_foldl_upsert_of_notMem _ hk, hx, find_upsert_self]

/-- Upserts of rows with distinct keys store each of them. -/
theorem find_foldl_upsert_of_mem {l : List ρ} (t : KeyedTable key) (hl : (l.map key).Nodup)
    {r : ρ} (hr : r ∈ l) : (l.foldl upsert t).find (key r) = some r := by
  induction l generalizing t with
  | nil => simp at hr
  | cons x l ih =>
      rw [List.map_cons, List.nodup_cons] at hl
      rcases List.mem_cons.mp hr with rfl | hr
      · rw [List.foldl_cons, find_foldl_upsert_of_notMem _ hl.1, find_upsert_self]
      · exact ih _ hl.2 hr

/-- Upserts into a table that has no other keys leave just their rows. -/
theorem foldl_upsert_perm {l : List ρ} {t : KeyedTable key} (hl : (l.map key).Nodup)
    (ht : ∀ r ∈ t.rows, key r ∈ l.map key) : (l.foldl upsert t).rows.Perm l := by
  apply rows_perm_of_find hl
  intro k r
  by_cases hk : k ∈ l.map key
  · obtain ⟨row, hrow, rfl⟩ := List.mem_map.mp hk
    rw [find_foldl_upsert_of_mem t hl hrow, Option.some.injEq]
    constructor
    · rintro rfl
      exact ⟨hrow, rfl⟩
    · rintro ⟨hr, hkey⟩
      exact (List.inj_on_of_nodup_map hl hr hrow hkey).symm
  · rw [find_foldl_upsert_of_notMem t hk]
    constructor
    · intro hr
      exact absurd (key_of_find hr ▸ ht r (mem_of_find hr)) hk
    · rintro ⟨hr, rfl⟩
      exact absurd (List.mem_map_of_mem hr) hk

/-- `DELETE .. WHERE` of every row that fails `keep`. -/
def retain (t : KeyedTable key) (keep : ρ → Bool) : KeyedTable key where
  rows := t.rows.filter keep
  keys_nodup := t.keys_nodup.sublist (List.filter_sublist.map key)

omit [DecidableEq κ] in
@[simp] theorem mem_retain {t : KeyedTable key} {keep : ρ → Bool} {r : ρ} :
    r ∈ (t.retain keep).rows ↔ r ∈ t.rows ∧ keep r = true := by
  simp [retain]

theorem find_retain (t : KeyedTable key) (keep : ρ → Bool) (k : κ) :
    (t.retain keep).find k = (t.find k).filter keep := by
  apply Option.ext
  intro r
  rw [Option.filter_eq_some_iff, find_eq_some_iff, find_eq_some_iff, mem_retain]
  tauto

theorem find_of_find_retain {t : KeyedTable key} {keep : ρ → Bool} {k : κ} {r : ρ}
    (h : (t.retain keep).find k = some r) : t.find k = some r ∧ keep r = true := by
  rwa [find_retain, Option.filter_eq_some_iff] at h

theorem find_retain_of_keep {t : KeyedTable key} {keep : ρ → Bool} {k : κ}
    (h : ∀ r, t.find k = some r → keep r = true) : (t.retain keep).find k = t.find k := by
  rw [find_retain]
  cases hr : t.find k with
  | none => rfl
  | some r => rw [Option.filter_some, if_pos (h r hr)]

/-- `INSERT .. ON CONFLICT(key) DO NOTHING`. -/
def insertIgnore (t : KeyedTable key) (r : ρ) : KeyedTable key :=
  if (t.find (key r)).isSome then t else t.upsert r

theorem find_insertIgnore (t : KeyedTable key) (r : ρ) (k : κ) :
    (t.insertIgnore r).find k =
      if k = key r then some ((t.find k).getD r) else t.find k := by
  unfold insertIgnore
  by_cases hk : k = key r
  · subst hk
    cases hfind : t.find (key r) with
    | none => simp
    | some x => simp [hfind]
  · split
    · simp
    · simp [find_upsert_of_ne t hk]

/-- `UPDATE .. SET .. WHERE key = k`, for an assignment that leaves the key. -/
def modify (t : KeyedTable key) (k : κ) (f : ρ → ρ) (hf : ∀ r, key (f r) = key r) :
    KeyedTable key where
  rows := t.rows.map fun r => if key r = k then f r else r
  keys_nodup := by
    have hkeys : (t.rows.map fun r => if key r = k then f r else r).map key =
        t.rows.map key := by
      rw [List.map_map]
      apply List.map_congr_left
      intro r _
      by_cases hr : key r = k
      · simp [hr, hf]
      · simp [hr]
    rw [hkeys]
    exact t.keys_nodup

theorem find_modify (t : KeyedTable key) (k : κ) (f : ρ → ρ)
    (hf : ∀ r, key (f r) = key r) (k' : κ) :
    (t.modify k f hf).find k' =
      if k' = k then (t.find k').map f else t.find k' := by
  obtain ⟨rows, hrows⟩ := t
  simp only [find, modify]
  clear hrows
  induction rows with
  | nil => simp
  | cons x rows ih =>
      rw [List.map_cons]
      by_cases hx : key x = k'
      · by_cases hk : k' = k
        · simp [hx, hk, hf]
        · simp [hx, hk]
      · have hx' : key (if key x = k then f x else x) ≠ k' := by
          split
          · rwa [hf]
          · exact hx
        rw [List.find?_cons_of_neg (by simpa using hx'),
          List.find?_cons_of_neg (by simpa using hx), ih]

end KeyedTable

end Xcplane.Lib
