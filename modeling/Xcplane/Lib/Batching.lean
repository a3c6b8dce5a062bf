import Mathlib.Data.List.Induction
import Xcplane.Lib.Trace

/-!
Items gathered into batches, by a size that comes with every item and by time, where
writing a batch is the same as writing its items in their order.
-/

namespace Xcplane.Lib

variable {α σ : Type}

/-- What is gathered since the last batch, the batches so far, and where they went. -/
structure Batching (α σ : Type) where
  buffer : List α
  batches : List (List α)
  store : σ

inductive Arrival (α : Type)
  | item (limit : Nat) (x : α)
  | timeout

namespace Arrival

def item? : Arrival α → Option α
  | .item _ x => some x
  | .timeout => none

def limit? : Arrival α → Option Nat
  | .item limit _ => some limit
  | .timeout => none

end Arrival

def items (arrivals : List (Arrival α)) : List α :=
  arrivals.filterMap Arrival.item?

def lastLimit (arrivals : List (Arrival α)) : Option Nat :=
  (arrivals.filterMap Arrival.limit?).getLast?

namespace Batching

variable (write : List α → σ → σ)

def begun (s : σ) : Batching α σ where
  buffer := []
  batches := []
  store := s

def flush (b : Batching α σ) : Batching α σ where
  buffer := []
  batches := b.batches ++ [b.buffer]
  store := write b.buffer b.store

def step (b : Batching α σ) : Arrival α → Batching α σ
  | .item limit x =>
      let b := { b with buffer := b.buffer ++ [x] }
      if limit ≤ b.buffer.length then b.flush write else b
  | .timeout => if b.buffer.isEmpty then b else b.flush write

/-- Nothing is lost, repeated or moved, and what was written is what the batches hold. -/
structure Faithful (s : σ) (arrivals : List (Arrival α)) (b : Batching α σ) : Prop where
  kept : b.batches.flatten ++ b.buffer = items arrivals
  stored : b.store = write b.batches.flatten s
  short : ∀ limit ∈ lastLimit arrivals, 1 ≤ limit → b.buffer.length < limit

variable {write} {s : σ} {arrivals : List (Arrival α)} {b : Batching α σ}

theorem flush_flatten : (b.flush write).batches.flatten = b.batches.flatten ++ b.buffer := by
  rw [flush, List.flatten_append, List.flatten_singleton]

theorem flush_stored (hwrite : ∀ l l' s, write (l ++ l') s = write l' (write l s))
    (hstored : b.store = write b.batches.flatten s) :
    (b.flush write).store = write (b.flush write).batches.flatten s := by
  rw [flush_flatten, hwrite, ← hstored, flush]

theorem items_concat (a : Arrival α) :
    items (arrivals ++ [a]) = items arrivals ++ a.item?.toList := by
  rw [items, items, List.filterMap_append]
  cases a <;> rfl

theorem step_faithful (hwrite : ∀ l l' s, write (l ++ l') s = write l' (write l s))
    (h : b.Faithful write s arrivals) (a : Arrival α) :
    (b.step write a).Faithful write s (arrivals ++ [a]) := by
  cases a with
  | item limit x =>
      have hlimit : lastLimit (arrivals ++ [.item limit x]) = some limit := by
        rw [lastLimit, List.filterMap_append]
        exact List.getLast?_concat
      have hkept : b.batches.flatten ++ (b.buffer ++ [x]) =
          items (arrivals ++ [.item limit x]) := by
        rw [items_concat, ← List.append_assoc, h.kept]
        rfl
      rw [step]
      dsimp only
      split
      · refine ⟨?_, flush_stored hwrite h.stored, fun limit _ hpos => hpos⟩
        rw [flush_flatten]
        exact (List.append_nil _).trans hkept
      · rename_i hshort
        refine ⟨hkept, h.stored, ?_⟩
        rw [hlimit]
        intro limit' hsame _
        cases hsame
        exact Nat.lt_of_not_le hshort
  | timeout =>
      have hitems : items (arrivals ++ [.timeout]) = items arrivals := by
        rw [items_concat]
        exact List.append_nil _
      have hlimit : lastLimit (arrivals ++ [.timeout]) = lastLimit arrivals := by
        rw [lastLimit, lastLimit, List.filterMap_append]
        exact congrArg List.getLast? (List.append_nil _)
      rw [step]
      split
      · exact ⟨hitems ▸ h.kept, h.stored, hlimit ▸ h.short⟩
      · refine ⟨?_, flush_stored hwrite h.stored, fun limit _ hpos => hpos⟩
        rw [flush_flatten, hitems, ← h.kept]
        exact List.append_nil _

theorem run_faithful (hnil : ∀ s, write [] s = s)
    (hwrite : ∀ l l' s, write (l ++ l') s = write l' (write l s)) (s : σ)
    (arrivals : List (Arrival α)) :
    (run (step write) (begun s) arrivals).Faithful write s arrivals := by
  induction arrivals using List.reverseRecOn with
  | nil => exact ⟨rfl, (hnil s).symm, fun _ hlimit => nomatch hlimit⟩
  | append_singleton arrivals a ih =>
      rw [run, List.foldl_concat]
      exact step_faithful hwrite ih a

theorem timeout_empties : (b.step write .timeout).buffer = [] := by
  rw [step]
  split
  · rename_i hempty
    exact List.isEmpty_iff.mp hempty
  · rfl

end Batching

end Xcplane.Lib
