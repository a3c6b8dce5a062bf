import Xcplane.StatsHistory
import Xcplane.Lib.Batching

/-!
The task that gathers the statuses of all services and writes them to the database, when
there are as many as the last one came with or after an interval.
-/

namespace Xcplane.StatusAggregator

open Xcplane.Types
open Xcplane.Lib
open Xcplane.Server
open Xcplane.Database
open Xcplane.DatabaseSpec
open Xcplane.Service
open Xcplane.StatsHistory

section Aggregator

/-- What the task waits for. A write that it leads to can fail at one of its statements. -/
inductive Event
  | received (nstats : Nat) (stat : SvcEntry) (fault : Nat → Option BoxError)
  | tick (fault : Nat → Option BoxError)

/-- The vector of the task, the batches it has written, the database, and the error the
task has ended with. -/
structure Aggregator where
  statsVec : List SvcEntry
  written : List (List SvcEntry)
  db : Db
  ended : Option BoxError

def startAggregator (db : Db) : Aggregator where
  statsVec := []
  written := []
  db := db
  ended := none

/-- The error of the first statement that fails. -/
def writeError (fault : Nat → Option BoxError) (stats : List SvcEntry) : Option BoxError :=
  (List.range stats.length).findSome? fault

def writeBatch (fault : Nat → Option BoxError) (a : Aggregator) : Aggregator :=
  match writeError fault a.statsVec with
  | some e => { a with db := writeStatusData fault a.statsVec 0 a.db, ended := some e }
  | none =>
      { statsVec := []
        written := a.written ++ [a.statsVec]
        db := writeStatusData fault a.statsVec 0 a.db
        ended := none }

def step (a : Aggregator) (e : Event) : Aggregator :=
  match a.ended with
  | some _ => a
  | none =>
      match e with
      | .received nstats stat fault =>
          let a := { a with statsVec := a.statsVec ++ [stat] }
          if nstats ≤ a.statsVec.length then writeBatch fault a else a
      | .tick fault => if a.statsVec.isEmpty then a else writeBatch fault a

def faultOf : Event → Nat → Option BoxError
  | .received _ _ fault => fault
  | .tick fault => fault

def WriteSucceeds (e : Event) : Prop :=
  ∀ i, faultOf e i = none

def receivedStat : Event → Option SvcEntry
  | .received _ stat _ => some stat
  | .tick _ => none

def receivedNstats : Event → Option Nat
  | .received nstats _ _ => some nstats
  | .tick _ => none

def keyOf (e : SvcEntry) : String × String :=
  (e.server, e.kind.toText)

/-- The last of the statuses that are for the row of that key. -/
def lastFor (k : String × String) (stats : List SvcEntry) : Option SvcEntry :=
  (stats.filter fun e => keyOf e = k).getLast?

end Aggregator

section Rows

variable {k : String × String} {stats : List SvcEntry} {db : Db}

/-- All statements of a write succeed. -/
def writeAll (stats : List SvcEntry) (db : Db) : Db :=
  writeStatusData (fun _ => none) stats 0 db

theorem writeStatusData_noFault {fault : Nat → Option BoxError} (h : ∀ i, fault i = none)
    (i : Nat) :
    writeStatusData fault stats i db = stats.foldl (fun db e => storeEntry e db) db := by
  induction stats generalizing i db with
  | nil => rfl
  | cons e rest ih =>
      rw [writeStatusData, h i]
      exact ih (i + 1)

theorem writeAll_eq : writeAll stats db = stats.foldl (fun db e => storeEntry e db) db :=
  writeStatusData_noFault (fun _ => rfl) 0

theorem writeAll_append (l l' : List SvcEntry) (db : Db) :
    writeAll (l ++ l') db = writeAll l' (writeAll l db) := by
  rw [writeAll_eq, writeAll_eq, writeAll_eq, List.foldl_append]

theorem lastFor_concat (e : SvcEntry) :
    lastFor k (stats ++ [e]) = if keyOf e = k then some e else lastFor k stats := by
  rw [lastFor, lastFor, List.filter_append, List.filter_singleton]
  by_cases h : keyOf e = k
  · rw [if_pos h, decide_eq_true h]
    exact List.getLast?_concat
  · rw [if_neg h, decide_eq_false h]
    exact congrArg List.getLast? (List.append_nil _)

/-- A row ends with the last status that is written for it. -/
theorem find_writeAll (k : String × String) (stats : List SvcEntry) (db : Db) :
    (writeAll stats db).stats.find k =
      match lastFor k stats with
      | some e => (db.stats.find k).map (setStatus e.status)
      | none => db.stats.find k := by
  induction stats using List.reverseRecOn with
  | nil => rfl
  | append_singleton stats e ih =>
      have hlast : writeAll [e] (writeAll stats db) = storeEntry e (writeAll stats db) :=
        writeAll_eq
      rw [writeAll_append, hlast, find_storeEntry, ih, lastFor_concat]
      by_cases h : keyOf e = k
      · have hkey : k = (e.server, e.kind.toText) := h.symm
        rw [if_pos h, if_pos hkey]
        cases lastFor k stats with
        | none => rfl
        | some e' =>
            dsimp only
            rw [Option.map_map]
            rfl
      · have hkey : k ≠ (e.server, e.kind.toText) := Ne.symm h
        rw [if_neg h, if_neg hkey]

end Rows

section Runs

/-- The task as a gathering of batches. -/
def batching (a : Aggregator) : Batching SvcEntry Db where
  buffer := a.statsVec
  batches := a.written
  store := a.db

def arrival : Event → Arrival SvcEntry
  | .received nstats stat _ => .item nstats stat
  | .tick _ => .timeout

theorem writeError_eq_none {fault : Nat → Option BoxError} (h : ∀ i, fault i = none)
    (stats : List SvcEntry) : writeError fault stats = none :=
  List.findSome?_eq_none_iff.mpr fun i _ => h i

theorem writeBatch_refines {fault : Nat → Option BoxError} (h : ∀ i, fault i = none)
    (a : Aggregator) : batching (writeBatch fault a) = (batching a).flush writeAll ∧
      (writeBatch fault a).ended = none := by
  have hdb : writeStatusData fault a.statsVec 0 a.db = writeAll a.statsVec a.db :=
    (writeStatusData_noFault h 0).trans writeAll_eq.symm
  rw [writeBatch, writeError_eq_none h, hdb]
  exact ⟨rfl, rfl⟩

theorem step_refines {a : Aggregator} (ha : a.ended = none) {e : Event} (h : WriteSucceeds e) :
    batching (step a e) = (batching a).step writeAll (arrival e) ∧ (step a e).ended = none := by
  unfold step
  rw [ha]
  cases e with
  | received nstats stat fault =>
      dsimp only [arrival, Batching.step, batching]
      split
      · exact writeBatch_refines h _
      · exact ⟨rfl, rfl⟩
  | tick fault =>
      dsimp only [arrival, Batching.step, batching]
      split
      · exact ⟨rfl, ha⟩
      · exact writeBatch_refines h a

theorem run_refines {a : Aggregator} (ha : a.ended = none) {events : List Event}
    (h : ∀ e ∈ events, WriteSucceeds e) :
    batching (run step a events) =
        run (Batching.step writeAll) (batching a) (events.map arrival) ∧
      (run step a events).ended = none := by
  induction events generalizing a with
  | nil => exact ⟨rfl, ha⟩
  | cons e rest ih =>
      obtain ⟨he, hrest⟩ := List.forall_mem_cons.mp h
      obtain ⟨hstep, hended⟩ := step_refines ha he
      have hrun := ih hended hrest
      rw [hstep] at hrun
      exact hrun

theorem items_arrival (events : List Event) :
    items (events.map arrival) = events.filterMap receivedStat := by
  rw [items, List.filterMap_map]
  apply List.filterMap_congr
  intro e _
  cases e <;> rfl

theorem lastLimit_arrival (events : List Event) :
    lastLimit (events.map arrival) = (events.filterMap receivedNstats).getLast? := by
  rw [lastLimit, List.filterMap_map]
  congr 1
  apply List.filterMap_congr
  intro e _
  cases e <;> rfl

/-- What was received is in the batches and the vector, in its order; the vector stays
shorter than the last number it was given and is empty after a tick; and every row has the
last status written for it. -/
theorem statuses_kept_in_order (db : Db) (events : List Event)
    (h : ∀ e ∈ events, WriteSucceeds e) :
    (run step (startAggregator db) events).written.flatten ++
        (run step (startAggregator db) events).statsVec = events.filterMap receivedStat ∧
      (∀ nstats ∈ (events.filterMap receivedNstats).getLast?, 1 ≤ nstats →
        (run step (startAggregator db) events).statsVec.length < nstats) ∧
      (∀ fault, WriteSucceeds (.tick fault) →
        (step (run step (startAggregator db) events) (.tick fault)).statsVec = []) ∧
      (run step (startAggregator db) events).db =
        writeAll (run step (startAggregator db) events).written.flatten db ∧
      ∀ k, (run step (startAggregator db) events).db.stats.find k =
        match lastFor k (run step (startAggregator db) events).written.flatten with
        | some e => (db.stats.find k).map (setStatus e.status)
        | none => db.stats.find k := by
  obtain ⟨hrun, hended⟩ := run_refines (a := startAggregator db) rfl h
  have hnil : ∀ db, writeAll [] db = db := fun _ => rfl
  have hfaithful := Batching.run_faithful hnil writeAll_append db (events.map arrival)
  rw [show Batching.begun db = batching (startAggregator db) from rfl, ← hrun] at hfaithful
  have hstored := hfaithful.stored
  refine ⟨?_, ?_, ?_, hstored, ?_⟩
  · rw [← items_arrival]
    exact hfaithful.kept
  · rw [← lastLimit_arrival]
    exact hfaithful.short
  · intro fault hfault
    obtain ⟨hstep, _⟩ := step_refines hended hfault
    have hempty : (Batching.step writeAll (batching (run step (startAggregator db) events))
        (arrival (.tick fault))).buffer = [] := Batching.timeout_empties
    rw [← hstep] at hempty
    exact hempty
  · intro k
    rw [show (run step (startAggregator db) events).db = _ from hstored]
    exact find_writeAll k _ db

end Runs

section Instances

open Xcplane.Specimen

/-- Two statuses of one service fill a batch, and a third one waits for the ticker. -/
def nightly : List Event :=
  [.received 2 ⟨"alpha", .Ssh, ⟨.Sick, 1, 40, 0⟩⟩ fun _ => none,
    .received 2 ⟨"alpha", .Ssh, ⟨.Ok, 0, 40, 0⟩⟩ fun _ => none,
    .received 3 ⟨"alpha", .Nginx, ⟨.Sick, 1, 50, 0⟩⟩ fun _ => none,
    .tick fun _ => none]

example : ((run step (startAggregator monitoredDb) nightly).db.stats.find ("alpha", "ssh")).map
    (fun r => (r.health, r.failedSince)) = some ("Ok", 40) := by
  decide +kernel

theorem statuses_kept_in_order_nightly :
    (run step (startAggregator monitoredDb) nightly).written.flatten ++
      (run step (startAggregator monitoredDb) nightly).statsVec =
        nightly.filterMap receivedStat :=
  (statuses_kept_in_order monitoredDb nightly (by
    simp only [nightly, List.forall_mem_cons]
    exact ⟨fun _ => rfl, fun _ => rfl, fun _ => rfl, fun _ => rfl, List.forall_mem_nil _⟩)).1

end Instances

end Xcplane.StatusAggregator
