import Xcplane.Specimen

/-!
The GeoIP database. An update removes the file first and fills a new one in one
transaction.
-/

namespace Xcplane.GeoIp

open Xcplane.Types
open Xcplane.Lib

abbrev Bytes := List UInt8

/-- A row of the tables, and of the list they are made from. -/
structure GeoRow where
  start : String
  finish : String
  country : String
  deriving DecidableEq, Repr

structure GeoTables where
  geoip4 : List GeoRow
  geoip6 : List GeoRow
  deriving DecidableEq, Repr

inductive GeoFile
  | absent
  | database (tables : Option GeoTables)
  deriving DecidableEq, Repr

def GeoFile.tables : GeoFile → Option GeoTables
  | .absent => none
  | .database tables => tables

/-- How the steps outside the daemon end, the insertions by their rows. -/
structure GeoSteps where
  removeFile : Except BoxError Unit
  openDb : Except BoxError Unit
  beginTx : Except BoxError Unit
  createTables : Except BoxError Unit
  insert : Nat → Except BoxError Unit
  createIndexes : Except BoxError Unit
  commit : Except BoxError Unit

section Loading

variable (F : Forms) (steps : GeoSteps)

/-- A range is inserted once. -/
def insertRow (rows : List GeoRow) (row : GeoRow) : List GeoRow :=
  if rows.any fun r => r.start == row.start && r.finish == row.finish then rows else rows ++ [row]

def loadRow (i : Nat) (tables : GeoTables) (row : GeoRow) : Except BoxError GeoTables := do
  let start ← okOr (F.ipParse row.start) "invalid IP address syntax"
  let finish ← okOr (F.ipParse row.finish) "invalid IP address syntax"
  match start, finish with
  | .v4 _, .v4 _ => do
      steps.insert i
      .ok { tables with geoip4 := insertRow tables.geoip4 row }
  | .v6 _, .v6 _ => do
      steps.insert i
      .ok { tables with geoip6 := insertRow tables.geoip6 row }
  -- The two addresses are not of one kind: the row is skipped.
  | .v4 _, .v6 _ => .ok tables
  | .v6 _, .v4 _ => .ok tables

def loadRows (i : Nat) (tables : GeoTables) : List (Except BoxError GeoRow) →
    Except BoxError GeoTables
  | [] => .ok tables
  | result :: rest => do
      let row ← result
      let tables ← loadRow F steps i tables row
      loadRows (i + 1) tables rest

/-- The transaction, with the rows that the CSV reader gives. -/
def populate (rows : List (Except BoxError GeoRow)) : Except BoxError GeoTables := do
  steps.createTables
  let tables ← loadRows F steps 0 { geoip4 := [], geoip6 := [] } rows
  steps.createIndexes
  steps.commit
  .ok tables

/-- Filling the file that was opened. The transaction is rolled back where it does not
come to its commit. -/
def fill (rows : List (Except BoxError GeoRow)) : GeoFile × Except BoxError Unit :=
  match steps.openDb with
  | .error e => (.absent, .error e)
  | .ok () =>
      match steps.beginTx with
      | .error e => (.database none, .error e)
      | .ok () =>
          match populate F steps rows with
          | .error e => (.database none, .error e)
          | .ok tables => (.database (some tables), .ok ())

def createGeoipDb (readCsv : Bytes → List (Except BoxError GeoRow)) (data : Bytes) :
    GeoFile → GeoFile × Except BoxError Unit
  | .absent => fill F steps (readCsv data)
  | .database tables =>
      match steps.removeFile with
      | .error e => (.database tables, .error e)
      | .ok () => fill F steps (readCsv data)

end Loading

/-- An update of the weekly updater: the steps and the download, if there is one. -/
structure Update where
  steps : GeoSteps
  data : Except BoxError Bytes

/-- One round of the updater, which goes on after any error. -/
def runUpdate (F : Forms) (readCsv : Bytes → List (Except BoxError GeoRow)) (file : GeoFile)
    (u : Update) : GeoFile :=
  match u.data with
  | .error _ => file
  | .ok data => (createGeoipDb F u.steps readCsv data file).1

section Outcome

variable {F : Forms} {steps : GeoSteps} {readCsv : Bytes → List (Except BoxError GeoRow)}
  {data : Bytes} {file : GeoFile}

theorem fill_outcome (rows : List (Except BoxError GeoRow)) :
    (∃ e, fill F steps rows = ((fill F steps rows).1, .error e) ∧
        (fill F steps rows).1.tables = none) ∨
      ∃ tables, populate F steps rows = .ok tables ∧
        fill F steps rows = (.database (some tables), .ok ()) := by
  unfold fill
  cases steps.openDb with
  | error e => exact .inl ⟨e, rfl, rfl⟩
  | ok _ =>
      cases steps.beginTx with
      | error e => exact .inl ⟨e, rfl, rfl⟩
      | ok _ =>
          cases hrows : populate F steps rows with
          | error e => exact .inl ⟨e, rfl, rfl⟩
          | ok tables => exact .inr ⟨tables, rfl, rfl⟩

/-- What an update can come to. -/
inductive Outcome (F : Forms) (steps : GeoSteps)
    (readCsv : Bytes → List (Except BoxError GeoRow)) (data : Bytes) (file : GeoFile) :
    GeoFile × Except BoxError Unit → Prop
  | kept (e : BoxError) (hfile : file ≠ .absent) (hremove : steps.removeFile = .error e) :
      Outcome F steps readCsv data file (file, .error e)
  | lost (file' : GeoFile) (e : BoxError) (htables : file'.tables = none) :
      Outcome F steps readCsv data file (file', .error e)
  | rebuilt (tables : GeoTables) (hrows : populate F steps (readCsv data) = .ok tables) :
      Outcome F steps readCsv data file (.database (some tables), .ok ())

theorem outcome_createGeoipDb : Outcome F steps readCsv data file
    (createGeoipDb F steps readCsv data file) := by
  have hfill : Outcome F steps readCsv data file (fill F steps (readCsv data)) := by
    rcases fill_outcome (readCsv data) with ⟨e, heq, htables⟩ | ⟨tables, hrows, heq⟩
    · rw [heq]
      exact .lost _ e htables
    · rw [heq]
      exact .rebuilt tables hrows
  cases file with
  | absent => exact hfill
  | database tables =>
      rw [createGeoipDb]
      cases hremove : steps.removeFile with
      | error e => exact .kept e (by rintro ⟨⟩) hremove
      | ok _ => exact hfill

/-- The tables of a database after a round: as before, none, or all that was loaded. -/
theorem runUpdate_tables (readCsv : Bytes → List (Except BoxError GeoRow)) (u : Update) :
    (runUpdate F readCsv file u).tables = file.tables ∨
      (runUpdate F readCsv file u).tables = none ∨
        ∃ data tables, u.data = .ok data ∧ populate F u.steps (readCsv data) = .ok tables ∧
          (runUpdate F readCsv file u).tables = some tables := by
  rw [runUpdate]
  cases hdata : u.data with
  | error e => exact .inl rfl
  | ok data =>
      simp only
      generalize hout : createGeoipDb F u.steps readCsv data file = out
      have houtcome : Outcome F u.steps readCsv data file out := hout ▸ outcome_createGeoipDb
      cases houtcome with
      | kept e _ _ => exact .inl rfl
      | lost file' e htables => exact .inr (.inl htables)
      | rebuilt tables hrows => exact .inr (.inr ⟨data, tables, rfl, hrows, rfl⟩)

/-- An update that fails leaves the old database where it could not be removed, and no table
elsewhere; and whatever the weekly updates come to, there are the tables from before them,
none, or all the rows of one download. -/
theorem createGeoipDb_all_or_nothing (F : Forms)
    (readCsv : Bytes → List (Except BoxError GeoRow)) :
    (∀ steps data file e, (createGeoipDb F steps readCsv data file).2 = .error e →
      (steps.removeFile = .error e ∧ (createGeoipDb F steps readCsv data file).1 = file) ∨
        (createGeoipDb F steps readCsv data file).1.tables = none) ∧
    ∀ (updates : List Update) (file : GeoFile),
      (updates.foldl (runUpdate F readCsv) file).tables = file.tables ∨
        (updates.foldl (runUpdate F readCsv) file).tables = none ∨
          ∃ u ∈ updates, ∃ data tables, u.data = .ok data ∧
            populate F u.steps (readCsv data) = .ok tables ∧
              (updates.foldl (runUpdate F readCsv) file).tables = some tables := by
  constructor
  · intro steps data file e h
    generalize hout : createGeoipDb F steps readCsv data file = out at h ⊢
    have houtcome : Outcome F steps readCsv data file out := hout ▸ outcome_createGeoipDb
    cases houtcome with
    | kept e' _ hremove =>
        cases h
        exact .inl ⟨hremove, rfl⟩
    | lost file' e' htables => exact .inr htables
    | rebuilt tables _ => cases h
  · intro updates
    induction updates with
    | nil => exact fun file => .inl rfl
    | cons u rest ih =>
        intro file
        rw [List.foldl_cons]
        rcases ih (runUpdate F readCsv file u) with hsame | hnone | ⟨v, hv, hloaded⟩
        · rw [hsame]
          rcases runUpdate_tables readCsv u with hold | hnone | hloaded
          · exact .inl hold
          · exact .inr (.inl hnone)
          · exact .inr (.inr ⟨u, List.mem_cons_self, hloaded⟩)
        · exact .inr (.inl hnone)
        · exact .inr (.inr ⟨v, List.mem_cons_of_mem u hv, hloaded⟩)

end Outcome

section Parsed

variable {F : Forms} {steps : GeoSteps} {tables tables' : GeoTables} {row : GeoRow}

/-- Every range is one of addresses of its table's kind. -/
structure GeoTables.Parsed (F : Forms) (tables : GeoTables) : Prop where
  geoip4 : ∀ r ∈ tables.geoip4, ∃ a b, F.ipParse r.start = some (.v4 a) ∧
    F.ipParse r.finish = some (.v4 b)
  geoip6 : ∀ r ∈ tables.geoip6, ∃ a b, F.ipParse r.start = some (.v6 a) ∧
    F.ipParse r.finish = some (.v6 b)

theorem mem_insertRow {rows : List GeoRow} {r : GeoRow} (h : r ∈ insertRow rows row) :
    r ∈ rows ∨ r = row := by
  unfold insertRow at h
  split at h
  · exact .inl h
  · simpa using h

theorem parsed_loadRow {i : Nat} (h : loadRow F steps i tables row = .ok tables')
    (hparsed : tables.Parsed F) : tables'.Parsed F := by
  obtain ⟨start, hstart, h⟩ := bind_eq_ok_iff.mp h
  obtain ⟨finish, hfinish, h⟩ := bind_eq_ok_iff.mp h
  rw [okOr_eq_ok_iff] at hstart hfinish
  cases start with
  | v4 a =>
      cases finish with
      | v4 b =>
          obtain ⟨_, _, h⟩ := bind_eq_ok_iff.mp h
          cases h
          refine ⟨?_, hparsed.geoip6⟩
          intro r hr
          rcases mem_insertRow hr with hr | rfl
          · exact hparsed.geoip4 r hr
          · exact ⟨a, b, hstart, hfinish⟩
      | v6 b =>
          cases h
          exact hparsed
  | v6 a =>
      cases finish with
      | v4 b =>
          cases h
          exact hparsed
      | v6 b =>
          obtain ⟨_, _, h⟩ := bind_eq_ok_iff.mp h
          cases h
          refine ⟨hparsed.geoip4, ?_⟩
          intro r hr
          rcases mem_insertRow hr with hr | rfl
          · exact hparsed.geoip6 r hr
          · exact ⟨a, b, hstart, hfinish⟩

theorem parsed_loadRows {i : Nat} {rows : List (Except BoxError GeoRow)}
    (h : loadRows F steps i tables rows = .ok tables') (hparsed : tables.Parsed F) :
    tables'.Parsed F := by
  induction rows generalizing i tables with
  | nil =>
      cases h
      exact hparsed
  | cons result rest ih =>
      obtain ⟨row, _, h⟩ := bind_eq_ok_iff.mp h
      obtain ⟨mid, hmid, h⟩ := bind_eq_ok_iff.mp h
      exact ih h (parsed_loadRow hmid hparsed)

/-- A database that was filled has only ranges that were parsed. -/
theorem parsed_populate {rows : List (Except BoxError GeoRow)}
    (h : populate F steps rows = .ok tables) : tables.Parsed F := by
  obtain ⟨_, _, h⟩ := bind_eq_ok_iff.mp h
  obtain ⟨loaded, hloaded, h⟩ := bind_eq_ok_iff.mp h
  obtain ⟨_, _, h⟩ := bind_eq_ok_iff.mp h
  obtain ⟨_, _, h⟩ := bind_eq_ok_iff.mp h
  cases h
  exact parsed_loadRows hloaded ⟨by simp, by simp⟩

end Parsed

section Instances

open Xcplane.Specimen

def smooth : GeoSteps where
  removeFile := .ok ()
  openDb := .ok ()
  beginTx := .ok ()
  createTables := .ok ()
  insert _ := .ok ()
  createIndexes := .ok ()
  commit := .ok ()

def iranRow : GeoRow := ⟨"8.8.8.8", "9.9.9.9", "IR"⟩

def filled : GeoFile := .database (some ⟨[iranRow], []⟩)

/-- The rows of a list without quotes and empty lines. -/
def plainCsv (data : Bytes) : List (Except BoxError GeoRow) :=
  ((data.splitOn 10).filter fun line => !line.isEmpty).map fun line =>
    match (line.splitOn 44).map fun field => String.ofList (field.map fun b => .ofNat b.toNat) with
    | [start, finish, country] => .ok ⟨start, finish, country⟩
    | _ => .error "missing field"

def malformed : Bytes :=
  "8.8.8.8,9.9.9.9,IR\nstart,end,country\n".toList.map fun c => UInt8.ofNat c.toNat

/-- The second row fails, and the ranges that were there before are gone. -/
theorem createGeoipDb_malformed : filled.tables = some ⟨[iranRow], []⟩ ∧
    createGeoipDb forms smooth plainCsv malformed filled =
      (.database none, .error "invalid IP address syntax") :=
  ⟨rfl, rfl⟩

end Instances

end Xcplane.GeoIp
