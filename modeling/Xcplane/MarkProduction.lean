import Xcplane.Lib.Document
import Xcplane.Lib.Interrupted
import Xcplane.Lib.Utf8
import Xcplane.Provision
import Xcplane.Specimen

/-!
Marking a server as a production unit: in memory, in the database and in the config file,
one after the other. Nothing is undone where a step fails.
-/

namespace Xcplane.MarkProduction

open Xcplane.Types
open Xcplane.Lib
open Xcplane.Lib.Document
open Xcplane.Database
open Xcplane.DaemonCycle
open Xcplane.Provision

section Marking

/-- What is marked: the running server, the database and the config file, if there is one. -/
structure Stores where
  server : KetServer
  db : Db
  cloudConfig : Option (List UInt8)

/-- What fails outside the daemon. A write that fails can be one that was begun. -/
structure Failures where
  update : Option BoxError
  read : Option BoxError
  write : Option (BoxError × Option Nat)

def readToString (failure : Option BoxError) (file : Option (List UInt8)) :
    Except BoxError String :=
  match failure, file with
  | some e, _ => .error e
  | none, none => .error "No such file or directory (os error 2)"
  | none, some bytes =>
      match Utf8.strict bytes with
      | .error _ => .error "stream did not contain valid UTF-8"
      | .ok chars => .ok (String.ofList chars)

def writeFile (failure : Option (BoxError × Option Nat)) (text : String)
    (file : Option (List UInt8)) : Option (List UInt8) × Except BoxError Unit :=
  match failure with
  | none => (some text.toUTF8.toList, .ok ())
  | some (e, none) => (file, .error e)
  | some (e, some n) => (some (text.toUTF8.toList.take n), .error e)

/-- The state in the first table of that name. -/
def markTables (name : String) : List Table → Except BoxError (List Table)
  | [] => .ok []
  | t :: rest =>
      match t.lookup "name" with
      -- The index into a table without the key panics.
      | none => .error "index not found"
      | some item =>
          if item.asStr = some name then
            .ok (insert t "state" (.string "Production") :: rest)
          else do
            let rest ← markTables name rest
            .ok (t :: rest)

def markDocument (name : String) (doc : Table) : Except BoxError Table := do
  let servers ← okOr ((doc.lookup "servers").bind Item.asArrayOfTables)
    "servers must be an array of tables in cloud config."
  let servers ← markTables name servers
  .ok (insert doc "servers" (.tables servers))

/-- The document of the config file as it is to be written. -/
def editCloudConfig (T : Texts) (failure : Option BoxError) (name : String)
    (file : Option (List UInt8)) : Except BoxError Table := do
  let text ← readToString failure file
  let doc ← T.parseDocument text
  markDocument name doc

def markServerProduction (T : Texts) (f : Failures) (xuiToken : String) (st : Stores) :
    Stores × Except BoxError Unit :=
  let marked := produced xuiToken st.server
  let st := { st with server := marked.1 }
  match marked.2, f.update with
  | some e, _ => (st, .error e)
  | none, some e => (st, .error e)
  | none, none =>
      let st := { st with db := storeState st.server.name .Production (some xuiToken) st.db }
      match editCloudConfig T f.read st.server.name st.cloudConfig with
      | .error e => (st, .error e)
      | .ok doc =>
          let written := writeFile f.write (T.documentText doc) st.cloudConfig
          ({ st with cloudConfig := written.1 }, written.2)

end Marking

section Statement

/-- The changes before the config file. -/
inductive Change
  | state
  | xuiToken
  | ansibleConn
  | row

def changes : List Change :=
  [.state, .xuiToken, .ansibleConn, .row]

/-- A change, where it can be made. The token is set once. -/
def Change.make (xuiToken : String) (change : Change) (st : Stores) : Option Stores :=
  match change with
  | .state => some { st with server := { st.server with state := .Production } }
  | .xuiToken =>
      match st.server.secrets.xuiToken with
      | some _ => none
      | none =>
          let secrets := { st.server.secrets with xuiToken := some xuiToken }
          some { st with server := { st.server with secrets := secrets } }
  | .ansibleConn => st.server.ansibleConn.map fun conn =>
      { st with server := { st.server with ansibleConn := some (connAt st.server.sshPort conn) } }
  | .row =>
      some { st with db := storeState st.server.name .Production (some xuiToken) st.db }

/-- The changes that were made before a failure: some, in their order, up to one that
could not be made. -/
structure Begun (f : Failures) (xuiToken : String) (st st' : Stores) (done : List Change) :
    Prop where
  inOrder : done <+: changes
  nonempty : done ≠ []
  made : attempt (Change.make xuiToken) st done = some st'
  stopped : ∀ next, done ++ [next] <+: changes →
    next.make xuiToken st' = none ∨ next = .row ∧ f.update.isSome

/-- A document with a server marked in it. -/
structure DocumentMarked (name : String) (doc doc' : Table) : Prop where
  others : ∀ key, key ≠ "servers" → doc'.lookup key = doc.lookup key
  servers : ∃ l l', doc.lookup "servers" = some (.tables l) ∧
    doc'.lookup "servers" = some (.tables l') ∧
      (l' = l ∧ (∀ t ∈ l, (t.lookup "name").bind Item.asStr ≠ some name) ∨
        ∃ before t t' after, l = before ++ t :: after ∧ l' = before ++ t' :: after ∧
          (∀ x ∈ before, (x.lookup "name").bind Item.asStr ≠ some name) ∧
            (t.lookup "name").bind Item.asStr = some name ∧
              ∀ key, t'.lookup key =
                if key = "state" then some (.string "Production") else t.lookup key)

/-- The stores agree on the server, as far as they know it. -/
structure Marked (T : Texts) (xuiToken : String) (st st' : Stores) : Prop where
  server : ∃ conn, st.server.ansibleConn = some conn ∧
    st'.server =
      { st.server with
        state := .Production
        secrets := { st.server.secrets with xuiToken := some xuiToken }
        ansibleConn := some (connAt st.server.sshPort conn) }
  row : ∀ name, st'.db.servers.find name =
    if name = st.server.name then
      (st.db.servers.find name).map fun r =>
        { r with state := ServerState.Production.toText, xuiToken := some xuiToken }
    else st.db.servers.find name
  tables : st'.db = { st.db with servers := st'.db.servers }
  file : ∃ text doc doc', readToString none st.cloudConfig = .ok text ∧
    T.parseDocument text = .ok doc ∧ DocumentMarked st.server.name doc doc' ∧
      st'.cloudConfig = some (T.documentText doc').toUTF8.toList

end Statement

section Document

variable {name : String} {doc doc' : Table} {l l' : List Table}

theorem markTables_ok (h : markTables name l = .ok l') :
    l' = l ∧ (∀ t ∈ l, (t.lookup "name").bind Item.asStr ≠ some name) ∨
      ∃ before t t' after, l = before ++ t :: after ∧ l' = before ++ t' :: after ∧
        (∀ x ∈ before, (x.lookup "name").bind Item.asStr ≠ some name) ∧
          (t.lookup "name").bind Item.asStr = some name ∧
            ∀ key, t'.lookup key =
              if key = "state" then some (.string "Production") else t.lookup key := by
  induction l generalizing l' with
  | nil =>
      cases h
      exact .inl ⟨rfl, fun t ht => absurd ht List.not_mem_nil⟩
  | cons t rest ih =>
      unfold markTables at h
      cases hitem : t.lookup "name" with
      | none =>
          rw [hitem] at h
          cases h
      | some item =>
          rw [hitem] at h
          simp only at h
          have hname : (t.lookup "name").bind Item.asStr = item.asStr := by
            rw [hitem]
            rfl
          by_cases hfound : item.asStr = some name
          · rw [if_pos hfound] at h
            cases h
            exact .inr ⟨[], t, _, rest, rfl, rfl, fun x hx => absurd hx List.not_mem_nil,
              hname.trans hfound, lookup_insert t "state" (.string "Production")⟩
          · rw [if_neg hfound] at h
            obtain ⟨rest', hrest, h⟩ := bind_eq_ok_iff.mp h
            cases h
            rw [← hname] at hfound
            rcases ih hrest with ⟨rfl, hnone⟩ | ⟨before, u, u', after, rfl, rfl, hbefore, hu⟩
            · exact .inl ⟨rfl, List.forall_mem_cons.mpr ⟨hfound, hnone⟩⟩
            · exact .inr ⟨t :: before, u, u', after, rfl, rfl,
                List.forall_mem_cons.mpr ⟨hfound, hbefore⟩, hu⟩

theorem documentMarked_of_ok (h : markDocument name doc = .ok doc') :
    DocumentMarked name doc doc' := by
  obtain ⟨l, hl, h⟩ := bind_eq_ok_iff.mp h
  obtain ⟨l', hl', h⟩ := bind_eq_ok_iff.mp h
  cases h
  obtain ⟨item, hitem, hasTables⟩ := Option.bind_eq_some_iff.mp (okOr_eq_ok_iff.mp hl)
  have htables : item = .tables l := by
    cases item with
    | tables l₀ =>
        cases hasTables
        rfl
    | string _ => cases hasTables
    | integer _ => cases hasTables
    | boolean _ => cases hasTables
    | array _ => cases hasTables
    | table _ => cases hasTables
  constructor
  · intro key hkey
    rw [lookup_insert, if_neg hkey]
  · refine ⟨l, l', by rw [hitem, htables], ?_, markTables_ok hl'⟩
    rw [lookup_insert, if_pos rfl]

end Document

section Files

variable {T : Texts} {failure : Option BoxError} {name text : String}
  {file : Option (List UInt8)} {doc : Table}

theorem readToString_ok (h : readToString failure file = .ok text) :
    readToString none file = .ok text := by
  cases failure with
  | some e => cases h
  | none => exact h

theorem editCloudConfig_ok (h : editCloudConfig T failure name file = .ok doc) :
    ∃ text doc₀, readToString none file = .ok text ∧ T.parseDocument text = .ok doc₀ ∧
      DocumentMarked name doc₀ doc := by
  obtain ⟨text, htext, h⟩ := bind_eq_ok_iff.mp h
  obtain ⟨doc₀, hdoc₀, h⟩ := bind_eq_ok_iff.mp h
  exact ⟨text, doc₀, readToString_ok htext, hdoc₀, documentMarked_of_ok h⟩

end Files

section Memory

/-- However the marking in memory ends, there is a token afterwards. -/
theorem exists_token_produced (xuiToken : String) (s : KetServer) :
    ∃ token, (produced xuiToken s).1.secrets.xuiToken = some token := by
  rcases produced_cases xuiToken s with ⟨token, htoken, heq⟩ | ⟨-, -, heq⟩ | ⟨conn, -, -, heq⟩
  · rw [heq]
    exact ⟨token, htoken⟩
  · rw [heq]
    exact ⟨xuiToken, rfl⟩
  · rw [heq]
    exact ⟨xuiToken, rfl⟩

end Memory

section Order

variable {T : Texts} {f : Failures} {xuiToken : String} {st st' : Stores} {e : BoxError}

/-- The changes in memory, up to the one that ends with an error. -/
theorem begun_of_produced_error (h : (produced xuiToken st.server).2 = some e) :
    ∃ done, Begun f xuiToken st { st with server := (produced xuiToken st.server).1 } done := by
  rcases produced_cases xuiToken st.server with
    ⟨token, htoken, heq⟩ | ⟨htoken, hconn, heq⟩ | ⟨conn, -, -, heq⟩
  · rw [heq]
    refine ⟨[.state], ⟨_, rfl⟩, List.cons_ne_nil _ _, rfl, ?_⟩
    intro next hnext
    simp only [changes, List.cons_append, List.nil_append, List.cons_prefix_cons] at hnext
    obtain ⟨-, rfl, -⟩ := hnext
    left
    simp only [Change.make, htoken]
  · rw [heq]
    refine ⟨[.state, .xuiToken], ⟨_, rfl⟩, List.cons_ne_nil _ _, ?_, ?_⟩
    · simp only [attempt, Change.make, Option.bind_some, htoken]
      rfl
    · intro next hnext
      simp only [changes, List.cons_append, List.nil_append, List.cons_prefix_cons] at hnext
      obtain ⟨-, -, rfl, -⟩ := hnext
      left
      simp only [Change.make, withToken, hconn, Option.map_none]
  · rw [heq] at h
    cases h

/-- A server that was marked in memory, by the first three changes. -/
theorem produced_ok (h : (produced xuiToken st.server).2 = none) :
    ∃ conn, st.server.ansibleConn = some conn ∧
      (produced xuiToken st.server).1 =
        { withToken xuiToken st.server with
          ansibleConn := some (connAt st.server.sshPort conn) } ∧
      attempt (Change.make xuiToken) st [.state, .xuiToken, .ansibleConn] =
        some { st with server := (produced xuiToken st.server).1 } := by
  rcases produced_cases xuiToken st.server with
    ⟨token, -, heq⟩ | ⟨-, -, heq⟩ | ⟨conn, htoken, hconn, heq⟩
  · rw [heq] at h
    cases h
  · rw [heq] at h
    cases h
  · rw [heq]
    refine ⟨conn, hconn, rfl, ?_⟩
    simp only [attempt, Change.make, Option.bind_some, htoken, hconn, Option.map_some]
    rfl

/-- The stores before the config file is touched. -/
def stored (xuiToken : String) (st : Stores) : Stores :=
  { st with
    server := (produced xuiToken st.server).1
    db := storeState st.server.name .Production (some xuiToken) st.db }

/-- All the changes before the config file. -/
theorem begun_changes (h : (produced xuiToken st.server).2 = none) :
    Begun f xuiToken st (stored xuiToken st) changes where
  inOrder := List.prefix_refl changes
  nonempty := List.cons_ne_nil _ _
  made := by
    obtain ⟨conn, -, -, hmade⟩ := produced_ok h
    show attempt (Change.make xuiToken) st ([.state, .xuiToken, .ansibleConn] ++ [.row]) = _
    refine attempt_append_eq_some_iff.mpr ⟨_, hmade, ?_⟩
    simp only [attempt, Change.make, Option.bind_some, produced_name, stored]
  stopped := by
    intro next hnext
    have hlength := hnext.length_le
    rw [List.length_append] at hlength
    exact absurd hlength (Nat.not_succ_le_self changes.length)

theorem begun_of_update (h : (produced xuiToken st.server).2 = none) (hupdate : f.update = some e) :
    Begun f xuiToken st { st with server := (produced xuiToken st.server).1 }
      [.state, .xuiToken, .ansibleConn] where
  inOrder := ⟨[.row], rfl⟩
  nonempty := List.cons_ne_nil _ _
  made := by
    obtain ⟨conn, -, -, hmade⟩ := produced_ok h
    exact hmade
  stopped := by
    intro next hnext
    simp only [changes, List.cons_append, List.nil_append, List.cons_prefix_cons] at hnext
    obtain ⟨-, -, -, rfl, -⟩ := hnext
    exact .inr ⟨rfl, by rw [hupdate]; rfl⟩

theorem Begun.cloudConfig {done : List Change} (h : Begun f xuiToken st st' done) :
    st'.cloudConfig = st.cloudConfig := by
  refine attempt_preserves (fun s => s.cloudConfig = st.cloudConfig) ?_ rfl h.inOrder h.made
  intro change _ s s' hs hmade
  cases change with
  | state =>
      cases hmade
      exact hs
  | row =>
      cases hmade
      exact hs
  | xuiToken =>
      simp only [Change.make] at hmade
      split at hmade
      · cases hmade
      · cases hmade
        exact hs
  | ansibleConn =>
      obtain ⟨conn, _, rfl⟩ := Option.map_eq_some_iff.mp hmade
      exact hs

theorem markServerProduction_of_produced (h : (produced xuiToken st.server).2 = some e) :
    markServerProduction T f xuiToken st =
      ({ st with server := (produced xuiToken st.server).1 }, .error e) := by
  rw [markServerProduction, h]

theorem markServerProduction_of_update (h : (produced xuiToken st.server).2 = none)
    (hupdate : f.update = some e) :
    markServerProduction T f xuiToken st =
      ({ st with server := (produced xuiToken st.server).1 }, .error e) := by
  rw [markServerProduction, h, hupdate]

theorem markServerProduction_of_stored (h : (produced xuiToken st.server).2 = none)
    (hupdate : f.update = none) :
    markServerProduction T f xuiToken st =
      match editCloudConfig T f.read st.server.name st.cloudConfig with
      | .error e => (stored xuiToken st, .error e)
      | .ok doc =>
          ({ stored xuiToken st with
              cloudConfig := (writeFile f.write (T.documentText doc) st.cloudConfig).1 },
            (writeFile f.write (T.documentText doc) st.cloudConfig).2) := by
  rw [markServerProduction, h, hupdate]
  simp only [produced_name, stored]

/-- What the marking of a server can come to: it ends before the config file is written, or
in writing it. -/
theorem markServerProduction_cases (T : Texts) (f : Failures) (xuiToken : String)
    (st : Stores) :
    (∃ e done st', Begun f xuiToken st st' done ∧
        markServerProduction T f xuiToken st = (st', .error e)) ∨
      ∃ doc, (produced xuiToken st.server).2 = none ∧
        editCloudConfig T f.read st.server.name st.cloudConfig = .ok doc ∧
        markServerProduction T f xuiToken st =
          ({ stored xuiToken st with
              cloudConfig := (writeFile f.write (T.documentText doc) st.cloudConfig).1 },
            (writeFile f.write (T.documentText doc) st.cloudConfig).2) := by
  cases hmarked : (produced xuiToken st.server).2 with
  | some e =>
      obtain ⟨done, hdone⟩ := begun_of_produced_error (f := f) hmarked
      exact .inl ⟨e, done, _, hdone, markServerProduction_of_produced hmarked⟩
  | none =>
      cases hupdate : f.update with
      | some e =>
          exact .inl ⟨e, _, _, begun_of_update hmarked hupdate,
            markServerProduction_of_update hmarked hupdate⟩
      | none =>
          rw [markServerProduction_of_stored hmarked hupdate]
          cases editCloudConfig T f.read st.server.name st.cloudConfig with
          | error e => exact .inl ⟨e, changes, _, begun_changes hmarked, rfl⟩
          | ok doc => exact .inr ⟨doc, rfl, rfl, rfl⟩

theorem writeFile_error {failure : Option (BoxError × Option Nat)} {text : String}
    {file : Option (List UInt8)} (h : (writeFile failure text file).2 = .error e) :
    (writeFile failure text file).1 = file ∨
      ∃ cut, cut <+: text.toUTF8.toList ∧ (writeFile failure text file).1 = some cut := by
  unfold writeFile at h ⊢
  split at h
  · cases h
  · exact .inl rfl
  · exact .inr ⟨_, List.take_prefix _ _, rfl⟩

theorem writeFile_ok {failure : Option (BoxError × Option Nat)} {text : String}
    {file : Option (List UInt8)} (h : (writeFile failure text file).2 = .ok ()) :
    (writeFile failure text file).1 = some text.toUTF8.toList := by
  unfold writeFile at h ⊢
  split at h
  · rfl
  · cases h
  · cases h

/-- The stores with the config file written, of a server that was marked in memory. -/
theorem marked_of_written {doc : Table} (h : (produced xuiToken st.server).2 = none)
    (hdoc : editCloudConfig T f.read st.server.name st.cloudConfig = .ok doc) :
    Marked T xuiToken st
      { stored xuiToken st with cloudConfig := some (T.documentText doc).toUTF8.toList } where
  server := by
    obtain ⟨conn, hconn, hserver, -⟩ := produced_ok h
    exact ⟨conn, hconn, hserver⟩
  row name := by
    show (storeState st.server.name .Production (some xuiToken) st.db).servers.find name = _
    rw [storeState, KeyedTable.find_modify]
  tables := rfl
  file := by
    obtain ⟨text, doc₀, htext, hparsed, hmarked⟩ := editCloudConfig_ok hdoc
    exact ⟨text, doc₀, doc, htext, hparsed, hmarked, rfl⟩

/-- The token that a marking leaves keeps a second one from changing anything. -/
theorem markServerProduction_again (T : Texts) (f f' : Failures) (xuiToken xuiToken' : String)
    (st : Stores) :
    markServerProduction T f' xuiToken' (markServerProduction T f xuiToken st).1 =
      ((markServerProduction T f xuiToken st).1, .error xuiToken') := by
  generalize hst' : (markServerProduction T f xuiToken st).1 = st'
  have hserver : st'.server = (produced xuiToken st.server).1 := by
    rw [← hst', markServerProduction]
    split
    · rfl
    · rfl
    · simp only
      split
      · rfl
      · rfl
  obtain ⟨token, htoken⟩ := exists_token_produced xuiToken st.server
  have hstate : (produced xuiToken st.server).1.state = .Production := by
    rw [produced_same]
  rw [← hserver] at htoken hstate
  have hagain : produced xuiToken' st'.server = (st'.server, some xuiToken') := by
    rw [produced_of_token htoken, ← hstate]
  rw [markServerProduction_of_produced (congrArg Prod.snd hagain), hagain]

/-- The cloud and the database of the daemon whose task marks the server. -/
theorem markServerProduction_daemon {δ : Type} (k : Marking δ) (hk : k.update = f.update)
    (c : Cloud) (d : Daemon δ) (hd : d.db = st.db) :
    (Provision.markServerProduction k xuiToken c st.server d).cloud =
        some (putServer c (markServerProduction T f xuiToken st).1.server) ∧
      (Provision.markServerProduction k xuiToken c st.server d).db =
        (markServerProduction T f xuiToken st).1.db := by
  rw [Provision.markServerProduction, hk]
  cases hmarked : (produced xuiToken st.server).2 with
  | some e =>
      rw [markServerProduction_of_produced hmarked]
      exact ⟨rfl, hd⟩
  | none =>
      cases hupdate : f.update with
      | some e =>
          rw [markServerProduction_of_update hmarked hupdate]
          exact ⟨rfl, hd⟩
      | none =>
          rw [markServerProduction_of_stored hmarked hupdate]
          simp only [hd]
          cases editCloudConfig T f.read st.server.name st.cloudConfig with
          | error e => exact ⟨rfl, rfl⟩
          | ok doc => exact ⟨rfl, rfl⟩

/-- A marking that fails leaves the changes up to the one that could not be made; the config
file is as it was, or a write that failed left a beginning of the new text. One that succeeds
leaves the server, its row and its table as those of a production unit. -/
theorem markServerProduction_in_order (T : Texts) (f : Failures) (xuiToken : String)
    (st : Stores) :
    (∀ e, (markServerProduction T f xuiToken st).2 = .error e →
      ∃ done st', Begun f xuiToken st st' done ∧
        (markServerProduction T f xuiToken st).1.server = st'.server ∧
        (markServerProduction T f xuiToken st).1.db = st'.db ∧
        ((markServerProduction T f xuiToken st).1.cloudConfig = st.cloudConfig ∨
          done = changes ∧ ∃ doc cut,
            editCloudConfig T f.read st.server.name st.cloudConfig = .ok doc ∧
            cut <+: (T.documentText doc).toUTF8.toList ∧
            (markServerProduction T f xuiToken st).1.cloudConfig = some cut)) ∧
    ((markServerProduction T f xuiToken st).2 = .ok () →
      Marked T xuiToken st (markServerProduction T f xuiToken st).1) := by
  rcases markServerProduction_cases T f xuiToken st with
    ⟨e, done, st', hbegun, heq⟩ | ⟨doc, hmarked, hdoc, heq⟩
  · rw [heq]
    constructor
    · intro e' _
      exact ⟨done, st', hbegun, rfl, rfl, .inl hbegun.cloudConfig⟩
    · rintro ⟨⟩
  · rw [heq]
    constructor
    · intro e hwrite
      refine ⟨changes, stored xuiToken st, begun_changes hmarked, rfl, rfl, ?_⟩
      rcases writeFile_error hwrite with hkept | ⟨cut, hcut, hwritten⟩
      · exact .inl hkept
      · exact .inr ⟨rfl, doc, cut, hdoc, hcut, hwritten⟩
    · intro hwrite
      rw [writeFile_ok hwrite]
      exact marked_of_written hmarked hdoc

end Order

section Instances

open Xcplane.Specimen

def betaStores : Stores where
  server := beta
  db := { Db.empty with servers := KeyedTable.empty.upsert (serverRow forms beta) }
  cloudConfig := none

def noFailures : Failures where
  update := none
  read := none
  write := none

/-- A config file that lists another server, where nothing else is known of the server. -/
def unlistedStores : Stores where
  server := beta
  db := Db.empty
  cloudConfig := some []

def unlistedTexts : Texts where
  toString _ := ""
  parseDocument _ := .ok [("servers", .tables [[("name", .string "alpha")]])]
  documentText _ := "[[servers]]\nname = \"alpha\"\n"
  fromStr _ := .ok [("servers", .tables [[("name", .string "alpha")]])]

/-- Without a config file the marking fails, with the server and its row changed. Where the
row and the table are missing it succeeds, and they still are. -/
theorem markServerProduction_halfway :
    (betaStores.server.state = .Offgrid ∧ betaStores.server.secrets.xuiToken = none ∧
      (betaStores.db.servers.find "beta").map ServerRow.state = some "Offgrid" ∧
      ∀ T, ∃ st', markServerProduction T noFailures "token" betaStores =
          (st', .error "No such file or directory (os error 2)") ∧
        st'.server.state = .Production ∧ st'.server.secrets.xuiToken = some "token" ∧
        (st'.db.servers.find "beta").map ServerRow.state = some "Production") ∧
    ∃ st', markServerProduction unlistedTexts noFailures "token" unlistedStores = (st', .ok ()) ∧
      (st'.db.servers.find "beta").isNone ∧
      st'.cloudConfig = some "[[servers]]\nname = \"alpha\"\n".toUTF8.toList :=
  ⟨⟨rfl, rfl, rfl, fun _ => ⟨_, rfl, rfl, rfl, by decide⟩⟩, _, rfl, rfl, rfl⟩

end Instances

end Xcplane.MarkProduction
