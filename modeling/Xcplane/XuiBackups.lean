import Mathlib.Data.String.Basic
import Xcplane.Constants
import Xcplane.Lib.Trace

/-!
The backups of the panel's database. A download streams into the file that has its
final name from the start; the newest name is what a restore hands to its playbook, which
pushes the file later.
-/

namespace Xcplane.XuiBackups

open Xcplane.Lib

abbrev Bytes := List UInt8

/-- What is stored under a name, and since it was last emptied: the download that
emptied it, and whether another one has written there too. -/
structure Inode where
  content : Bytes
  opener : Nat
  mixed : Bool
  deriving DecidableEq, Repr

/-- An entry of the directory. The time of creation is not known everywhere. -/
structure FileEntry where
  name : String
  inode : Nat
  created : Option Nat
  deriving DecidableEq, Repr

inductive DownloadStatus
  | running
  | failed
  | completed
  deriving DecidableEq, Repr

structure Download where
  server : String
  name : String
  inode : Nat
  body : Bytes
  written : Nat
  status : DownloadStatus
  deriving DecidableEq, Repr

structure Restore where
  server : String
  latestBackup : String
  deriving DecidableEq, Repr

/-- The downloads and the restores are numbered as they start, the inodes as they are
created. -/
structure Backups where
  entries : List FileEntry
  inodes : List Inode
  downloads : List Download
  restores : List Restore
  deriving DecidableEq, Repr

def noBackups : Backups where
  entries := []
  inodes := []
  downloads := []
  restores := []

def backupName (server stamp : String) : String :=
  server ++ "-" ++ stamp ++ "-xui-backup.db"

/-- The test of the names that the selection and the pruning of a server share. -/
def isBackupOf (server name : String) : Bool :=
  (server ++ "-").toList.isPrefixOf name.toList && "backup.db".toList.isSuffixOf name.toList

section Directory

variable (server : String) (entries : List FileEntry)

def backupsOf : List FileEntry :=
  entries.filter fun f => isBackupOf server f.name

def lastXuiDb : Option String :=
  ((backupsOf server entries).map FileEntry.name).max?

/-- The files to prune, the newest of them first; one whose creation time cannot be
read is left out. -/
def prunable : List FileEntry :=
  let allDbs := (backupsOf server entries).filter fun f => f.created.isSome
  (allDbs.mergeSort fun a b => decide (b.created.getD 0 ≤ a.created.getD 0)).drop
    Constants.retainedXuiDbnum

/-- Removing stops at the first file for which it fails. -/
def removeFiles (files : List FileEntry) (removed : Nat) : List FileEntry :=
  entries.filter fun f => !(files.take removed).contains f

end Directory

/-- A write at a position of its own, beyond the end after a gap of zeros. -/
def overwrite (content : Bytes) (position : Nat) (chunk : Bytes) : Bytes :=
  content.take position ++ List.replicate (position - content.length) 0 ++ chunk ++
    content.drop (position + chunk.length)

inductive Event
  | create (server stamp : String) (created : Option Nat) (body : Bytes)
  | write (id count : Nat)
  | finish (id : Nat)
  | fail (id : Nat)
  | prune (server : String) (removed : Nat)
  | delete (server : String) (removed : Nat)
  | select (server : String)
  | push (restore : Nat)

def emptied (id : Nat) : Inode where
  content := []
  opener := id
  mixed := false

def started (server name : String) (inode : Nat) (body : Bytes) : Download where
  server := server
  name := name
  inode := inode
  body := body
  written := 0
  status := .running

/-- The file of that name is emptied if there is one. -/
def create (st : Backups) (server name : String) (created : Option Nat) (body : Bytes) :
    Backups :=
  match st.entries.find? (fun f => f.name == name) with
  | some f =>
      { st with
        inodes := st.inodes.set f.inode (emptied st.downloads.length)
        downloads := st.downloads ++ [started server name f.inode body] }
  | none =>
      { st with
        entries := st.entries ++ [{ name, inode := st.inodes.length, created }]
        inodes := st.inodes ++ [emptied st.downloads.length]
        downloads := st.downloads ++ [started server name st.inodes.length body] }

def Download.chunk (d : Download) (count : Nat) : Bytes :=
  (d.body.drop d.written).take count

def Inode.receive (f : Inode) (id position : Nat) (chunk : Bytes) : Inode :=
  if chunk = [] then f
  else
    { content := overwrite f.content position chunk
      opener := f.opener
      mixed := f.mixed || f.opener != id }

def write (st : Backups) (id count : Nat) (d : Download) : Backups :=
  { st with
    inodes := st.inodes.modify d.inode fun f => f.receive id d.written (d.chunk count)
    downloads := st.downloads.set id { d with written := d.written + (d.chunk count).length } }

/-- The permissions of the file are set by its name, which fails where it was pruned. -/
def finish (st : Backups) (id : Nat) (d : Download) : Backups :=
  if d.written = d.body.length ∧ st.entries.any (fun f => f.name == d.name) then
    { st with downloads := st.downloads.set id { d with status := .completed } }
  else { st with downloads := st.downloads.set id { d with status := .failed } }

def ofRunning (st : Backups) (id : Nat) (act : Download → Backups) : Backups :=
  match st.downloads[id]? with
  | some d =>
      match d.status with
      | .running => act d
      | .failed => st
      | .completed => st
  | none => st

def step (st : Backups) : Event → Backups
  | .create server stamp created body => create st server (backupName server stamp) created body
  | .write id count => ofRunning st id (write st id count)
  | .finish id => ofRunning st id (finish st id)
  | .fail id =>
      ofRunning st id fun d =>
        { st with downloads := st.downloads.set id { d with status := .failed } }
  | .prune server removed =>
      { st with entries := removeFiles st.entries (prunable server st.entries) removed }
  | .delete server removed =>
      { st with entries := removeFiles st.entries (backupsOf server st.entries) removed }
  | .select server =>
      match lastXuiDb server st.entries with
      | some latestBackup => { st with restores := st.restores ++ [{ server, latestBackup }] }
      | none => st
  | .push _ => st

def readFile (st : Backups) (name : String) : Option Bytes := do
  let f ← st.entries.find? fun f => f.name == name
  let node ← st.inodes[f.inode]?
  some node.content

section Statement

variable (st : Backups)

def completedOf (server : String) : List Download :=
  st.downloads.filter fun d => d.server == server && d.status == .completed

/-- The content is the whole result of a completed download of the server. -/
def Known (server : String) (content : Bytes) : Prop :=
  ∃ d ∈ completedOf st server, content = d.body

/-- What a restore takes from the directory is known to be good, once a download has
completed: the file of the name that it selects, and what it pushes later. -/
def TakesKnown : Event → Prop
  | .select server =>
      completedOf st server ≠ [] → ∀ name ∈ lastXuiDb server st.entries,
        ∃ content ∈ readFile st name, Known st server content
  | .push restore =>
      ∀ r ∈ st.restores[restore]?, completedOf st r.server ≠ [] →
        ∀ content ∈ readFile st r.latestBackup, Known st r.server content
  | _ => True

def standing (name : String) : Bool :=
  st.entries.any fun f => f.name == name

/-- A download of the server that has completed and has its name for itself. -/
def Good (server : String) (d : Download) : Prop :=
  d.server = server ∧ d.status = .completed ∧ st.downloads.filter (·.name == d.name) = [d]

/-- Once a download of the server has completed, every other one whose file counts as its backup
and is still there has an older name than a good one, and what a restore pushes later is the
file of a good one. -/
def Shielded : Event → Prop
  | .select server =>
      completedOf st server ≠ [] → ∀ d ∈ st.downloads, isBackupOf server d.name = true →
        standing st d.name = true → ¬ Good st server d →
          ∃ g ∈ st.downloads, isBackupOf server g.name = true ∧ standing st g.name = true ∧
            Good st server g ∧ d.name < g.name
  | .push restore =>
      ∀ r ∈ st.restores[restore]?, completedOf st r.server ≠ [] →
        standing st r.latestBackup = true →
          ∀ d ∈ st.downloads, d.name = r.latestBackup → Good st r.server d
  | _ => True

end Statement

section Invariant

variable {st : Backups} {server name : String} {f : FileEntry} {id : Nat} {d d' : Download}

/-- What is stored is what the last download to empty the file has written so far, if
nothing else was written there. -/
structure Backed (st : Backups) : Prop where
  entries : ∀ f ∈ st.entries, f.inode < st.inodes.length
  inodes : ∀ (i : Nat) (node : Inode), st.inodes[i]? = some node →
    ∃ d : Download, st.downloads[node.opener]? = some d ∧ d.inode = i ∧
      (node.mixed = false → node.content = d.body.take d.written)
  bounded : ∀ d ∈ st.downloads, d.written ≤ d.body.length
  finished : ∀ d ∈ st.downloads, d.status = .completed → d.written = d.body.length

theorem backed_noBackups : Backed noBackups where
  entries := by simp [noBackups]
  inodes := by simp [noBackups]
  bounded := by simp [noBackups]
  finished := by simp [noBackups]

theorem Backed.of_entries {entries : List FileEntry} (h : Backed st) (hsub : entries ⊆ st.entries) :
    Backed { st with entries } where
  entries f hf := h.entries f (hsub hf)
  inodes := h.inodes
  bounded := h.bounded
  finished := h.finished

/-- A download that goes on in its own file with what is stored there. -/
theorem Backed.setDownload (h : Backed st) (hd : st.downloads[id]? = some d)
    (hinode : d'.inode = d.inode) (hbody : d'.body = d.body) (hwritten : d'.written = d.written)
    (hfinished : d'.status = .completed → d'.written = d'.body.length) :
    Backed { st with downloads := st.downloads.set id d' } where
  entries := h.entries
  inodes i node hnode := by
    obtain ⟨d₀, hd₀, hi, hcontent⟩ := h.inodes i node hnode
    by_cases hid : node.opener = id
    · subst hid
      obtain rfl : d = d₀ := Option.some.inj (hd.symm.trans hd₀)
      refine ⟨d', ?_, hinode.trans hi, ?_⟩
      · rw [List.getElem?_set_self']
        rw [hd]
        rfl
      · rwa [hbody, hwritten]
    · exact ⟨d₀, by rwa [List.getElem?_set_ne (Ne.symm hid)], hi, hcontent⟩
  bounded e he := by
    rcases List.mem_or_eq_of_mem_set he with he | rfl
    · exact h.bounded e he
    · rw [hwritten, hbody]
      exact h.bounded d (List.mem_of_getElem? hd)
  finished e he := by
    rcases List.mem_or_eq_of_mem_set he with he | rfl
    · exact h.finished e he
    · exact hfinished

theorem take_written (h : d.written ≤ d.body.length) (count : Nat) :
    overwrite (d.body.take d.written) d.written (d.chunk count) =
      d.body.take (d.written + (d.chunk count).length) := by
  have hlength : (d.body.take d.written).length = d.written := List.length_take_of_le h
  rw [overwrite, List.take_of_length_le (Nat.le_of_eq hlength), hlength, Nat.sub_self,
    List.drop_eq_nil_of_le (by omega), List.take_add]
  simp [Download.chunk]

theorem backed_write (h : Backed st) (hd : st.downloads[id]? = some d)
    (hrunning : d.status = .running) (count : Nat) : Backed (write st id count d) where
  entries f hf := by
    rw [write, List.length_modify]
    exact h.entries f hf
  inodes i node hnode := by
    simp only [write, List.getElem?_modify, Option.map_eq_map, Option.map_eq_some_iff] at hnode
    obtain ⟨node₀, hnode₀, rfl⟩ := hnode
    obtain ⟨d₀, hd₀, hi, hcontent⟩ := h.inodes i node₀ hnode₀
    by_cases hid : node₀.opener = id
    · -- The download that emptied the file goes on with its own body.
      subst hid
      obtain rfl : d = d₀ := Option.some.inj (hd.symm.trans hd₀)
      have hnext : (write st node₀.opener count d).downloads[node₀.opener]? =
          some { d with written := d.written + (d.chunk count).length } := by
        rw [write, List.getElem?_set_self', hd]
        rfl
      rw [if_pos hi, Inode.receive]
      split
      · rename_i hchunk
        refine ⟨_, hnext, hi, ?_⟩
        rwa [hchunk]
      · refine ⟨_, hnext, hi, ?_⟩
        intro hmixed
        rw [hcontent (by simpa using hmixed)]
        exact take_written (h.bounded d (List.mem_of_getElem? hd)) count
    · have hd₀' : (write st id count d).downloads[node₀.opener]? = some d₀ := by
        rwa [write, List.getElem?_set_ne (Ne.symm hid)]
      split
      · rw [Inode.receive]
        split
        · exact ⟨d₀, hd₀', hi, hcontent⟩
        · exact ⟨d₀, hd₀', hi, by simp [hid]⟩
      · exact ⟨d₀, hd₀', hi, hcontent⟩
  bounded e he := by
    rcases List.mem_or_eq_of_mem_set he with he | rfl
    · exact h.bounded e he
    · have hlength : (d.chunk count).length ≤ d.body.length - d.written := by
        simp [Download.chunk]
      have hbounded := h.bounded d (List.mem_of_getElem? hd)
      simp only
      omega
  finished e he := by
    rcases List.mem_or_eq_of_mem_set he with he | rfl
    · exact h.finished e he
    · intro hcompleted
      rw [hrunning] at hcompleted
      cases hcompleted

/-- A download that starts in a file that it has emptied. -/
theorem Backed.start {inodes : List Inode} {entries : List FileEntry} {inode : Nat} {body : Bytes}
    (h : Backed st) (hentries : ∀ f ∈ entries, f.inode < inodes.length)
    (hinodes : ∀ i node, inodes[i]? = some node →
      st.inodes[i]? = some node ∨ i = inode ∧ node = emptied st.downloads.length) :
    Backed { st with
      entries, inodes, downloads := st.downloads ++ [started server name inode body] } where
  entries := hentries
  inodes i node hnode := by
    rcases hinodes i node hnode with hold | ⟨rfl, rfl⟩
    · obtain ⟨d, hd, hi, hcontent⟩ := h.inodes i node hold
      obtain ⟨hlt, -⟩ := List.getElem?_eq_some_iff.mp hd
      exact ⟨d, (List.getElem?_append_left hlt).trans hd, hi, hcontent⟩
    · exact ⟨_, List.getElem?_concat_length, rfl, by simp [emptied, started]⟩
  bounded e he := by
    rcases List.mem_append.mp he with he | he
    · exact h.bounded e he
    · rw [List.mem_singleton.mp he]
      exact Nat.zero_le _
  finished e he := by
    rcases List.mem_append.mp he with he | he
    · exact h.finished e he
    · rw [List.mem_singleton.mp he]
      intro hcompleted
      cases hcompleted

theorem backed_create (h : Backed st) (created : Option Nat) (body : Bytes) :
    Backed (create st server name created body) := by
  unfold create
  split
  · apply h.start
    · intro f hf
      rw [List.length_set]
      exact h.entries f hf
    · intro i node hnode
      rw [List.getElem?_set] at hnode
      split at hnode
      · rename_i f _ hi
        split at hnode
        · exact .inr ⟨hi.symm, (Option.some.inj hnode).symm⟩
        · cases hnode
      · exact .inl hnode
  · apply h.start
    · intro f hf
      rw [List.length_append, List.length_singleton]
      rcases List.mem_append.mp hf with hf | hf
      · exact Nat.lt_succ_of_lt (h.entries f hf)
      · rw [List.mem_singleton.mp hf]
        exact Nat.lt_succ_self _
    · intro i node hnode
      rw [List.getElem?_append] at hnode
      split at hnode
      · exact .inl hnode
      · rw [List.getElem?_singleton] at hnode
        split at hnode
        · exact .inr ⟨by omega, (Option.some.inj hnode).symm⟩
        · cases hnode

theorem backed_finish (h : Backed st) (hd : st.downloads[id]? = some d) :
    Backed (finish st id d) := by
  unfold finish
  split
  · rename_i hall
    exact h.setDownload hd rfl rfl rfl fun _ => hall.1
  · exact h.setDownload hd rfl rfl rfl (by simp)

theorem Backed.ofRunning {act : Download → Backups} (h : Backed st)
    (hact : ∀ d, st.downloads[id]? = some d → d.status = .running → Backed (act d)) :
    Backed (ofRunning st id act) := by
  unfold XuiBackups.ofRunning
  split
  · rename_i d hd
    split
    · rename_i hrunning
      exact hact d hd hrunning
    · exact h
    · exact h
  · exact h

theorem backed_step (h : Backed st) (e : Event) : Backed (step st e) := by
  cases e with
  | create server stamp created body => exact backed_create h created body
  | write id count => exact h.ofRunning fun d hd hrunning => backed_write h hd hrunning count
  | finish id => exact h.ofRunning fun d hd _ => backed_finish h hd
  | fail id => exact h.ofRunning fun d hd _ => h.setDownload hd rfl rfl rfl (by simp)
  | prune server removed => exact h.of_entries List.filter_sublist.subset
  | delete server removed => exact h.of_entries List.filter_sublist.subset
  | select server =>
      simp only [step]
      split
      · exact ⟨h.entries, h.inodes, h.bounded, h.finished⟩
      · exact h
  | push restore => exact h

end Invariant

section Places

/-- The file was last emptied by a download of the server that has completed, and nothing
else was written to it since. -/
def Whole (st : Backups) (server : String) (f : FileEntry) : Prop :=
  ∃ node ∈ st.inodes[f.inode]?, node.mixed = false ∧
    ∃ d ∈ st.downloads[node.opener]?, d.server = server ∧ d.status = .completed

variable {st : Backups} {server name : String} {f : FileEntry} {id : Nat} {d d' : Download}

/-- The name under which each download started, and where it writes. -/
def places (st : Backups) : List (String × Nat) :=
  st.downloads.map fun d => (d.name, d.inode)

/-- Who writes to a file goes by its name. -/
structure Placed (st : Backups) : Prop where
  opener : ∀ f ∈ st.entries, ∃ node, st.inodes[f.inode]? = some node ∧
    (places st)[node.opener]? = some (f.name, f.inode)
  names : ∀ p ∈ places st, ∀ q ∈ places st, p.2 = q.2 → p.1 = q.1
  writers : ∀ (i : Nat) (node : Inode), st.inodes[i]? = some node → node.mixed = true →
    ∃ id, id ≠ node.opener ∧ ∃ name, (places st)[id]? = some (name, i)
  bounded : ∀ p ∈ places st, p.2 < st.inodes.length

theorem placed_noBackups : Placed noBackups where
  opener := by simp [noBackups]
  names := by simp [noBackups, places]
  writers := by simp [noBackups]
  bounded := by simp [noBackups, places]

theorem Placed.of_entries {entries : List FileEntry} (h : Placed st)
    (hsub : entries ⊆ st.entries) : Placed { st with entries } where
  opener f hf := h.opener f (hsub hf)
  names := h.names
  writers := h.writers
  bounded := h.bounded

theorem places_set (hd : st.downloads[id]? = some d) (hname : d'.name = d.name)
    (hinode : d'.inode = d.inode) :
    places { st with downloads := st.downloads.set id d' } = places st := by
  obtain ⟨hlt, rfl⟩ := List.getElem?_eq_some_iff.mp hd
  have hlength : id < (st.downloads.map fun d => (d.name, d.inode)).length := by
    rwa [List.length_map]
  have hself := List.set_getElem_self hlength
  rw [List.getElem_map] at hself
  rw [places, List.map_set, hname, hinode, hself]
  rfl

theorem Placed.of_places {st' : Backups} (h : Placed st) (hentries : st'.entries = st.entries)
    (hinodes : st'.inodes = st.inodes) (hplaces : places st' = places st) : Placed st' where
  opener := by
    rw [hentries, hinodes, hplaces]
    exact h.opener
  names := by
    rw [hplaces]
    exact h.names
  writers := by
    rw [hinodes, hplaces]
    exact h.writers
  bounded := by
    rw [hinodes, hplaces]
    exact h.bounded

theorem receive_opener (node : Inode) (id position : Nat) (chunk : Bytes) :
    (node.receive id position chunk).opener = node.opener := by
  unfold Inode.receive
  split
  · rfl
  · rfl

/-- A file to which another download writes has a second writer from then on. -/
theorem placed_write (h : Placed st) (hd : st.downloads[id]? = some d) (count : Nat) :
    Placed (write st id count d) := by
  have hplaces : places (write st id count d) = places st := places_set hd rfl rfl
  have hplace : (places st)[id]? = some (d.name, d.inode) := by
    rw [places, List.getElem?_map, hd]
    rfl
  have hnode : ∀ (i : Nat) (node : Inode), (write st id count d).inodes[i]? = some node ↔
      ∃ node₀, st.inodes[i]? = some node₀ ∧
        (if d.inode = i then node₀.receive id d.written (d.chunk count) else node₀) = node := by
    intro i node
    simp [write, List.getElem?_modify]
  constructor
  · intro f hf
    obtain ⟨node, hinode, hopener⟩ := h.opener f hf
    refine ⟨_, (hnode _ _).mpr ⟨node, hinode, rfl⟩, ?_⟩
    rw [hplaces]
    split
    · rwa [receive_opener]
    · exact hopener
  · rw [hplaces]
    exact h.names
  · intro i node hinode hmixed
    obtain ⟨node₀, hnode₀, rfl⟩ := (hnode i node).mp hinode
    rw [hplaces]
    split at hmixed
    · rename_i hi
      rw [if_pos hi, receive_opener]
      by_cases hown : node₀.opener = id
      · refine h.writers i node₀ hnode₀ ?_
        unfold Inode.receive at hmixed
        split at hmixed
        · exact hmixed
        · simpa [hown] using hmixed
      · refine ⟨id, Ne.symm hown, d.name, ?_⟩
        rw [hplace, hi]
    · rename_i hi
      rw [if_neg hi]
      exact h.writers i node₀ hnode₀ hmixed
  · intro p hp
    rw [hplaces] at hp
    rw [write, List.length_modify]
    exact h.bounded p hp

theorem getElem?_places_start {i : Nat} {p q : String × Nat} (h : (places st)[i]? = some p) :
    (places st ++ [q])[i]? = some p := by
  rwa [List.getElem?_append_left (List.getElem?_eq_some_iff.mp h).1]

theorem getElem?_places_started (q : String × Nat) :
    (places st ++ [q])[st.downloads.length]? = some q := by
  have hlength : st.downloads.length = (places st).length := (List.length_map ..).symm
  rw [hlength, List.getElem?_concat_length]

/-- A download that starts in a file of its name empties it. -/
theorem Placed.reopen (h : Placed st) (hf : f ∈ st.entries) (body : Bytes) :
    Placed { st with
      inodes := st.inodes.set f.inode (emptied st.downloads.length)
      downloads := st.downloads ++ [started server f.name f.inode body] } := by
  obtain ⟨node, hnode, hopener⟩ := h.opener f hf
  have hinode : f.inode < st.inodes.length := (List.getElem?_eq_some_iff.mp hnode).1
  have hmem : (f.name, f.inode) ∈ places st := List.mem_of_getElem? hopener
  have hplaces : ∀ inodes, places { st with
      inodes, downloads := st.downloads ++ [started server f.name f.inode body] } =
        places st ++ [(f.name, f.inode)] := fun _ => List.map_append ..
  have hown : ∀ p ∈ places st ++ [(f.name, f.inode)], p ∈ places st := by
    intro p hp
    rcases List.mem_append.mp hp with hp | hp
    · exact hp
    · rwa [List.mem_singleton.mp hp]
  constructor
  · intro g hg
    obtain ⟨node', hnode', hopener'⟩ := h.opener g hg
    rw [hplaces]
    by_cases heq : f.inode = g.inode
    · have hsame : f.name = g.name := h.names _ hmem _ (List.mem_of_getElem? hopener') heq
      refine ⟨emptied st.downloads.length, by rw [← heq, List.getElem?_set_self hinode], ?_⟩
      rw [emptied, getElem?_places_started, hsame, heq]
    · exact ⟨node', by rwa [List.getElem?_set_ne heq], getElem?_places_start hopener'⟩
  · rw [hplaces]
    intro p hp q hq
    exact h.names p (hown p hp) q (hown q hq)
  · intro i node' hnode' hmixed
    rw [hplaces]
    by_cases heq : f.inode = i
    · rw [← heq, List.getElem?_set_self hinode] at hnode'
      rw [← Option.some.inj hnode'] at hmixed
      cases hmixed
    · rw [List.getElem?_set_ne heq] at hnode'
      obtain ⟨id, hne, name, hid⟩ := h.writers i node' hnode' hmixed
      exact ⟨id, hne, name, getElem?_places_start hid⟩
  · intro p hp
    rw [hplaces] at hp
    rw [List.length_set]
    exact h.bounded p (hown p hp)

theorem Placed.startNew (h : Placed st) (created : Option Nat) (body : Bytes) :
    Placed { st with
      entries := st.entries ++ [{ name, inode := st.inodes.length, created }]
      inodes := st.inodes ++ [emptied st.downloads.length]
      downloads := st.downloads ++ [started server name st.inodes.length body] } := by
  have hplaces : ∀ entries inodes, places { st with
      entries, inodes
      downloads := st.downloads ++ [started server name st.inodes.length body] } =
        places st ++ [(name, st.inodes.length)] := fun _ _ => List.map_append ..
  have hfresh : ∀ p ∈ places st, p.2 ≠ st.inodes.length :=
    fun p hp => Nat.ne_of_lt (h.bounded p hp)
  constructor
  · intro g hg
    rw [hplaces]
    rcases List.mem_append.mp hg with hg | hg
    · obtain ⟨node, hnode, hopener⟩ := h.opener g hg
      refine ⟨node, ?_, getElem?_places_start hopener⟩
      rwa [List.getElem?_append_left (List.getElem?_eq_some_iff.mp hnode).1]
    · rw [List.mem_singleton.mp hg]
      exact ⟨emptied st.downloads.length, List.getElem?_concat_length, getElem?_places_started _⟩
  · rw [hplaces]
    intro p hp q hq heq
    rcases List.mem_append.mp hp with hp | hp
    · rcases List.mem_append.mp hq with hq | hq
      · exact h.names p hp q hq heq
      · rw [List.mem_singleton.mp hq] at heq
        exact absurd heq (hfresh p hp)
    · rcases List.mem_append.mp hq with hq | hq
      · rw [List.mem_singleton.mp hp] at heq
        exact absurd heq.symm (hfresh q hq)
      · rw [List.mem_singleton.mp hp, List.mem_singleton.mp hq]
  · intro i node hnode hmixed
    rw [hplaces]
    rw [List.getElem?_append] at hnode
    split at hnode
    · obtain ⟨id, hne, name', hid⟩ := h.writers i node hnode hmixed
      exact ⟨id, hne, name', getElem?_places_start hid⟩
    · rw [List.getElem?_singleton] at hnode
      split at hnode
      · rw [← Option.some.inj hnode] at hmixed
        cases hmixed
      · cases hnode
  · intro p hp
    rw [hplaces] at hp
    rw [List.length_append, List.length_singleton]
    rcases List.mem_append.mp hp with hp | hp
    · exact Nat.lt_succ_of_lt (h.bounded p hp)
    · rw [List.mem_singleton.mp hp]
      exact Nat.lt_succ_self _

theorem placed_create (h : Placed st) (created : Option Nat) (body : Bytes) :
    Placed (create st server name created body) := by
  unfold create
  split
  · rename_i f hfind
    have hname : f.name = name := by simpa using List.find?_some hfind
    rw [← hname]
    exact h.reopen (List.mem_of_find?_eq_some hfind) body
  · exact h.startNew created body

theorem Placed.ofRunning {act : Download → Backups} (h : Placed st)
    (hact : ∀ d, st.downloads[id]? = some d → Placed (act d)) : Placed (ofRunning st id act) := by
  unfold XuiBackups.ofRunning
  split
  · rename_i d hd
    split
    · exact hact d hd
    · exact h
    · exact h
  · exact h

theorem placed_step (h : Placed st) (e : Event) : Placed (step st e) := by
  cases e with
  | create server stamp created body => exact placed_create h created body
  | write id count => exact h.ofRunning fun d hd => placed_write h hd count
  | finish id =>
      refine h.ofRunning fun d hd => ?_
      unfold finish
      split
      · exact h.of_places rfl rfl (places_set hd rfl rfl)
      · exact h.of_places rfl rfl (places_set hd rfl rfl)
  | fail id => exact h.ofRunning fun d hd => h.of_places rfl rfl (places_set hd rfl rfl)
  | prune server removed => exact h.of_entries List.filter_sublist.subset
  | delete server removed => exact h.of_entries List.filter_sublist.subset
  | select server =>
      simp only [step]
      split
      · exact h.of_places rfl rfl rfl
      · exact h
  | push restore => exact h

theorem two_le_length_filter {l : List Download} {p : Download → Bool} {i j : Nat}
    {a b : Download} (hij : i < j) (hi : l[i]? = some a) (hj : l[j]? = some b) (ha : p a = true)
    (hb : p b = true) : 2 ≤ (l.filter p).length := by
  have hbefore : a ∈ (l.take j).filter p := by
    refine List.mem_filter.mpr ⟨List.mem_of_getElem? (i := i) ?_, ha⟩
    rwa [List.getElem?_take_of_lt hij]
  have hafter : b ∈ (l.drop j).filter p := by
    refine List.mem_filter.mpr ⟨List.mem_of_getElem? (i := 0) ?_, hb⟩
    rwa [List.getElem?_drop, Nat.add_zero]
  rw [← List.take_append_drop j l, List.filter_append, List.length_append]
  exact Nat.add_le_add (List.length_pos_of_mem hbefore) (List.length_pos_of_mem hafter)

/-- The file of a good download is whole. -/
theorem Placed.whole (h : Placed st) (hf : f ∈ st.entries) (hd : d ∈ st.downloads)
    (hname : d.name = f.name) (hgood : Good st server d) : Whole st server f := by
  obtain ⟨hserver, hcompleted, halone⟩ := hgood
  obtain ⟨node, hnode, hopener⟩ := h.opener f hf
  obtain ⟨i, hi⟩ := List.getElem?_of_mem hd
  have honly : ∀ (j : Nat) (e : Download), st.downloads[j]? = some e → e.name = f.name → j = i := by
    intro j e hj he
    have hlength : (st.downloads.filter (·.name == d.name)).length < 2 := by
      rw [halone]
      exact Nat.one_lt_two
    by_contra hne
    rcases Nat.lt_or_gt_of_ne hne with hlt | hlt
    · exact absurd (two_le_length_filter hlt hj hi (by simp [he, hname]) (by simp))
        (Nat.not_le_of_lt hlength)
    · exact absurd (two_le_length_filter hlt hi hj (by simp) (by simp [he, hname]))
        (Nat.not_le_of_lt hlength)
  have hwriter : ∀ {j : Nat} {name : String}, (places st)[j]? = some (name, f.inode) → j = i := by
    intro j name hj
    have hsame := h.names _ (List.mem_of_getElem? hj) _ (List.mem_of_getElem? hopener) rfl
    rw [places, List.getElem?_map, Option.map_eq_some_iff] at hj
    obtain ⟨e, he, hplace⟩ := hj
    exact honly j e he ((congrArg Prod.fst hplace).trans hsame)
  obtain hi' := hwriter hopener
  refine ⟨node, hnode, ?_, d, ?_, hserver, hcompleted⟩
  · cases hmixed : node.mixed with
    | false => rfl
    | true =>
        obtain ⟨j, hne, name, hj⟩ := h.writers f.inode node hnode hmixed
        exact absurd ((hwriter hj).trans hi'.symm) hne
  · rwa [hi']

/-- Every file is one that a download has started. -/
theorem Placed.exists_download (h : Placed st) (hf : f ∈ st.entries) :
    ∃ d ∈ st.downloads, d.name = f.name := by
  obtain ⟨_, _, hopener⟩ := h.opener f hf
  obtain ⟨d, hd, hplace⟩ := List.mem_map.mp (List.mem_of_getElem? hopener)
  exact ⟨d, hd, congrArg Prod.fst hplace⟩

theorem standing_of_mem (hf : f ∈ st.entries) : standing st f.name = true :=
  List.any_eq_true.mpr ⟨f, hf, beq_self_eq_true _⟩

end Places

section Restores

variable {st : Backups} {server name : String} {f : FileEntry}

/-- A whole file reads as the result of its download. -/
theorem known_of_whole (h : Backed st) (hf : st.entries.find? (fun f => f.name == name) = some f)
    (hwhole : Whole st server f) : ∃ content ∈ readFile st name, Known st server content := by
  obtain ⟨node, hnode, hmixed, d, hd, hserver, hcompleted⟩ := hwhole
  obtain ⟨d₀, hd₀, -, hcontent⟩ := h.inodes f.inode node hnode
  obtain rfl : d = d₀ := Option.some.inj (Eq.trans (Eq.symm hd) hd₀)
  have hmem : d ∈ st.downloads := List.mem_of_getElem? hd
  refine ⟨node.content, ?_, d, ?_, ?_⟩
  · rw [Option.mem_def, readFile, hf]
    simp [Option.mem_def.mp hnode]
  · simp [completedOf, hmem, hserver, hcompleted]
  · rw [hcontent hmixed, h.finished d hmem hcompleted, List.take_length]

theorem mem_of_lastXuiDb {entries : List FileEntry} (h : lastXuiDb server entries = some name) :
    (∃ f ∈ backupsOf server entries, f.name = name) ∧
      ∀ f ∈ backupsOf server entries, f.name ≤ name := by
  obtain ⟨hmem, hle⟩ := List.max?_eq_some_iff.mp h
  exact ⟨List.mem_map.mp hmem, fun f hf => hle f.name (List.mem_map_of_mem hf)⟩

theorem name_of_find {entries : List FileEntry}
    (h : entries.find? (fun f => f.name == name) = some f) : f.name = name := by
  simpa using List.find?_some h

theorem exists_find {entries : List FileEntry} (h : f ∈ entries) :
    ∃ f₀, entries.find? (fun g => g.name == f.name) = some f₀ := by
  rw [← Option.isSome_iff_exists, List.find?_isSome]
  exact ⟨f, h, by simp⟩

structure Sound (st : Backups) : Prop where
  backed : Backed st
  placed : Placed st

/-- A step that finds the good backups shielded takes a good one. -/
theorem Sound.takesKnown (h : Sound st) {e : Event} (hshielded : Shielded st e) :
    TakesKnown st e := by
  cases e with
  | select server =>
      intro hcompleted name hname
      obtain ⟨⟨f, hf, rfl⟩, hnewest⟩ := mem_of_lastXuiDb hname
      obtain ⟨f₀, hf₀⟩ := exists_find (List.mem_of_mem_filter hf)
      have hentry := List.mem_of_find?_eq_some hf₀
      have hbackup : isBackupOf server f.name = true := (List.mem_filter.mp hf).2
      rw [← name_of_find hf₀] at hbackup hnewest
      obtain ⟨d, hd, hdname⟩ := h.placed.exists_download hentry
      apply known_of_whole h.backed hf₀
      refine h.placed.whole hentry hd hdname ?_
      by_contra hbroken
      obtain ⟨g, -, hgbackup, hgstanding, -, hnewer⟩ := hshielded hcompleted d hd
        (by rwa [hdname]) (by rw [hdname]; exact standing_of_mem hentry) hbroken
      -- The file of a newer download would have been selected.
      obtain ⟨k, hk, hkname⟩ := List.any_eq_true.mp hgstanding
      rw [beq_iff_eq] at hkname
      have hmem : k ∈ backupsOf server st.entries :=
        List.mem_filter.mpr ⟨hk, by rwa [hkname]⟩
      rw [hdname, ← hkname] at hnewer
      exact absurd (hnewest k hmem) (not_le_of_gt hnewer)
  | push restore =>
      intro r hr hcompleted content hcontent
      obtain ⟨f, hf, -⟩ := Option.bind_eq_some_iff.mp hcontent
      have hentry := List.mem_of_find?_eq_some hf
      have hname := name_of_find hf
      obtain ⟨d, hd, hdname⟩ := h.placed.exists_download hentry
      have hgood := hshielded r hr hcompleted (by rw [← hname]; exact standing_of_mem hentry) d hd
        (hdname.trans hname)
      obtain ⟨content', hcontent', hknown⟩ :=
        known_of_whole h.backed hf (h.placed.whole hentry hd hdname hgood)
      obtain rfl : content = content' := Option.some.inj (Eq.trans (Eq.symm hcontent) hcontent')
      exact hknown
  | create server stamp created body => trivial
  | write id count => trivial
  | finish id => trivial
  | fail id => trivial
  | prune server removed => trivial
  | delete server removed => trivial

/-- In every run whose restores find the good backups shielded, what the restores take is
the whole result of a completed download. -/
theorem run_takes_known {events : List Event} (h : Along step Shielded noBackups events) :
    Along step TakesKnown noBackups events :=
  along_of_inv (fun _ e hst _ => Sound.mk (backed_step hst.backed e) (placed_step hst.placed e))
    (fun _ _ hst hshielded => hst.takesKnown hshielded)
    (Sound.mk backed_noBackups placed_noBackups) h

end Restores

section Instances

variable (st : Backups) (server : String)

instance (content : Bytes) : Decidable (Known st server content) := by
  unfold Known
  infer_instance

instance (d : Download) : Decidable (Good st server d) := by
  unfold Good
  infer_instance

instance : (e : Event) → Decidable (Shielded st e)
  | .select server => by
      unfold Shielded
      exact instDecidableForall
  | .push restore => by
      unfold Shielded
      infer_instance
  | .create _ _ _ _ => isTrue trivial
  | .write _ _ => isTrue trivial
  | .finish _ => isTrue trivial
  | .fail _ => isTrue trivial
  | .prune _ _ => isTrue trivial
  | .delete _ _ => isTrue trivial

instance : (e : Event) → Decidable (TakesKnown st e)
  | .select server => by
      unfold TakesKnown
      infer_instance
  | .push restore => by
      unfold TakesKnown
      infer_instance
  | .create _ _ _ _ => isTrue trivial
  | .write _ _ => isTrue trivial
  | .finish _ => isTrue trivial
  | .fail _ => isTrue trivial
  | .prune _ _ => isTrue trivial
  | .delete _ _ => isTrue trivial

end Instances

def body : Bytes := [83, 81, 76]

/-- A download of the server that completes. -/
def backedUp : List Event :=
  [.create "alpha" "2025-01-01_00-00-00" (some 0) body, .write 0 3, .finish 0]

/-- The next one fails after its first byte. -/
def cutOff : List Event :=
  [.create "alpha" "2025-01-01_00-01-00" (some 60) body, .write 1 1, .fail 1]

/-- One more completes before anything is restored. -/
def backedUpAgain : List Event :=
  [.create "alpha" "2025-01-01_00-02-00" (some 120) body, .write 2 2, .write 2 2, .finish 2]

def restored : List Event :=
  [.select "alpha", .push 0]

theorem run_takes_known_shielded :
    Along step TakesKnown noBackups (backedUp ++ cutOff ++ backedUpAgain ++ restored) :=
  run_takes_known (by decide +kernel)

/-- What the failed download has left is newer than the last good backup, and is what the
restore takes. -/
theorem run_cutOff_taken :
    ¬ ∀ events : List Event, Along step TakesKnown noBackups events := by
  intro h
  exact absurd (h (backedUp ++ cutOff ++ restored)) (by decide +kernel)

end Xcplane.XuiBackups
