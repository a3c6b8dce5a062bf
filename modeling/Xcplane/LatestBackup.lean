import Xcplane.Naming
import Xcplane.Stamps
import Xcplane.XuiBackups
import Xcplane.Lib.Occurrence

/-!
Which file of the backup directory is the latest one of a server. The name of a server
ends at the first dash of the file's name, and the time after it has a fixed width.
-/

namespace Xcplane.LatestBackup

open Xcplane.Lib
open Xcplane.Stamps
open Xcplane.XuiBackups

section Statement

/-- A name that a download of the server gives to its file. -/
def OfServer (server name : String) : Prop :=
  ∃ t : Stamp, name = backupName server t.text

/-- The directory holds backups of servers with proper names. -/
def BackupsOnly (entries : List FileEntry) : Prop :=
  ∀ f ∈ entries, ∃ server, Naming.isProper server = true ∧ OfServer server f.name

/-- The file of this name is of the server and of no other one. -/
def OnlyOf (server name : String) : Prop :=
  OfServer server name ∧
    ∀ other, Naming.isProper other = true → OfServer other name → other = server

/-- The backup of the server with the latest time. -/
structure Latest (server : String) (entries : List FileEntry) (t : Stamp) : Prop where
  present : backupName server t.text ∈ entries.map FileEntry.name
  newest : ∀ u : Stamp, backupName server u.text ∈ entries.map FileEntry.name → ¬ t.Before u

end Statement

section Names

variable {server other name : String}

theorem dash_notMem_of_isProper (h : Naming.isProper server = true) : '-' ∉ server.toList := by
  simp only [Naming.isProper, Bool.and_eq_true, List.all_eq_true] at h
  intro hmem
  exact absurd (h.2 '-' hmem) (by decide)

def suffixChars : List Char := "-xui-backup.db".toList

theorem toList_backupName (server : String) (t : Stamp) :
    (backupName server t.text).toList = server.toList ++ '-' :: (t.chars ++ suffixChars) := by
  have hdash : "-".toList = ['-'] := rfl
  calc (backupName server t.text).toList
      = server.toList ++ "-".toList ++ t.text.toList ++ suffixChars := by
        rw [backupName, String.toList_append, String.toList_append, String.toList_append]
        rfl
    _ = server.toList ++ '-' :: (t.chars ++ suffixChars) := by
        rw [hdash, Stamp.text, String.toList_ofList, List.append_assoc, List.append_assoc,
          List.singleton_append]

/-- The name of the server is what lies before the first dash. -/
theorem dash_prefix_iff {a b rest : List Char} (ha : '-' ∉ a) (hb : '-' ∉ b) :
    a ++ ['-'] <+: b ++ '-' :: rest ↔ a = b := by
  constructor
  · rintro ⟨tail, h⟩
    rw [List.append_assoc, List.singleton_append] at h
    have hfirst := congrArg (List.takeWhile fun c => c != '-') h
    rwa [takeWhile_until ha, takeWhile_until hb] at hfirst
  · rintro rfl
    exact ⟨rest, by simp⟩

theorem isBackupOf_backupName_iff (hserver : Naming.isProper server = true)
    (hother : Naming.isProper other = true) (t : Stamp) :
    isBackupOf server (backupName other t.text) = true ↔ server = other := by
  have hsuffix : "backup.db".toList <:+ suffixChars := ⟨"-xui-".toList, rfl⟩
  have hends : "backup.db".toList <:+ (backupName other t.text).toList := by
    rw [toList_backupName]
    exact ((hsuffix.trans (List.suffix_append t.chars suffixChars)).trans
      (List.suffix_cons '-' _)).trans (List.suffix_append other.toList _)
  rw [isBackupOf, Bool.and_eq_true, List.isPrefixOf_iff_prefix, List.isSuffixOf_iff_suffix,
    and_iff_left hends, String.toList_append, toList_backupName,
    show "-".toList = ['-'] from rfl, dash_prefix_iff (dash_notMem_of_isProper hserver)
      (dash_notMem_of_isProper hother), String.toList_inj]

theorem ofServer_inj (hserver : Naming.isProper server = true)
    (hother : Naming.isProper other = true) (h : OfServer server name)
    (h' : OfServer other name) : other = server := by
  obtain ⟨t, rfl⟩ := h
  obtain ⟨u, hu⟩ := h'
  have hself := (isBackupOf_backupName_iff hserver hserver t).mpr rfl
  rw [hu] at hself
  exact ((isBackupOf_backupName_iff hserver hother u).mp hself).symm

/-- Of the backups of one server the greater name bears the later time. -/
theorem backupName_lt_iff (server : String) (t u : Stamp) :
    backupName server t.text < backupName server u.text ↔ t.Before u := by
  have hlength : t.chars.length = u.chars.length := by
    rw [t.length_chars, u.length_chars]
  rw [String.lt_iff_toList_lt, toList_backupName, toList_backupName, append_lt_append_iff rfl,
    List.cons_lt_cons_iff, append_lt_append_iff hlength, Stamp.chars_lt_iff]
  have hchars : ¬ server.toList < server.toList := List.lt_irrefl _
  have hdash : ¬ '-' < '-' := Char.lt_irrefl _
  have htail : ¬ suffixChars < suffixChars := List.lt_irrefl _
  tauto

end Names

section Selection

variable {server : String} {entries : List FileEntry} {f : FileEntry}

theorem onlyOf_of_mem_backupsOf (h : BackupsOnly entries)
    (hserver : Naming.isProper server = true) (hf : f ∈ backupsOf server entries) :
    OnlyOf server f.name := by
  obtain ⟨hmem, hbackup⟩ := List.mem_filter.mp hf
  obtain ⟨other, hother, t, hname⟩ := h f hmem
  have hsame : server = other := by
    rw [← isBackupOf_backupName_iff hserver hother t, ← hname]
    exact hbackup
  subst hsame
  exact ⟨⟨t, hname⟩, fun other hother' h' => ofServer_inj hserver hother' ⟨t, hname⟩ h'⟩

theorem backupName_mem_iff (hserver : Naming.isProper server = true) (t : Stamp) :
    backupName server t.text ∈ (backupsOf server entries).map FileEntry.name ↔
      backupName server t.text ∈ entries.map FileEntry.name := by
  have hself := (isBackupOf_backupName_iff hserver hserver t).mpr rfl
  simp only [List.mem_map, backupsOf, List.mem_filter]
  constructor
  · rintro ⟨f, ⟨hf, -⟩, hname⟩
    exact ⟨f, hf, hname⟩
  · rintro ⟨f, hf, hname⟩
    exact ⟨f, ⟨hf, hname ▸ hself⟩, hname⟩

theorem lastXuiDb_eq_some_iff (h : BackupsOnly entries)
    (hserver : Naming.isProper server = true) (name : String) :
    lastXuiDb server entries = some name ↔
      ∃ t, name = backupName server t.text ∧ Latest server entries t := by
  rw [lastXuiDb, List.max?_eq_some_iff]
  constructor
  · rintro ⟨hmem, hle⟩
    obtain ⟨f, hf, rfl⟩ := List.mem_map.mp hmem
    obtain ⟨⟨t, ht⟩, -⟩ := onlyOf_of_mem_backupsOf h hserver hf
    rw [ht] at hmem hle
    refine ⟨t, ht, (backupName_mem_iff hserver t).mp hmem, ?_⟩
    intro u hu hbefore
    have hlt := (backupName_lt_iff server t u).mpr hbefore
    exact absurd (hle _ ((backupName_mem_iff hserver u).mpr hu)) (not_le_of_gt hlt)
  · rintro ⟨t, rfl, hlatest⟩
    refine ⟨(backupName_mem_iff hserver t).mpr hlatest.present, ?_⟩
    rw [List.forall_mem_map]
    intro f hf
    obtain ⟨⟨u, hu⟩, -⟩ := onlyOf_of_mem_backupsOf h hserver hf
    have hmem : backupName server u.text ∈ entries.map FileEntry.name :=
      hu ▸ List.mem_map_of_mem (List.mem_of_mem_filter hf)
    rw [hu]
    apply le_of_not_gt
    exact mt (backupName_lt_iff server t u).mp (hlatest.newest u hmem)

theorem exists_lastXuiDb (hserver : Naming.isProper server = true) {t : Stamp}
    (ht : backupName server t.text ∈ entries.map FileEntry.name) :
    ∃ name, lastXuiDb server entries = some name := by
  have hmem := (backupName_mem_iff hserver t).mpr ht
  exact Option.isSome_iff_exists.mp (List.isSome_max?_of_mem hmem)

theorem mem_of_notMem_removeFiles {files : List FileEntry} {removed : Nat} (hf : f ∈ entries)
    (h : f ∉ removeFiles entries files removed) : f ∈ files := by
  rw [removeFiles, List.mem_filter, not_and] at h
  have hcontains := h hf
  simp only [Bool.not_eq_true', Bool.not_eq_false, List.contains_iff_mem] at hcontains
  exact List.mem_of_mem_take hcontains

theorem mem_backupsOf_of_prunable (h : f ∈ prunable server entries) :
    f ∈ backupsOf server entries := by
  have hsorted := List.mem_of_mem_drop h
  rw [List.mem_mergeSort] at hsorted
  exact List.mem_of_mem_filter hsorted

/-- A download names its file after a proper server and the time. -/
def ProperlyNamed : Event → Prop
  | .create server stamp _ _ => Naming.isProper server = true ∧ ∃ t : Stamp, stamp = t.text
  | _ => True

theorem backupsOnly_subset {rest : List FileEntry} (h : BackupsOnly entries)
    (hsub : rest ⊆ entries) : BackupsOnly rest :=
  fun f hf => h f (hsub hf)

theorem entries_ofRunning {st : Backups} {id : Nat} {act : Download → Backups}
    (hact : ∀ d, (act d).entries = st.entries) : (ofRunning st id act).entries = st.entries := by
  unfold ofRunning
  split
  · split
    · exact hact _
    · rfl
    · rfl
  · rfl

theorem backupsOnly_step {st : Backups} {e : Event} (h : BackupsOnly st.entries)
    (he : ProperlyNamed e) : BackupsOnly (step st e).entries := by
  cases e with
  | create server stamp created body =>
      obtain ⟨hserver, t, rfl⟩ := he
      simp only [step, create]
      split
      · exact h
      · intro f hf
        rcases List.mem_append.mp hf with hf | hf
        · exact h f hf
        · rw [List.mem_singleton.mp hf]
          exact ⟨server, hserver, t, rfl⟩
  | write id count =>
      have hentries : (step st (.write id count)).entries = st.entries :=
        entries_ofRunning fun _ => rfl
      rwa [hentries]
  | finish id =>
      have hentries : (step st (.finish id)).entries = st.entries := by
        apply entries_ofRunning
        intro d
        unfold finish
        split
        · rfl
        · rfl
      rwa [hentries]
  | fail id =>
      have hentries : (step st (.fail id)).entries = st.entries :=
        entries_ofRunning fun _ => rfl
      rwa [hentries]
  | prune server removed => exact backupsOnly_subset h List.filter_sublist.subset
  | delete server removed => exact backupsOnly_subset h List.filter_sublist.subset
  | select server =>
      simp only [step]
      split
      · exact h
      · exact h
  | push restore => exact h

/-- Whatever the daemon does with its backups, the directory holds nothing else. -/
theorem backupsOnly_run {events : List Event} (h : ∀ e ∈ events, ProperlyNamed e) :
    BackupsOnly (run step noBackups events).entries := by
  have hstart : BackupsOnly noBackups.entries := fun _ hf => absurd hf List.not_mem_nil
  have hall : Along step (fun _ e => ProperlyNamed e) noBackups events :=
    along_of_forall fun e he _ => h e he
  exact @run_preserves Backups Event step (fun _ e => ProperlyNamed e)
    (fun st => BackupsOnly st.entries) noBackups events (fun _ _ => backupsOnly_step) hstart hall

/-- Whatever backups there are and in whatever order they are listed, the selection gives
the server's own latest one, and the pruning and the deletion remove its files only. -/
theorem backups_kept_apart (entries : List FileEntry) (server : String)
    (h : BackupsOnly entries) (hserver : Naming.isProper server = true) :
    (∀ name, lastXuiDb server entries = some name ↔
      ∃ t, name = backupName server t.text ∧ Latest server entries t) ∧
    ((∃ f ∈ entries, OfServer server f.name) → ∃ name, lastXuiDb server entries = some name) ∧
    (∀ name, lastXuiDb server entries = some name → OnlyOf server name) ∧
    ∀ removed, ∀ f ∈ entries,
      (f ∉ removeFiles entries (prunable server entries) removed → OnlyOf server f.name) ∧
        (f ∉ removeFiles entries (backupsOf server entries) removed → OnlyOf server f.name) := by
  refine ⟨lastXuiDb_eq_some_iff h hserver, ?_, ?_, ?_⟩
  · rintro ⟨f, hf, t, hname⟩
    have hmem := List.mem_map_of_mem (f := FileEntry.name) hf
    exact exists_lastXuiDb hserver (hname ▸ hmem)
  · intro name hname
    obtain ⟨⟨f, hf, rfl⟩, -⟩ := mem_of_lastXuiDb hname
    exact onlyOf_of_mem_backupsOf h hserver hf
  · intro removed f hf
    constructor
    · intro hremoved
      have hprunable := mem_of_notMem_removeFiles hf hremoved
      exact onlyOf_of_mem_backupsOf h hserver (mem_backupsOf_of_prunable hprunable)
    · intro hremoved
      exact onlyOf_of_mem_backupsOf h hserver (mem_of_notMem_removeFiles hf hremoved)

end Selection

section Instances

def january : Stamp :=
  ⟨2027, 1, 31, 23, 59, 59, by decide, by decide, by decide, by decide, by decide, by decide⟩

def december : Stamp :=
  ⟨2025, 12, 31, 0, 0, 30, by decide, by decide, by decide, by decide, by decide, by decide⟩

/-- Two servers, the name of one of which begins with that of the other. -/
def twoServers : List FileEntry :=
  [⟨backupName "alpha" december.text, 0, none⟩, ⟨backupName "alpha2" january.text, 1, some 1⟩,
    ⟨backupName "alpha" january.text, 2, some 1⟩, ⟨backupName "alpha2" december.text, 3, some 0⟩]

/-- Four downloads, which have filled the directory with these files. -/
def filled : List Event :=
  [.create "alpha" december.text none [], .create "alpha2" january.text (some 1) [],
    .create "alpha" january.text (some 1) [], .create "alpha2" december.text (some 0) []]

theorem twoServers_eq : (run step noBackups filled).entries = twoServers := by
  decide +kernel

theorem backups_kept_apart_twoServers :
    ∃ name, lastXuiDb "alpha" twoServers = some name ∧ OnlyOf "alpha" name := by
  have hproper : Naming.isProper "alpha" = true := by decide
  have hproper' : Naming.isProper "alpha2" = true := by decide
  have hbackups : BackupsOnly twoServers := by
    rw [← twoServers_eq]
    apply backupsOnly_run
    simp only [filled, List.forall_mem_cons]
    exact ⟨⟨hproper, _, rfl⟩, ⟨hproper', _, rfl⟩, ⟨hproper, _, rfl⟩, ⟨hproper', _, rfl⟩,
      List.forall_mem_nil _⟩
  obtain ⟨-, hexists, honly, -⟩ := backups_kept_apart twoServers "alpha" hbackups hproper
  obtain ⟨name, hname⟩ := hexists ⟨_, List.mem_cons_self, december, rfl⟩
  exact ⟨name, hname, honly name hname⟩

end Instances

end Xcplane.LatestBackup
