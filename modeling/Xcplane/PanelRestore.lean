import Mathlib.Data.List.Perm.Basic
import Xcplane.Lib.Trace
import Xcplane.PanelRebase
import Xcplane.RebasePlan
import Xcplane.XuiBackups

/-!
The backups of a panel over the life of a server in production: the daemon downloads them while the
inbounds are healthy and pushes the file with the greatest name when they stay sick, whatever was
declared in between and however much of the file was downloaded.
-/

namespace Xcplane.PanelRestore

open Xcplane.Types
open Xcplane.Lib
open Xcplane.Merge
open Xcplane.Cloudflare
open Xcplane.RebaseDiff
open Xcplane.Deploy
open Xcplane.RebasePlan
open Xcplane.RemoteSide
open Xcplane.PanelInbounds
open Xcplane.XuiBackups (Bytes Backups readFile)
open Xcplane.CloudflareAccount (Fate)

section Custody

/-- A database with which the panel has answered, and the server as it was declared then. -/
structure Snapshot where
  body : Bytes
  server : KetServer

/-- A server in production with its panel, the directory of the backups and, for the record, what
the panel has answered. -/
structure Custody where
  server : KetServer
  panel : Panel
  files : Backups
  snapshots : List Snapshot

/-- A Rebase of the server, with what is recorded of its inbounds before the merge. The merged
declaration takes effect where the runs on the other servers end well, too. -/
structure Renewal where
  opts : RebaseOpts
  ord : InboundOrder
  new : KetServer
  merged : KetServer
  data : RebaseData
  actions : List AnsibleAction
  fates : List Fate
  recorded : Bool

inductive Event
  | reloaded (inboundSet : List Inbound) (new : KetServer)
  | remapped (new : KetServer)
  | rebased (r : Renewal)
  | answered (body : Bytes)
  | filed (e : XuiBackups.Event)
  | pushed (restore : Nat)

variable (refuses : Panel → Inbound → Bool) (read : Bytes → Panel)

def Renewal.play (p : Panel) (r : Renewal) : EStateM.Result BoxError World PUnit :=
  masterPlaybook refuses { server := r.merged, actions := r.actions, rebaseData := some r.data }
    (start p r.fates)

def Renewal.server (s : KetServer) (r : Renewal) : KetServer :=
  if r.recorded then
    { r.merged with ansibleConn := r.merged.ansibleConn.map (updatedConn r.merged) }
  else s

/-- What a restore of the server pushes, whose playbook fails where the file is gone. -/
def pushedBy (files : Backups) (server : String) (restore : Nat) : Option Bytes := do
  let r ← files.restores[restore]?
  if r.server = server then readFile files r.latestBackup else none

/-- The panel becomes what the file is read as. -/
def step (c : Custody) : Event → Custody
  | .reloaded inboundSet new =>
      match reloadMerge inboundSet c.server new with
      | .ok server => { c with server }
      | .error _ => c
  | .remapped new => { c with server := remapMerge c.server new }
  | .rebased r =>
      { c with
        server := r.server c.server
        panel := panelOf (r.play refuses c.panel) }
  | .answered body => { c with snapshots := c.snapshots ++ [⟨body, c.server⟩] }
  | .filed e => { c with files := XuiBackups.step c.files e }
  | .pushed restore =>
      match pushedBy c.files c.server.name restore with
      | some content => { c with panel := read content }
      | none => c

end Custody

section Property

variable (F : Forms) (refuses : Panel → Inbound → Bool) (read : Bytes → Panel)
  (managed : List String)

/-- The names of the inbounds are managed ones, and the supervisor Xray is among them. -/
structure Declares (s : KetServer) : Prop where
  superName : SvcKind.superName ∈ s.inboundNames
  managed : ∀ n ∈ s.inboundNames, n ∈ managed

structure Renewal.Possible (c : Custody) (r : Renewal) : Prop where
  declares : Declares managed r.new
  state : r.new.state = .Production
  merge : ∃ m, rebaseMerge c.server r.new = .ok m ∧ Refreshed m r.merged
  data : compareServer F r.opts r.ord c.server r.new = .ok r.data
  plan : planActions F c.server r.merged (some r.data) = .ok r.actions
  recorded : r.recorded = true → ∃ w, r.play refuses c.panel = .ok ⟨⟩ w

/-- A download of the server stores what its panel has answered. -/
def Stores (c : Custody) : XuiBackups.Event → Prop
  | .create server _ _ body => server = c.server.name → ∃ q ∈ c.snapshots, q.body = body
  | _ => True

/-- What may happen to a server in production. A download or a restore that was begun goes on
whatever becomes of the monitoring. -/
def Possible (c : Custody) : Event → Prop
  | .reloaded inboundSet new =>
      c.server.state = .Production ∧ ∃ m, reloadMerge inboundSet c.server new = .ok m
  | .remapped new => new.name = c.server.name ∧ Declares managed new
  | .rebased r => r.new.name = c.server.name ∧ r.Possible F refuses managed c
  | .answered body => read body = c.panel
  | .filed e => Stores c e
  | .pushed _ => True

/-- The managed inbounds of the panel are those of the declaration. -/
def Agrees (c : Custody) : Prop :=
  Mirrors managed c.panel (firstInbound c.server)

/-- The two declarations have the same inbounds under the managed names. -/
def Alike (s t : KetServer) : Prop :=
  ∀ n ∈ managed, n ≠ SvcKind.superName →
    (firstInbound s n).map (fun inb => (inb.port, inb.kind)) =
      (firstInbound t n).map fun inb => (inb.port, inb.kind)

/-- What is pushed is a whole backup that was made under a declaration with the inbounds of the
present one. A file that is no whole backup, and so not of a completed download, may be read as
these inbounds all the same. -/
def Fits (c : Custody) (content : Bytes) : Prop :=
  (∃ q ∈ c.snapshots, q.body = content ∧ Alike managed q.server c.server) ∨
    (∀ q ∈ c.snapshots, q.body ≠ content) ∧
      ¬ XuiBackups.Known c.files c.server.name content ∧
      Mirrors managed (read content) (firstInbound c.server)

/-- A Rebase that changes the panel is recorded for a server that is not disabled by it, and what
is pushed fits the declaration. -/
def Kept (c : Custody) : Event → Prop
  | .reloaded _ _ => True
  | .remapped new => Alike managed c.server new
  | .rebased r => (r.recorded = true ∧ r.new.enabled = true) ∨
      (panelOf (r.play refuses c.panel)).inbounds = c.panel.inbounds
  | .answered _ => True
  | .filed _ => True
  | .pushed restore =>
      ∀ content ∈ pushedBy c.files c.server.name restore, Fits read managed c content

/-- What the panel has answered agrees with the declaration of that time, and the downloads of the
server store nothing else. -/
structure Sound (c : Custody) : Prop where
  declares : Declares managed c.server
  snapshots : ∀ q ∈ c.snapshots, Mirrors managed (read q.body) (firstInbound q.server)
  stored : ∀ d ∈ c.files.downloads, d.server = c.server.name → ∃ q ∈ c.snapshots, q.body = d.body

end Property

section Declarations

variable {refuses : Panel → Inbound → Bool} {managed : List String} {s t : KetServer} {p : Panel}

theorem eq_of_toList {α : Type} {o o' : Option α} (h : o.toList = o'.toList) : o = o' := by
  calc o
    _ = o.toList.head? := by cases o <;> rfl
    _ = o'.toList.head? := by rw [h]
    _ = o' := by cases o' <;> rfl

theorem mirrors_iff_alike (h : Mirrors managed p (firstInbound s)) :
    Mirrors managed p (firstInbound t) ↔ Alike managed s t := by
  constructor
  · intro ht n hn hne
    have hlist := (h n hn hne).symm.trans (ht n hn hne)
    exact eq_of_toList hlist
  · intro halike n hn hne
    rw [h n hn hne, halike n hn hne]

theorem mirrors_subset {ns : List String} {declared : InboundMap}
    (h : Mirrors managed p declared) (hns : ∀ n ∈ ns, n ∈ managed) : Mirrors ns p declared :=
  fun n hn => h n (hns n hn)

theorem Declares.order {ord : InboundOrder} (hs : Declares managed s) (ht : Declares managed t) :
    ∀ n ∈ ord.names s t, n ∈ managed := by
  intro n hn
  rcases ((ord.enumerates s t).mem_iff n).mp hn with hn | hn
  · exact hs.managed n hn
  · exact ht.managed n hn

theorem Declares.supervised (hs : Declares managed s) (ht : Declares managed t) :
    Supervised s t :=
  ⟨hs.superName, ht.superName⟩

end Declarations

section Panels

variable {p q : Panel}

theorem mem_iff_of_named (h : ∀ n, named n q.inbounds = named n p.inbounds) (x : XuiInbound) :
    x ∈ q.inbounds ↔ x ∈ p.inbounds := by
  have hmem : ∀ xs : List XuiInbound, x ∈ xs ↔ x ∈ named x.remark xs := by
    intro xs
    simp [named]
  rw [hmem q.inbounds, h, ← hmem]

/-- Panels with the same inbounds under every name have the same inbounds. -/
theorem inbounds_eq_of_named (h : ∀ n, named n q.inbounds = named n p.inbounds) :
    q.inbounds = p.inbounds := by
  have hnodup : ∀ p : Panel, p.inbounds.Nodup := by
    intro p
    refine p.sorted.imp ?_
    rintro x y hlt rfl
    exact Nat.lt_irrefl _ hlt
  have hperm := (List.perm_ext_iff_of_nodup (hnodup q) (hnodup p)).mpr (mem_iff_of_named h)
  refine hperm.eq_of_pairwise ?_ q.sorted p.sorted
  intro x y _ _ hlt hgt
  exact absurd hlt (Nat.lt_asymm hgt)

end Panels

section Downloads

variable {st : Backups} {id : Nat} {d d₁ d₂ : XuiBackups.Download}

/-- A download of the same server with the same body is already there. -/
def Begun (st : Backups) (d : XuiBackups.Download) : Prop :=
  ∃ d₀ ∈ st.downloads, d₀.server = d.server ∧ d₀.body = d.body

theorem begun_of_mem (hd : d ∈ st.downloads) : Begun st d :=
  ⟨d, hd, rfl, rfl⟩

theorem begun_of_mem_set (hd₁ : st.downloads[id]? = some d₁) (hd : d ∈ st.downloads.set id d₂)
    (hserver : d₂.server = d₁.server) (hbody : d₂.body = d₁.body) : Begun st d := by
  rcases List.mem_or_eq_of_mem_set hd with hd | rfl
  · exact begun_of_mem hd
  · exact ⟨d₁, List.mem_of_getElem? hd₁, hserver.symm, hbody.symm⟩

theorem begun_of_mem_ofRunning {act : XuiBackups.Download → Backups}
    (hact : ∀ d₁, st.downloads[id]? = some d₁ → d ∈ (act d₁).downloads → Begun st d)
    (hd : d ∈ (XuiBackups.ofRunning st id act).downloads) : Begun st d := by
  unfold XuiBackups.ofRunning at hd
  split at hd
  · rename_i d₁ hd₁
    split at hd
    · exact hact d₁ hd₁ hd
    · exact begun_of_mem hd
    · exact begun_of_mem hd
  · exact begun_of_mem hd

theorem create_cases {server name : String} {created : Option Nat} {body : Bytes}
    (hd : d ∈ (XuiBackups.create st server name created body).downloads) :
    d ∈ st.downloads ∨ d.server = server ∧ d.body = body := by
  unfold XuiBackups.create at hd
  split at hd
  · rcases List.mem_append.mp hd with hd | hd
    · exact .inl hd
    · rw [List.mem_singleton.mp hd]
      exact .inr ⟨rfl, rfl⟩
  · rcases List.mem_append.mp hd with hd | hd
    · exact .inl hd
    · rw [List.mem_singleton.mp hd]
      exact .inr ⟨rfl, rfl⟩

/-- Only the creation of a file begins a download, and no download changes its body. -/
theorem download_cases {e : XuiBackups.Event} (hd : d ∈ (XuiBackups.step st e).downloads) :
    Begun st d ∨ ∃ stamp created, e = .create d.server stamp created d.body := by
  cases e with
  | create server stamp created body =>
      rcases create_cases hd with hd | ⟨rfl, rfl⟩
      · exact .inl (begun_of_mem hd)
      · exact .inr ⟨stamp, created, rfl⟩
  | write id count =>
      refine .inl (begun_of_mem_ofRunning (fun d₁ hd₁ hd => ?_) hd)
      exact begun_of_mem_set hd₁ hd rfl rfl
  | finish id =>
      refine .inl (begun_of_mem_ofRunning (fun d₁ hd₁ hd => ?_) hd)
      unfold XuiBackups.finish at hd
      split at hd
      · exact begun_of_mem_set hd₁ hd rfl rfl
      · exact begun_of_mem_set hd₁ hd rfl rfl
  | fail id =>
      refine .inl (begun_of_mem_ofRunning (fun d₁ hd₁ hd => ?_) hd)
      exact begun_of_mem_set hd₁ hd rfl rfl
  | select server =>
      simp only [XuiBackups.step] at hd
      split at hd
      · exact .inl (begun_of_mem hd)
      · exact .inl (begun_of_mem hd)
  | prune server removed => exact .inl (begun_of_mem hd)
  | delete server removed => exact .inl (begun_of_mem hd)
  | push restore => exact .inl (begun_of_mem hd)

end Downloads

section Agreement

variable {F : Forms} {refuses : Panel → Inbound → Bool} {read : Bytes → Panel}
  {managed : List String} {c : Custody} {r : Renewal} {e : Event} {content : Bytes}

/-- What a completed download is known to have stored is a backup of the server. -/
theorem Sound.exists_snapshot (h : Sound read managed c)
    (hknown : XuiBackups.Known c.files c.server.name content) :
    ∃ q ∈ c.snapshots, q.body = content := by
  obtain ⟨d, hd, rfl⟩ := hknown
  obtain ⟨hd, hcompleted⟩ := List.mem_filter.mp hd
  exact h.stored d hd (beq_iff_eq.mp (Bool.and_eq_true_iff.mp hcompleted).1)

theorem Sound.fits_iff (h : Sound read managed c) :
    Fits read managed c content ↔ Mirrors managed (read content) (firstInbound c.server) := by
  constructor
  · rintro (⟨q, hq, rfl, halike⟩ | ⟨-, -, hmirrors⟩)
    · exact (mirrors_iff_alike (h.snapshots q hq)).mpr halike
    · exact hmirrors
  · intro hmirrors
    by_cases hwhole : ∃ q ∈ c.snapshots, q.body = content
    · obtain ⟨q, hq, rfl⟩ := hwhole
      exact .inl ⟨q, hq, rfl, (mirrors_iff_alike (h.snapshots q hq)).mp hmirrors⟩
    · exact .inr ⟨fun q hq hbody => hwhole ⟨q, hq, hbody⟩,
        fun hknown => hwhole (h.exists_snapshot hknown), hmirrors⟩

/-- A Reload leaves a server in production as it is declared. -/
theorem reloaded_eq {inboundSet : List Inbound} {new : KetServer}
    (he : Possible F refuses read managed c (.reloaded inboundSet new)) :
    step refuses read c (.reloaded inboundSet new) =
      { c with server := { c.server with enabled := new.enabled } } := by
  obtain ⟨hstate, m, hm⟩ := he
  simp only [step, hm]
  cases reloadMerge_ok hm with
  | replaced _ hold => rw [hstate] at hold; cases hold
  | kept => rfl
  | remapped hremaps => cases hremaps
  | rebased hrebases => cases hrebases

theorem Renewal.server_eq (h : r.Possible F refuses managed c) :
    (r.recorded = true ∧ r.new.enabled = true ∧
        firstInbound (r.server c.server) = firstInbound r.new ∧
        (r.server c.server).inboundNames = r.new.inboundNames ∧
        (r.server c.server).name = r.new.name) ∨
      ¬ (r.recorded = true ∧ r.new.enabled = true) ∧
        firstInbound (r.server c.server) = firstInbound c.server ∧
        (r.server c.server).inboundNames = c.server.inboundNames ∧
        (r.server c.server).name = c.server.name := by
  cases hrecorded : r.recorded with
  | false =>
      have hserver : r.server c.server = c.server := by
        rw [Renewal.server, hrecorded]
        rfl
      rw [hserver]
      exact .inr ⟨by simp, rfl, rfl, rfl⟩
  | true =>
      obtain ⟨m, hm, hrefreshed⟩ := h.merge
      have hserver : r.server c.server =
          { r.merged with ansibleConn := r.merged.ansibleConn.map (updatedConn r.merged) } := by
        rw [Renewal.server, hrecorded]
        rfl
      rw [hserver, hrefreshed.same]
      cases henabled : r.new.enabled with
      | false =>
          rw [rebaseMerge_disabled hm h.state henabled]
          exact .inr ⟨by simp, rfl, rfl, rfl⟩
      | true =>
          obtain ⟨newConn, oldConn, -, rfl⟩ := rebaseMerge_enabled hm h.state henabled
          exact .inl ⟨rfl, rfl, rfl, rfl, rfl⟩

theorem renewed_mirrors (h : r.Possible F refuses managed c) (hs : Declares managed c.server)
    (hp : Agrees managed c) (hrecorded : r.recorded = true) :
    Mirrors managed (panelOf (r.play refuses c.panel)) (firstInbound r.new) := by
  obtain ⟨w, hw⟩ := h.recorded hrecorded
  have hsuper := hs.supervised h.declares
  obtain ⟨hmirrors, hinbounds⟩ := rebased h.data h.plan hsuper
    (mirrors_subset hp (hs.order h.declares)) hw
  have hdata := compareServer_recorded h.data
  rw [hw]
  show Mirrors managed w.panel (firstInbound r.new)
  intro n hn hne
  by_cases hdeclared : n ∈ r.ord.names c.server r.new
  · exact hmirrors n hdeclared hne
  · rw [(r.ord.enumerates c.server r.new).mem_iff, not_or, ← firstInbound_isSome_iff,
      ← firstInbound_isSome_iff, Option.not_isSome_iff_eq_none, Option.not_isSome_iff_eq_none]
      at hdeclared
    obtain ⟨hcurr, hnew⟩ := hdeclared
    have hremoved : n ∉ names r.data.removedInbounds :=
      fun hmem => ((hdata.mem_removed n).mp hmem).1 hcurr
    have hadded : n ∉ names r.data.addedInbounds := by
      intro hmem
      obtain ⟨inb, hinb, rfl⟩ := List.mem_map.mp hmem
      rw [((hdata.mem_added inb).mp hinb).2] at hnew
      cases hnew
    rw [hinbounds, named_append, named_remaining_of_notMem hremoved,
      named_entries_of_notMem hadded, List.append_nil, hp.eq_nil hn hne hcurr, hnew]
    rfl

/-- Where the old declaration stays, the panel still agrees with it exactly when the run left all
the inbounds as they were. -/
theorem stale_mirrors_iff (h : r.Possible F refuses managed c) (hs : Declares managed c.server)
    (hp : Agrees managed c) :
    Mirrors managed (panelOf (r.play refuses c.panel)) (firstInbound c.server) ↔
      (panelOf (r.play refuses c.panel)).inbounds = c.panel.inbounds := by
  have hsuper := hs.supervised h.declares
  have hplay : panelOf (r.play refuses c.panel) = panelOf (r.play refuses c.panel) := rfl
  have hbetween := between h.data h.plan hsuper (mirrors_subset hp (hs.order h.declares)) hplay
  constructor
  · intro hq
    apply inbounds_eq_of_named
    intro n
    rcases hbetween n with hsame | ⟨hcurr, hnew, hnil⟩ | ⟨inb, users, id, hcurr, hnew, -, hone, -⟩
    · exact hsame
    · have hn : n ∈ managed := by
        apply hs.managed
        rw [← firstInbound_isSome_iff]
        exact Option.isSome_iff_ne_none.mpr hcurr
      have hlist := hq n hn (hsuper.ne_of_new hnew)
      rw [hnil] at hlist
      obtain ⟨i, hi⟩ := Option.ne_none_iff_exists'.mp hcurr
      rw [hi] at hlist
      cases hlist
    · have hn : n ∈ managed := by
        apply h.declares.managed
        rw [← firstInbound_isSome_iff, hnew]
        rfl
      have hlist := hq n hn (hsuper.ne_of_curr hcurr)
      rw [hone, hcurr] at hlist
      cases hlist
  · intro hq n hn hne
    rw [hq]
    exact hp n hn hne

theorem sound_step (h : Sound read managed c) (hp : Agrees managed c)
    (he : Possible F refuses read managed c e) : Sound read managed (step refuses read c e) := by
  cases e with
  | reloaded inboundSet new =>
      rw [reloaded_eq he]
      exact ⟨⟨h.declares.superName, h.declares.managed⟩, h.snapshots, h.stored⟩
  | remapped new =>
      obtain ⟨hname, hdeclares⟩ := he
      exact ⟨⟨hdeclares.superName, hdeclares.managed⟩, h.snapshots,
        fun d hd hserver => h.stored d hd (hserver.trans hname)⟩
  | rebased r =>
      obtain ⟨hname, he⟩ := he
      have hrenewed : Declares managed (r.server c.server) ∧
          (r.server c.server).name = c.server.name := by
        rcases Renewal.server_eq he with ⟨-, -, -, hnames, hnew⟩ | ⟨-, -, hnames, hold⟩
        · exact ⟨⟨hnames ▸ he.declares.superName, hnames ▸ he.declares.managed⟩, hnew.trans hname⟩
        · exact ⟨⟨hnames ▸ h.declares.superName, hnames ▸ h.declares.managed⟩, hold⟩
      exact ⟨hrenewed.1, h.snapshots, fun d hd hserver => h.stored d hd (hserver.trans hrenewed.2)⟩
  | answered body =>
      refine ⟨h.declares, ?_, ?_⟩
      · intro q hq
        rcases List.mem_append.mp hq with hq | hq
        · exact h.snapshots q hq
        · rw [List.mem_singleton.mp hq]
          show Mirrors managed (read body) (firstInbound c.server)
          have hread : read body = c.panel := he
          rw [hread]
          exact hp
      · intro d hd hserver
        obtain ⟨q, hq, hbody⟩ := h.stored d hd hserver
        exact ⟨q, List.mem_append_left _ hq, hbody⟩
  | filed e =>
      refine ⟨h.declares, h.snapshots, fun d hd hserver => ?_⟩
      rcases download_cases hd with ⟨d₀, hd₀, hsame, hbody⟩ | ⟨stamp, created, rfl⟩
      · rw [← hbody]
        exact h.stored d₀ hd₀ (hsame.trans hserver)
      · exact he hserver
  | pushed restore =>
      simp only [step]
      split
      · exact ⟨h.declares, h.snapshots, h.stored⟩
      · exact h

theorem agrees_step_iff (h : Sound read managed c) (hp : Agrees managed c)
    (he : Possible F refuses read managed c e) :
    Agrees managed (step refuses read c e) ↔ Kept refuses read managed c e := by
  cases e with
  | reloaded inboundSet new =>
      rw [reloaded_eq he]
      exact iff_of_true hp trivial
  | remapped new => exact mirrors_iff_alike hp
  | rebased r =>
      obtain ⟨-, he⟩ := he
      show Mirrors managed (panelOf (r.play refuses c.panel)) (firstInbound (r.server c.server)) ↔
        _
      rcases Renewal.server_eq he with ⟨hrecorded, henabled, hsame, -⟩ | ⟨hnot, hsame, -⟩
      · rw [hsame]
        exact iff_of_true (renewed_mirrors he h.declares hp hrecorded)
          (.inl ⟨hrecorded, henabled⟩)
      · rw [hsame, stale_mirrors_iff he h.declares hp]
        exact (or_iff_right hnot).symm
  | answered body => exact iff_of_true hp trivial
  | filed e => exact iff_of_true hp trivial
  | pushed restore =>
      simp only [step, Kept]
      cases pushedBy c.files c.server.name restore with
      | none => exact iff_of_true hp fun content hcontent => by cases hcontent
      | some content =>
          simp only [Option.mem_def, Option.some.injEq, forall_eq']
          exact h.fits_iff.symm

end Agreement

section Missing

variable {refuses : Panel → Inbound → Bool} {secrets : Secrets} {run : AnsibleRun}
  {added removed : List Inbound} {data : RebaseData} {inb : Inbound} {n : String} {p : Panel}

def Lacks (n : String) (p : Panel) : Prop :=
  ∀ x ∈ p.inbounds, x.remark ≠ n

/-- The play does not know an ID for the name either. -/
def Unknown (n : String) (p : Panel) (f : String → Option Nat) : Prop :=
  Lacks n p ∧ f n = none

theorem Unknown.lacks {f : String → Option Nat} (h : Unknown n p f) : Lacks n p :=
  h.1

/-- What a play does to a panel that lacks a name. -/
abbrev Spares {α : Type} (n : String) (play : Play α) : Prop :=
  Triple (On (Unknown n)) play (fun _ => On (Unknown n)) (Leaves (Lacks n))

theorem aside_spares : Spares n aside :=
  triple_aside fun _ _ h => h.lacks

theorem setFacts_spares : Spares n setFacts := by
  refine (triple_setFacts fun _ _ h => h.lacks).weaken (fun _ h => h) ?_ (fun _ h => h)
  rintro _ w ⟨f, ⟨hlacks, hnone⟩, hf⟩
  refine ⟨hlacks, ?_⟩
  rw [hf, factsOf_of_notMem hlacks]
  exact hnone

theorem lookupId_spares (k : String) : Spares n (lookupId k) :=
  (triple_lookupId fun _ _ h => h.lacks).weaken (fun _ h => h) (fun _ _ h => h.1) (fun _ h => h)

theorem lookupId_stops :
    Triple (On (Unknown n)) (lookupId n) (fun _ _ => False) (Leaves (Lacks n)) := by
  refine (triple_lookupId fun _ _ h => h.lacks).weaken (fun _ h => h) ?_ (fun _ h => h)
  rintro id w ⟨⟨-, hnone⟩, hid⟩
  rw [hnone] at hid
  cases hid

theorem change_spares {change : Panel → Panel} (h : ∀ p, Lacks n p → Lacks n (change p)) :
    Spares n (request fun p => .ok (PUnit.unit, change p)) := by
  refine triple_change (fun _ _ h => h.lacks) ?_ (fun _ _ h => h.lacks)
  rintro p f ⟨hlacks, hnone⟩
  exact ⟨h p hlacks, hnone⟩

theorem Lacks.del (h : Lacks n p) (id : Nat) : Lacks n (p.del id) :=
  fun x hx => h x (List.mem_of_mem_filter hx)

theorem Lacks.add {port : UInt16} {kind : InboundKind} {clients : List Client} {remark : String}
    (h : Lacks n p) (hne : remark ≠ n) : Lacks n (p.add remark port kind clients) := by
  intro x hx
  rcases List.mem_append.mp hx with hx | hx
  · exact h x hx
  · rw [List.mem_singleton.mp hx]
    exact hne

theorem Lacks.addClients (h : Lacks n p) (id : Nat) (clients : List Client) :
    Lacks n (p.addClients id clients) := by
  intro x hx
  obtain ⟨y, hy, rfl⟩ := List.mem_map.mp hx
  unfold Panel.grant
  split
  · exact h y hy
  · exact h y hy

theorem delInboundSubtasks_spares (inb : Inbound) : Spares n (delInboundSubtasks inb) := by
  refine Triple.bind setFacts_spares fun _ => ?_
  refine Triple.bind (lookupId_spares inb.name) fun id => ?_
  exact Triple.bind (change_spares fun p h => h.del id) fun _ => aside_spares

theorem delInboundSubtasks_stops (hname : inb.name = n) :
    Triple (On (Unknown n)) (delInboundSubtasks inb) (fun _ _ => False) (Leaves (Lacks n)) := by
  refine Triple.bind setFacts_spares fun _ => ?_
  rw [hname]
  exact Triple.bind_stop lookupId_stops

theorem delInbound_spares (removed : List Inbound) : Spares n (delInbound removed) :=
  Triple.bind (Triple.forM_keep fun inb _ => delInboundSubtasks_spares inb) fun _ => aside_spares

theorem delInbound_stops_at (hn : n ∈ names removed) :
    Triple (On (Unknown n)) (delInbound removed) (fun _ _ => False) (Leaves (Lacks n)) := by
  obtain ⟨inb, hinb, hname⟩ := List.mem_map.mp hn
  obtain ⟨before, after, rfl⟩ := List.append_of_mem hinb
  refine Triple.bind_stop (Triple.forM_stop ?_ (delInboundSubtasks_stops hname))
  exact fun inb _ => delInboundSubtasks_spares inb

theorem addInboundSubtasks_spares (hne : inb.name ≠ n) :
    Spares n (addInboundSubtasks refuses secrets inb) := by
  unfold addInboundSubtasks
  cases secrets.motherSubids.lookup inb.name with
  | none => exact fun w hw => hw.lacks
  | some subId =>
      have hpost : Spares n (postInbound refuses subId inb) := by
        apply triple_request
        · intro w hw
          exact hw.lacks
        · rintro w hw a q heffect
          split at heffect
          · cases heffect
          · obtain ⟨-, rfl⟩ := Prod.mk.inj (Except.ok.inj heffect)
            have hlacks : Lacks n (w.panel.add inb.name inb.port inb.kind [.mother subId]) :=
              Lacks.add hw.lacks hne
            exact ⟨hlacks, fun _ => ⟨hlacks, hw.2⟩⟩
      have hget (id : Nat) :
          Spares n (request fun q => .ok (q.inbounds.find? fun x => x.id == id, q)) := by
        apply triple_request
        · intro w hw
          exact hw.lacks
        · rintro w hw a q heffect
          obtain ⟨-, rfl⟩ := Prod.mk.inj (Except.ok.inj heffect)
          exact ⟨hw.lacks, fun _ => hw⟩
      refine Triple.bind aside_spares fun _ => ?_
      refine Triple.bind hpost fun id => ?_
      refine Triple.bind aside_spares fun _ => ?_
      exact Triple.bind (hget id) fun _ => aside_spares

theorem addClientSubtasks_spares (inb : Inbound) : Spares n (addClientSubtasks inb) := by
  refine Triple.bind (lookupId_spares inb.name) fun id => ?_
  refine Triple.bind aside_spares fun _ => ?_
  exact Triple.bind (change_spares fun p h => h.addClients id _) fun _ => aside_spares

theorem addClient_spares (added : List Inbound) : Spares n (addClient added) := by
  refine Triple.bind setFacts_spares fun _ => ?_
  refine Triple.bind (Triple.forM_keep fun inb _ => ?_) fun _ => ?_
  · exact ensurePresent_triple fun _ _ h => h.lacks
  · refine Triple.bind aside_spares fun _ => ?_
    exact Triple.forM_keep fun inb _ => addClientSubtasks_spares inb

theorem addInbound_spares (hn : n ∉ names added) : Spares n (addInbound refuses secrets added) := by
  refine Triple.bind (Triple.forM_keep fun inb hinb => ?_) fun _ => ?_
  · apply addInboundSubtasks_spares
    rintro rfl
    exact hn (List.mem_map_of_mem hinb)
  · exact Triple.bind (addClient_spares added) fun _ => aside_spares

theorem task_spares (hdata : run.rebaseData = some data) (hn : n ∉ names data.addedInbounds)
    (a : AnsibleAction) : Spares n (task refuses run a) := by
  by_cases hdel : a = .DelInbound
  · have htask : task refuses run a = delInbound data.removedInbounds := by
      rw [hdel]
      simp only [task, hdata]
    rw [htask]
    exact delInbound_spares _
  · by_cases hadd : a = .AddInbound
    · have htask : task refuses run a =
          addInbound refuses run.server.secrets data.addedInbounds := by
        rw [hadd]
        simp only [task, hdata]
      rw [htask]
      exact addInbound_spares hn
    · rw [task_aside hdel hadd]
      exact aside_spares

/-- A run that does not add the name leaves the panel without it. -/
theorem run_lacks (hdata : run.rebaseData = some data) (hn : n ∉ names data.addedInbounds)
    (hp : Lacks n p) (fates : List Fate) :
    Lacks n (panelOf (masterPlaybook refuses run (start p fates))) := by
  have htriple : Spares n (masterPlaybook refuses run) :=
    Triple.forM_keep fun a _ => task_spares hdata hn a
  have hstart : On (Unknown n) (start p fates) := ⟨hp, rfl⟩
  cases hrun : masterPlaybook refuses run (start p fates) with
  | ok a w => exact (htriple.ok hstart hrun).lacks
  | error e w => exact htriple.error hstart hrun

/-- A run that is to delete the name never ends well. -/
theorem run_fails (hdata : run.rebaseData = some data) (hn : n ∉ names data.addedInbounds)
    (hremoved : n ∈ names data.removedInbounds) (hdel : .DelInbound ∈ run.actions)
    (hp : Lacks n p) (fates : List Fate) (w : World) :
    masterPlaybook refuses run (start p fates) ≠ .ok ⟨⟩ w := by
  have hstop : Triple (On (Unknown n)) (task refuses run .DelInbound) (fun _ _ => False)
      (Leaves (Lacks n)) := by
    have htask : task refuses run .DelInbound = delInbound data.removedInbounds := by
      simp only [task, hdata]
    rw [htask]
    exact delInbound_stops_at hremoved
  have htriple : Triple (On (Unknown n)) (masterPlaybook refuses run) (fun _ _ => False)
      (Leaves (Lacks n)) := by
    obtain ⟨before, after, hactions⟩ := List.append_of_mem hdel
    unfold masterPlaybook
    rw [hactions]
    exact Triple.forM_stop (fun a _ => task_spares hdata hn a) hstop
  intro hrun
  exact htriple.ok ⟨hp, rfl⟩ hrun

end Missing

section Lost

variable {F : Forms} {refuses : Panel → Inbound → Bool} {read : Bytes → Panel}
  {managed : List String} {c : Custody} {r : Renewal} {e : Event} {n : String} {early : Nat}

/-- An inbound that is declared is not in the panel, nor in what the panel has answered since
the early backups. -/
structure Lost (read : Bytes → Panel) (n : String) (early : Nat) (c : Custody) : Prop where
  declared : n ∈ c.server.inboundNames
  panel : Lacks n c.panel
  late : ∀ q ∈ c.snapshots.drop early, Lacks n (read q.body)

def Event.isRemap : Event → Bool
  | .remapped _ => true
  | _ => false

/-- What may happen without a Remap. -/
def Stays (F : Forms) (refuses : Panel → Inbound → Bool) (read : Bytes → Panel)
    (managed : List String) (c : Custody) (e : Event) : Prop :=
  Possible F refuses read managed c e ∧ e.isRemap = false

/-- A restore pushes a file that is read as a panel with the inbound, and that is none of the late
backups. -/
def Brings (read : Bytes → Panel) (n : String) (early : Nat) (c : Custody) : Event → Prop
  | .pushed restore => ∃ content ∈ pushedBy c.files c.server.name restore,
      ¬ Lacks n (read content) ∧ ∀ q ∈ c.snapshots.drop early, q.body ≠ content
  | _ => False

theorem Renewal.Possible.declares_of_lacks (h : r.Possible F refuses managed c)
    (hn : n ∈ c.server.inboundNames) (hp : Lacks n c.panel) :
    n ∈ (r.server c.server).inboundNames := by
  have hcurr : firstInbound c.server n ≠ none := by
    rw [← Option.isSome_iff_ne_none, firstInbound_isSome_iff]
    exact hn
  rcases Renewal.server_eq h with ⟨hrecorded, -, -, hnames, -⟩ | ⟨-, -, hnames, -⟩
  · rw [hnames]
    by_contra hnew
    rw [← firstInbound_isSome_iff, Option.not_isSome_iff_eq_none] at hnew
    have hdata := compareServer_recorded h.data
    have hremoved := (hdata.mem_removed n).mpr ⟨hcurr, hnew⟩
    have hplan := planned_plan h.plan
    have hdel := hplan.del.mpr fun hnil => by
      rw [hnil] at hremoved
      cases hremoved
    obtain ⟨w, hw⟩ := h.recorded hrecorded
    exact run_fails rfl (hdata.disjoint hremoved) hremoved hdel hp r.fates w hw
  · rw [hnames]
    exact hn

theorem brings_iff (h : Lost read n early c) (restore : Nat) :
    ¬ Brings read n early c (.pushed restore) ↔
      ∀ content ∈ pushedBy c.files c.server.name restore, Lacks n (read content) := by
  constructor
  · intro hnot content hcontent
    by_contra hlacks
    refine hnot ⟨content, hcontent, hlacks, ?_⟩
    rintro q hq rfl
    exact hlacks (h.late q hq)
  · rintro hall ⟨content, hcontent, hlacks, -⟩
    exact hlacks (hall content hcontent)

theorem lost_step_iff (h : Lost read n early c) (he : Stays F refuses read managed c e) :
    (n ∈ (step refuses read c e).server.inboundNames ∧ Lacks n (step refuses read c e).panel) ↔
      ¬ Brings read n early c e := by
  obtain ⟨he, hremap⟩ := he
  cases e with
  | reloaded inboundSet new =>
      rw [reloaded_eq he]
      exact iff_of_true ⟨h.declared, h.panel⟩ id
  | remapped new => cases hremap
  | rebased r =>
      obtain ⟨-, he⟩ := he
      have hadded : n ∉ names r.data.addedInbounds := by
        intro hmem
        obtain ⟨inb, hinb, rfl⟩ := List.mem_map.mp hmem
        have hnone := (((compareServer_recorded he.data).mem_added inb).mp hinb).1
        rw [← Option.not_isSome_iff_eq_none, firstInbound_isSome_iff] at hnone
        exact hnone h.declared
      exact iff_of_true ⟨he.declares_of_lacks h.declared h.panel,
        run_lacks rfl hadded h.panel r.fates⟩ id
  | answered body => exact iff_of_true ⟨h.declared, h.panel⟩ id
  | filed e => exact iff_of_true ⟨h.declared, h.panel⟩ id
  | pushed restore =>
      rw [brings_iff h]
      simp only [step]
      cases pushedBy c.files c.server.name restore with
      | none =>
          exact iff_of_true ⟨h.declared, h.panel⟩ fun content hcontent => by cases hcontent
      | some content =>
          simp only [Option.mem_def, Option.some.injEq, forall_eq']
          exact and_iff_right h.declared

theorem late_step (h : Lost read n early c) (hearly : early ≤ c.snapshots.length)
    (he : Possible F refuses read managed c e) :
    early ≤ (step refuses read c e).snapshots.length ∧
      ∀ q ∈ (step refuses read c e).snapshots.drop early, Lacks n (read q.body) := by
  cases e with
  | reloaded inboundSet new =>
      rw [reloaded_eq he]
      exact ⟨hearly, h.late⟩
  | answered body =>
      refine ⟨hearly.trans (by simp [step]), fun q hq => ?_⟩
      simp only [step] at hq
      rw [List.drop_append_of_le_length hearly] at hq
      rcases List.mem_append.mp hq with hq | hq
      · exact h.late q hq
      · rw [List.mem_singleton.mp hq]
        show Lacks n (read body)
        have hread : read body = c.panel := he
        rw [hread]
        exact h.panel
  | pushed restore =>
      simp only [step]
      split
      · exact ⟨hearly, h.late⟩
      · exact ⟨hearly, h.late⟩
  | _ => exact ⟨hearly, h.late⟩

end Lost

section Instances

open Xcplane.Specimen

instance (n : String) (p : Panel) : Decidable (Lacks n p) :=
  inferInstanceAs (Decidable (∀ x ∈ p.inbounds, x.remark ≠ n))

def managedNames : List String :=
  ["direct", "proxied", SvcKind.superName]

def alphaCustody : Custody where
  server := alpha
  panel := alphaPanel
  files := XuiBackups.noBackups
  snapshots := []

/-- What `swapped` is merged into, once its Cloudflare state is prepared. -/
def swapMerged : KetServer :=
  { swapped with
    secrets := rebasedSecrets alpha swapped
    cfstate := some { cfstate with cloudflareOnly := true } }

def swapRenewal : Renewal where
  opts := { forced := true }
  ord := inboundOrder
  new := swapped
  merged := swapMerged
  data := swappedData
  actions := [.PortsCheck, .Cloudflare, .Nginx, .XuiAuth, .DelInbound, .AddInbound, .Fail2ban,
    .Firewall]
  fates := []
  recorded := true

theorem swapped_declares : Declares managedNames swapped where
  superName := by decide +kernel
  managed := by decide +kernel

theorem swapped_merge :
    rebaseMerge alpha swapped = .ok { swapMerged with cfstate := swapped.cfstate } := by
  decide +kernel

theorem swapMerged_refreshed :
    Refreshed { swapMerged with cfstate := swapped.cfstate } swapMerged :=
  ⟨rfl, _, rfl, by decide +kernel⟩

theorem swapMerged_plan :
    planActions forms alpha swapMerged (some swappedData) = .ok swapRenewal.actions := by
  decide +kernel

theorem swapRenewal_ended : ∃ w, swapRenewal.play takenPort alphaPanel = .ok ⟨⟩ w := by
  have hended : ended (swapRenewal.play takenPort alphaPanel) = true := by decide +kernel
  cases hrun : swapRenewal.play takenPort alphaPanel with
  | error e w =>
      rw [hrun] at hended
      cases hended
  | ok _ w => exact ⟨w, rfl⟩

theorem swapRenewal_possible (files : Backups) (snapshots : List Snapshot) :
    swapRenewal.Possible forms takenPort managedNames ⟨alpha, alphaPanel, files, snapshots⟩ where
  declares := swapped_declares
  state := rfl
  merge := ⟨_, swapped_merge, swapMerged_refreshed⟩
  data := swapped_data
  plan := swapMerged_plan
  recorded _ := swapRenewal_ended

/-- The panel after the Rebase. -/
def swappedPanel : Panel :=
  panelOf (swapRenewal.play takenPort alphaPanel)

/-- What x-ui makes of the two databases. -/
def reading (body : Bytes) : Panel :=
  if body = [1] then alphaPanel else swappedPanel

theorem reading_two : reading [2] = panelOf (swapRenewal.play takenPort alphaPanel) :=
  if_neg (by decide)

theorem alphaCustody_sound : Sound reading managedNames alphaCustody where
  declares := ⟨by decide +kernel, by decide +kernel⟩
  snapshots q hq := by cases hq
  stored d hd := by cases hd

theorem alphaCustody_agrees : Agrees managedNames alphaCustody := by
  show Mirrors managedNames alphaPanel (firstInbound alpha)
  decide +kernel

/-- A download of the whole database. -/
def downloaded (id : Nat) (stamp : String) (body : Bytes) : List XuiBackups.Event :=
  [.create "alpha" stamp none body, .write id 1, .finish id]

def backedUp (id : Nat) (stamp : String) (body : Bytes) : List Event :=
  .answered body :: (downloaded id stamp body).map .filed

theorem run_backedUp (c : Custody) (id : Nat) (stamp : String) (body : Bytes) :
    run (step takenPort reading) c (backedUp id stamp body) =
      { c with
        files := run XuiBackups.step c.files (downloaded id stamp body)
        snapshots := c.snapshots ++ [⟨body, c.server⟩] } :=
  rfl

theorem possible_backedUp {c : Custody} {body : Bytes} (hread : reading body = c.panel) (id : Nat)
    (stamp : String) :
    Along (step takenPort reading) (Possible forms takenPort reading managedNames) c
      (backedUp id stamp body) :=
  ⟨hread, fun _ => ⟨_, List.mem_append_right _ (List.mem_singleton_self _), rfl⟩,
    trivial, trivial, trivial⟩

/-- The state once `alpha` is backed up and rebased. -/
theorem run_rebased : run (step takenPort reading) alphaCustody
    (backedUp 0 "2027-01-31_23-59-59" [1] ++ [.rebased swapRenewal]) =
      { server := swapRenewal.server alpha
        panel := panelOf (swapRenewal.play takenPort alphaPanel)
        files := run XuiBackups.step XuiBackups.noBackups (downloaded 0 "2027-01-31_23-59-59" [1])
        snapshots := [⟨[1], alpha⟩] } := by
  have hbackedUp := run_backedUp alphaCustody 0 "2027-01-31_23-59-59" [1]
  rw [run] at hbackedUp ⊢
  rw [List.foldl_append, hbackedUp]
  rfl

theorem possible_rebased : Along (step takenPort reading)
    (Possible forms takenPort reading managedNames) alphaCustody
      (backedUp 0 "2027-01-31_23-59-59" [1] ++ [.rebased swapRenewal]) :=
  along_append_iff.mpr ⟨possible_backedUp rfl _ _, ⟨rfl, swapRenewal_possible _ _⟩, trivial⟩

theorem kept_rebased : Along (step takenPort reading) (Kept takenPort reading managedNames)
    alphaCustody (backedUp 0 "2027-01-31_23-59-59" [1] ++ [.rebased swapRenewal]) :=
  ⟨trivial, trivial, trivial, trivial, .inl ⟨rfl, rfl⟩, trivial⟩

theorem swapped_unlike : ¬ Alike managedNames alpha (swapRenewal.server alpha) := by
  intro halike
  exact absurd (halike "proxied" (by decide) (by decide)) (by decide +kernel)

/-- The directory with the backup that was made before the Rebase. -/
def oldFiles : Backups :=
  run XuiBackups.step XuiBackups.noBackups (downloaded 0 "2027-01-31_23-59-59" [1])

theorem pushedBy_old :
    pushedBy (XuiBackups.step oldFiles (.select "alpha")) "alpha" 0 = some [1] := by
  decide +kernel

def newFiles (files : Backups) : Backups :=
  run XuiBackups.step files (downloaded 1 "2027-02-01_00-00-59" [2])

theorem pushedBy_new :
    pushedBy (XuiBackups.step (newFiles oldFiles) (.select "alpha")) "alpha" 0 = some [2] := by
  decide +kernel

/-- The server was rebased and then backed up again, while its older backup was already selected
and was pushed in the end. -/
def swappedBack : Custody where
  server := swapRenewal.server alpha
  panel := reading [1]
  files := newFiles (XuiBackups.step oldFiles (.select "alpha"))
  snapshots := [⟨[1], alpha⟩, ⟨[2], swapRenewal.server alpha⟩]

theorem pushedBy_again : pushedBy swappedBack.files "alpha" 0 = some [1] := by
  decide +kernel

theorem run_swappedBack : run (step takenPort reading) alphaCustody
    (backedUp 0 "2027-01-31_23-59-59" [1] ++ [.rebased swapRenewal] ++
      .filed (.select "alpha") :: (backedUp 1 "2027-02-01_00-00-59" [2] ++ [.pushed 0])) =
    swappedBack := by
  have hrun := run_rebased
  generalize panelOf (swapRenewal.play takenPort alphaPanel) = p at hrun
  have hlast : step takenPort reading ⟨swapRenewal.server alpha, p, swappedBack.files,
      swappedBack.snapshots⟩ (.pushed 0) = swappedBack := by
    have hpushed : pushedBy swappedBack.files (swapRenewal.server alpha).name 0 = some [1] :=
      pushedBy_again
    simp only [step, hpushed]
    rfl
  rw [run] at hrun ⊢
  rw [List.foldl_append, hrun]
  exact hlast

theorem pushedBy_newer :
    pushedBy (XuiBackups.step swappedBack.files (.select "alpha")) "alpha" 1 = some [2] := by
  decide +kernel

end Instances

end Xcplane.PanelRestore
