import Xcplane.Connections
import Xcplane.RebaseOutcome
import Xcplane.RunStops

/-!
The life of a server under one daemon: it is declared, set up, taken from one
declaration to the next, repaired and destroyed, and each of these runs may stop
anywhere. Whether the controller reaches the server after every one of them.
-/

namespace Xcplane.ServerLife

open Xcplane.Types
open Xcplane.Lib
open Xcplane.Deploy
open Xcplane.RebasePlan
open Xcplane.RebaseOutcome
open Xcplane.Provision
open Xcplane.Connections
open Xcplane.PlaybookVars
open Xcplane.Playbook
open Xcplane.SshSetup
open Xcplane.SshReach
open Xcplane.RunStops

section Life

/-- A server as the daemon has it, and the machine it stands for. -/
structure Life where
  server : KetServer
  machine : Machine

/-- What a run is started for. -/
inductive Job
  | fullSetup (xuiToken : String)
  | rebase (new : KetServer) (data : Option RebaseDiff.RebaseData) (actions : List AnsibleAction)
  | fix (action : AnsibleAction)
  | destroyServer

def Job.run (s : KetServer) : Job → AnsibleRun
  | .fullSetup _ => ⟨s, [.FullSetup], none⟩
  | .rebase new data actions => ⟨new, actions, data⟩
  | .fix action => ⟨s, [action], none⟩
  | .destroyServer => ⟨s, [.DestroyServer], none⟩

/-- The server once it is recorded that the run ended well. -/
def Job.recorded (s : KetServer) : Job → KetServer
  | .fullSetup xuiToken => (produced xuiToken s).1
  | .rebase new _ _ => { new with ansibleConn := new.ansibleConn.map (updatedConn new) }
  | .fix _ => s
  | .destroyServer => (retired s).1

/-- A run with the tasks of it that were done. The daemon may stop between the last
task and the record. -/
structure Visit where
  job : Job
  vars : AnsibleVars
  done : List Task
  recorded : Bool

inductive Event
  | declared (new : KetServer)
  | visited (v : Visit)

/-- The ping before a run, which takes the port of the connection. -/
def Pings (m : Machine) (s : KetServer) : Prop :=
  ∃ port ∈ connPort s, m.Reaches port

instance (m : Machine) (s : KetServer) : Decidable (Pings m s) :=
  inferInstanceAs (Decidable (∃ port ∈ connPort s, m.Reaches port))

def Life.visit (l : Life) (v : Visit) : Life :=
  if Pings l.machine (v.job.run l.server).server then
    { server := if v.recorded then v.job.recorded l.server else l.server
      machine := (attempt Playbook.step l.machine v.done).getD l.machine }
  else l

def step (l : Life) : Event → Life
  | .declared new => { l with server := new }
  | .visited v => l.visit v

end Life

section Property

/-- The servers that the daemon starts a run of the kind for. -/
def Job.Allowed (F : Forms) (s : KetServer) : Job → Prop
  | .fullSetup _ => s.state = .Offgrid ∧ s.secrets.xuiToken = none
  | .rebase new data actions =>
      s.state = .Production ∧ new.state = .Production ∧ connPort new = connPort s ∧
        planActions F s new data = .ok actions
  | .fix action => s.state = .Production ∧ action ∈ fixes
  | .destroyServer => s.state = .Production

/-- The tasks are some of the playbook, from its start, and those that were done could
be done on the machine. -/
structure Visit.Possible (F : Forms) (l : Life) (v : Visit) : Prop where
  allowed : v.job.Allowed F l.server
  vars : ∃ source, writeAnsibleVars source (v.job.run l.server) = .ok v.vars
  sshPort : (v.job.run l.server).server.sshPort ≠ Constants.nginxPort
  done : v.done <+: playbook v.vars
  succeeds : (attempt Playbook.step l.machine v.done).isSome
  recorded : v.recorded = true → v.done = playbook v.vars

/-- A server that is not in production may be declared anew. -/
def Possible (F : Forms) (l : Life) : Event → Prop
  | .declared new =>
      l.server.state = .Offgrid ∧ new.state = .Offgrid ∧
        connPort new = some Constants.ansiblePort ∧ new.sshPort ≠ Constants.nginxPort
  | .visited v => v.Possible F l

/-- The port on which the daemon looks for the server is open. -/
def Reachable (l : Life) : Prop :=
  l.machine.Reaches (listenPort l.server)

/-- Where the run is not recorded, it did not leave sshd on another port. -/
def Unmoved (l : Life) (v : Visit) : Prop :=
  v.recorded = false →
    (Done .SSH 10 v.done → listenPort l.server = (v.job.run l.server).server.sshPort) ∧
      (Done .DestroyServer 10 v.done → listenPort l.server = Constants.ansiblePort)

/-- The final rules were not loaded without the port before the set for SSH got it. Only
a full setup has other rules that may accept the port. -/
def Opened (l : Life) (v : Visit) : Prop :=
  Done .Firewall 4 v.done → ¬ Done .SSH 4 v.done →
    listenPort l.server ∈ l.machine.sshSet ∨
      .FullSetup ∈ (v.job.run l.server).actions ∧
        OpenedOtherwise (v.job.run l.server) v.vars (listenPort l.server)

def Spared (l : Life) : Event → Prop
  | .declared _ => True
  | .visited v => Unmoved l v ∧ Opened l v

/-- What holds of a server that can be reached: the daemon looks for it on its port, and
in production the set for SSH has the port unless a destruction has removed the table. -/
structure Sound (l : Life) : Prop where
  conn : connPort l.server = some (listenPort l.server)
  sshPort : l.server.sshPort ≠ Constants.nginxPort
  provisioned : l.server.state = .Production →
    listenPort l.server ∈ l.machine.sshSet ∨ l.machine.table = none

end Property

section Merged

/-- The run that a Rebase plans for a server it merged is one that the server allows. -/
theorem rebase_allowed {F : Forms} {o s m m' : KetServer} {data : Option RebaseDiff.RebaseData}
    {actions : List AnsibleAction} (hmerge : Merge.rebaseMerge o s = .ok m)
    (hstate : s.state = .Production) (hrefreshed : Cloudflare.Refreshed m m')
    (hplan : planActions F o m' data = .ok actions) :
    (Job.rebase m' data actions).Allowed F o := by
  have hold := rebaseMerge_old_production hmerge hstate
  have hmerged : m.state = .Production ∧ connPort m = connPort o := by
    cases henabled : s.enabled with
    | false =>
        rw [rebaseMerge_disabled hmerge hstate henabled]
        exact ⟨hold, rfl⟩
    | true =>
        obtain ⟨newConn, oldConn, hconn, rfl⟩ := rebaseMerge_enabled hmerge hstate henabled
        refine ⟨hstate, ?_⟩
        rw [connPort, connPort, hconn]
        rfl
  refine ⟨hold, ?_, ?_, hplan⟩
  · rw [hrefreshed.same]
    exact hmerged.1
  · rw [hrefreshed.same]
    exact hmerged.2

end Merged

section Visits

variable {F : Forms} {l : Life} {v : Visit}

theorem Visit.Possible.connPort (h : v.Possible F l) :
    RebaseOutcome.connPort (v.job.run l.server).server = RebaseOutcome.connPort l.server := by
  have hallowed := h.allowed
  cases hjob : v.job with
  | fullSetup xuiToken => rfl
  | rebase new data actions =>
      rw [hjob] at hallowed
      exact hallowed.2.2.1
  | fix action => rfl
  | destroyServer => rfl

/-- What a visit starts from and comes to, once its ping was answered. -/
structure Made (l : Life) (v : Visit) (source : RangeSource) (m' : Machine) : Prop where
  prepared : Prepared source (v.job.run l.server) v.vars
  stored : v.vars.ansiblePort = some (listenPort l.server)
  attempt : attempt Playbook.step l.machine v.done = some m'
  visit : l.visit v =
    { server := if v.recorded then v.job.recorded l.server else l.server
      machine := m' }

theorem exists_made (hsound : Sound l) (hreachable : Reachable l) (h : v.Possible F l) :
    ∃ source m', Made l v source m' := by
  obtain ⟨source, hvars⟩ := h.vars
  obtain ⟨m', hm'⟩ := Option.isSome_iff_exists.mp h.succeeds
  have hprepared := writeAnsibleVars_prepared hvars
  have hconn := h.connPort.trans hsound.conn
  have hpings : Pings l.machine (v.job.run l.server).server := ⟨_, hconn, hreachable⟩
  refine ⟨source, m', hprepared, hprepared.port.symm.trans hconn, hm', ?_⟩
  rw [Life.visit, if_pos hpings, hm']
  rfl

/-- What is to be shown of a visit to a server that can be reached. -/
structure Settled (l : Life) (v : Visit) : Prop where
  reachable : Reachable (l.visit v) ↔ Unmoved l v ∧ Opened l v
  sound : Unmoved l v → Opened l v → Sound (l.visit v)

theorem settled_fix {action : AnsibleAction} {vars : AnsibleVars} {done : List Task}
    {recorded : Bool} (hsound : Sound l) (hreachable : Reachable l)
    (h : Visit.Possible F l ⟨.fix action, vars, done, recorded⟩) :
    Settled l ⟨.fix action, vars, done, recorded⟩ := by
  obtain ⟨source, m', hmade⟩ := exists_made hsound hreachable h
  obtain ⟨rfl, hfiles⟩ := attempt_fix h.allowed.2 hmade.prepared h.done hmade.attempt
  have hnot : ∀ file number, file ∉ fixes → ¬ Done file number done := by
    rintro file number hfile ⟨t, ht, rfl, _⟩
    exact hfile (hfiles t ht)
  have hvisit : l.visit ⟨.fix action, vars, done, recorded⟩ = l := by
    rw [hmade.visit]
    cases recorded with
    | false => rfl
    | true => rfl
  constructor
  · rw [hvisit]
    have h10 := hnot .SSH 10 (by decide)
    have h10' := hnot .DestroyServer 10 (by decide)
    have h4 := hnot .Firewall 4 (by decide)
    simp [Unmoved, Opened, h10, h10', h4, hreachable]
  · intro _ _
    rwa [hvisit]

theorem settled_destroyServer {vars : AnsibleVars} {done : List Task} {recorded : Bool}
    (hsound : Sound l) (hreachable : Reachable l)
    (h : Visit.Possible F l ⟨.destroyServer, vars, done, recorded⟩) :
    Settled l ⟨.destroyServer, vars, done, recorded⟩ := by
  obtain ⟨source, m', hmade⟩ := exists_made hsound hreachable h
  have hplaybook : playbook vars = destroyServer := by
    have htasks : vars.ansibleTasks = [.DestroyServer] := hmade.prepared.tasks
    rw [playbook, htasks, List.flatMap_singleton]
    rfl
  have hdone : done <+: destroyServer := hplaybook ▸ h.done
  obtain ⟨hstopped, htable, hended⟩ := attempt_destroyServer hreachable hdone hmade.attempt
  have hnot : ∀ file number, file ≠ .DestroyServer → ¬ Done file number done := by
    rintro file number hfile ⟨t, ht, rfl, _⟩
    have hall : ∀ t ∈ destroyServer, t.file = .DestroyServer := by decide
    exact hfile (hall t (hdone.subset ht))
  have h4 := hnot .Firewall 4 (by decide)
  have h10 := hnot .SSH 10 (by decide)
  cases recorded with
  | false =>
      have hvisit : l.visit ⟨.destroyServer, vars, done, false⟩ = { l with machine := m' } :=
        hmade.visit
      constructor
      · rw [hvisit]
        simpa [Unmoved, Opened, h4, h10, Reachable] using hstopped
      · intro _ _
        rw [hvisit]
        refine ⟨hsound.conn, hsound.sshPort, ?_⟩
        intro hstate
        rcases htable with htable | htable
        · simpa [Machine.sshSet, htable] using hsound.provisioned hstate
        · exact .inr htable
  | true =>
      obtain ⟨conn, hconn, _⟩ := Option.bind_eq_some_iff.mp hsound.conn
      have hvisit : l.visit ⟨.destroyServer, vars, done, true⟩ =
          { server := (retired l.server).1
            machine := m' } := hmade.visit
      have hretired : (retired l.server).1 = { l.server with
          state := .Offgrid
          ansibleConn := some (connAt Constants.ansiblePort conn) } := by
        simp [retired, hconn]
      have hreaches := hended ((h.recorded rfl).trans hplaybook)
      constructor
      · rw [hvisit, hretired]
        simpa [Unmoved, Opened, h4, Reachable, listenPort] using hreaches
      · intro _ _
        rw [hvisit, hretired]
        refine ⟨rfl, hsound.sshPort, ?_⟩
        intro hstate
        cases hstate

theorem file_of_mem_taskFile {vars : AnsibleVars} {a : AnsibleAction} (hplanned : a ∈ planned) :
    ∀ t ∈ taskFile vars a, t.file = a := by
  cases a with
  | FirewallBootstrap | BaseSetup | FullSetup | DestroyServer =>
      exact absurd hplanned (by decide)
  | _ =>
      simp [taskFile, checkPorts, elsewhere, outblockedUpdate, delInbound, addInbound, firewall,
        sshSetup]

theorem settled_rebase {new : KetServer} {data : Option RebaseDiff.RebaseData}
    {actions : List AnsibleAction} {vars : AnsibleVars} {done : List Task} {recorded : Bool}
    (hsound : Sound l) (hreachable : Reachable l)
    (h : Visit.Possible F l ⟨.rebase new data actions, vars, done, recorded⟩) :
    Settled l ⟨.rebase new data actions, vars, done, recorded⟩ := by
  obtain ⟨source, m', hmade⟩ := exists_made hsound hreachable h
  obtain ⟨hstate, hnew, hconn, hplan⟩ := h.allowed
  have hport := listenPort_of_production hstate
  have hplanned : ∀ a ∈ actions, a ∈ planned := fun a => mem_planned hplan
  have hunplanned : .SSH ∉ actions → new.sshPort = listenPort l.server := fun hssh =>
    (hport.trans (sshPort_of_unplanned hplan hssh)).symm
  have hnginx : listenPort l.server ≠ Constants.nginxPort := by
    rw [hport]
    exact hsound.sshPort
  obtain ⟨tasks, hshaped, hkeeps⟩ := rebase_shaped hmade.prepared hplanned hunplanned hnginx
    (hsound.provisioned hstate)
  have hsetup : .FullSetup ∉ actions := fun hsetup => absurd (hplanned _ hsetup) (by decide)
  have hdestroy : ¬ Done .DestroyServer 10 done := by
    rintro ⟨t, ht, hfile, _⟩
    have hmem := h.done.subset ht
    rw [playbook, hmade.prepared.tasks] at hmem
    obtain ⟨a, ha, hmem⟩ := List.mem_flatMap.mp hmem
    have hmem' := hplanned a (mem_sortUnique.mp ha)
    rw [file_of_mem_taskFile hmem' t hmem] at hfile
    rw [hfile] at hmem'
    exact absurd hmem' (by decide)
  have hopened : Opened l ⟨.rebase new data actions, vars, done, recorded⟩ ↔
      (Done .Firewall 4 done → ¬ Done .SSH 4 done →
        listenPort l.server ∈ l.machine.sshSet) := by
    simp [Opened, Job.run, hsetup]
  cases recorded with
  | false =>
      have hvisit : l.visit ⟨.rebase new data actions, vars, done, false⟩ =
          { l with machine := m' } := hmade.visit
      have hunmoved : Unmoved l ⟨.rebase new data actions, vars, done, false⟩ ↔
          (Done .SSH 10 done → listenPort l.server = new.sshPort) := by
        simp [Unmoved, Job.run, hdestroy]
      constructor
      · rw [hvisit, hunmoved, hopened]
        exact hshaped.reaches_iff hmade.prepared hmade.stored hreachable.1 h.done hmade.attempt
      · rw [hvisit, hunmoved, hopened]
        intro hmoved hloaded
        refine ⟨hsound.conn, hsound.sshPort, fun _ => ?_⟩
        exact hshaped.keeps hkeeps hmade.prepared hmade.stored h.done hmade.attempt hmoved hloaded
  | true =>
      obtain ⟨conn, hnewConn, _⟩ := Option.bind_eq_some_iff.mp (hconn.trans hsound.conn)
      have hvisit : l.visit ⟨.rebase new data actions, vars, done, true⟩ =
          { server := { new with ansibleConn := some (updatedConn new conn) }
            machine := m' } := by
        rw [hmade.visit]
        simp [Job.recorded, hnewConn]
      have hend : done = playbook vars := h.recorded rfl
      have hattempt := hmade.attempt
      have hunmoved : Unmoved l ⟨.rebase new data actions, vars, done, true⟩ := by
        simp [Unmoved]
      have hlisten : listenPort { new with ansibleConn := some (updatedConn new conn) } =
          new.sshPort := listenPort_of_production hnew
      constructor
      · rw [hvisit, hopened, and_iff_right hunmoved, Reachable, hlisten, hend]
        rw [hend] at hattempt
        exact hshaped.completes hmade.prepared hmade.stored hreachable.1 hattempt
      · rw [hvisit, hopened]
        intro _ hloaded
        refine ⟨?_, h.sshPort, fun _ => ?_⟩
        · rw [hlisten]
          rfl
        · rw [hlisten]
          rw [hend] at hattempt hloaded
          exact hshaped.completes_keeps hkeeps hmade.prepared hattempt hloaded

theorem settled_fullSetup {xuiToken : String} {vars : AnsibleVars} {done : List Task}
    {recorded : Bool} (hsound : Sound l) (hreachable : Reachable l)
    (h : Visit.Possible F l ⟨.fullSetup xuiToken, vars, done, recorded⟩) :
    Settled l ⟨.fullSetup xuiToken, vars, done, recorded⟩ := by
  obtain ⟨source, m', hmade⟩ := exists_made hsound hreachable h
  obtain ⟨hstate, htoken⟩ := h.allowed
  have hport := listenPort_of_offgrid hstate
  have hshaped := fullSetup_shaped hmade.prepared hreachable.2
  have hopened : Opened l ⟨.fullSetup xuiToken, vars, done, recorded⟩ ↔
      (Done .Firewall 4 done → ¬ Done .SSH 4 done → listenPort l.server ∈ l.machine.sshSet ∨
        OpenedOtherwise ⟨l.server, [.FullSetup], none⟩ vars (listenPort l.server)) := by
    simp [Opened, Job.run]
  cases recorded with
  | false =>
      have hvisit : l.visit ⟨.fullSetup xuiToken, vars, done, false⟩ =
          { l with machine := m' } := hmade.visit
      have hunmoved : Unmoved l ⟨.fullSetup xuiToken, vars, done, false⟩ ↔
          (Done .SSH 10 done → listenPort l.server = l.server.sshPort) := by
        simp [Unmoved, Job.run, hport]
      constructor
      · rw [hvisit, hunmoved, hopened]
        exact hshaped.reaches_iff hmade.prepared hmade.stored hreachable.1 h.done hmade.attempt
      · rw [hvisit]
        intro _ _
        refine ⟨hsound.conn, hsound.sshPort, ?_⟩
        intro hproduction
        rw [hstate] at hproduction
        cases hproduction
  | true =>
      obtain ⟨conn, hconn, _⟩ := Option.bind_eq_some_iff.mp hsound.conn
      have hvisit : l.visit ⟨.fullSetup xuiToken, vars, done, true⟩ =
          { server := (produced xuiToken l.server).1
            machine := m' } := hmade.visit
      have hproduced : (produced xuiToken l.server).1 = { l.server with
          state := .Production
          secrets := { l.server.secrets with xuiToken := some xuiToken }
          ansibleConn := some (connAt l.server.sshPort conn) } := by
        simp [produced, htoken, hconn]
      have hend : done = playbook vars := h.recorded rfl
      have hattempt := hmade.attempt
      have hplaybook := fullSetup_playbook hmade.prepared
      rw [hend, hplaybook] at hattempt
      obtain ⟨n, _, hattempt⟩ := attempt_append_eq_some_iff.mp hattempt
      obtain ⟨hsshd, hset⟩ := sshSetup_ends hmade.prepared hattempt
      have hset' : l.server.sshPort ∈ m'.sshSet := by
        rw [hset]
        exact List.mem_singleton_self _
      have h4 : Done .SSH 4 done := by simp [hend, hplaybook, sshSetup]
      constructor
      · rw [hvisit, hproduced, hopened]
        have hreaches : m'.Reaches l.server.sshPort := by
          apply Machine.reaches_of_mem _ hset'
          rw [hsshd]
          exact List.mem_singleton_self _
        simpa [Unmoved, h4, Reachable, listenPort] using hreaches
      · rw [hvisit, hproduced]
        intro _ _
        exact ⟨rfl, hsound.sshPort, fun _ => .inl hset'⟩

theorem settled_visit (hsound : Sound l) (hreachable : Reachable l) (h : v.Possible F l) :
    Settled l v := by
  obtain ⟨job, vars, done, recorded⟩ := v
  cases job with
  | fullSetup xuiToken => exact settled_fullSetup hsound hreachable h
  | rebase new data actions => exact settled_rebase hsound hreachable h
  | fix action => exact settled_fix hsound hreachable h
  | destroyServer => exact settled_destroyServer hsound hreachable h

end Visits

section Lives

variable {F : Forms} {l : Life} {e : Event}

theorem step_reachable_iff (hsound : Sound l) (hreachable : Reachable l)
    (h : Possible F l e) : Reachable (step l e) ↔ Spared l e := by
  cases e with
  | declared new =>
      obtain ⟨hstate, hnew, _, _⟩ := h
      have hlisten : listenPort new = listenPort l.server := by
        rw [listenPort_of_offgrid hstate, listenPort_of_offgrid hnew]
      simpa [Spared, step, Reachable, hlisten] using hreachable
  | visited v => exact (settled_visit hsound hreachable h).reachable

theorem step_sound (hsound : Sound l) (hreachable : Reachable l) (h : Possible F l e)
    (hspared : Spared l e) : Sound (step l e) := by
  cases e with
  | declared new =>
      obtain ⟨_, hnew, hconn, hport⟩ := h
      refine ⟨?_, hport, ?_⟩
      · show connPort new = some (listenPort new)
        rw [hconn, listenPort_of_offgrid hnew]
      · intro hproduction
        have hne : new.state = .Production := hproduction
        rw [hnew] at hne
        cases hne
  | visited v => exact (settled_visit hsound hreachable h).sound hspared.1 hspared.2

/-- The server can be reached after every event of its life exactly when each of them
spares the port on which it is looked for. -/
theorem reachable_iff_spared {events : List Event} (hsound : Sound l) (hreachable : Reachable l)
    (h : Along step (Possible F) l events) :
    Along step (fun l e => Reachable (step l e)) l events ↔ Along step Spared l events := by
  have hkeep : ∀ l e, Sound l ∧ Reachable l → Possible F l e → Spared l e →
      Sound (step l e) ∧ Reachable (step l e) := by
    rintro l e ⟨hsound, hreachable⟩ hpossible hspared
    exact ⟨step_sound hsound hreachable hpossible hspared,
      (step_reachable_iff hsound hreachable hpossible).mpr hspared⟩
  have hiff : ∀ l e, Sound l ∧ Reachable l → Possible F l e →
      (Reachable (step l e) ↔ Spared l e) :=
    fun l e hinv => step_reachable_iff hinv.1 hinv.2
  exact along_iff_of_inv hkeep hiff ⟨hsound, hreachable⟩ h

end Lives

section Instances

def alphaLife : Life where
  server := Specimen.alpha
  machine := provisioned 79

/-- A destruction that stops once the rules are gone. -/
def brokenOff : Visit where
  job := .destroyServer
  vars :=
    { ansibleTasks := [.DestroyServer]
      fullSetup := false
      ansiblePort := some 79
      sshPort := 79
      cloudflareProxied := false
      cloudflareOnly := false
      newPorts := []
      nftops := [] }
  done := destroyServer.take 2
  recorded := false

def proxyVars : AnsibleVars where
  ansibleTasks := [.Cloudflare, .Nginx, .Fail2ban, .Firewall]
  fullSetup := false
  ansiblePort := some 79
  sshPort := 79
  cloudflareProxied := false
  cloudflareOnly := false
  newPorts := []
  nftops := []

/-- A Rebase that loads the final rules. -/
def proxyRebase : Visit where
  job := .rebase { Specimen.alpha with cloudflareProxied := true } none
    [.Cloudflare, .Nginx, .Fail2ban, .Firewall]
  vars := proxyVars
  done := playbook proxyVars
  recorded := true

theorem alphaLife_sound : Sound alphaLife where
  conn := rfl
  sshPort := by decide
  provisioned _ := .inl (by decide)

theorem brokenOff_possible : brokenOff.Possible Specimen.forms alphaLife where
  allowed := rfl
  vars := ⟨ranges, rfl⟩
  sshPort := by decide
  done := List.take_prefix 2 destroyServer
  succeeds := rfl
  recorded h := by cases h

theorem proxyRebase_possible :
    proxyRebase.Possible Specimen.forms (alphaLife.visit brokenOff) where
  allowed := ⟨rfl, rfl, rfl, by decide⟩
  vars := ⟨ranges, rfl⟩
  sshPort := by decide
  done := List.prefix_refl _
  succeeds := rfl
  recorded _ := rfl

/-- A destruction that was broken off leaves a server without the set for SSH: a Rebase
that ends well then locks the controller out. -/
theorem reachable_iff_spared_alpha :
    Reachable alphaLife ∧ ¬ Along step (fun l e => Reachable (step l e)) alphaLife
      [.visited brokenOff, .visited proxyRebase] := by
  have hreachable : Reachable alphaLife := ⟨by decide, by decide⟩
  have hpossible : Along step (Possible Specimen.forms) alphaLife
      [.visited brokenOff, .visited proxyRebase] :=
    ⟨brokenOff_possible, proxyRebase_possible, trivial⟩
  refine ⟨hreachable, ?_⟩
  rw [reachable_iff_spared alphaLife_sound hreachable hpossible]
  rintro ⟨_, ⟨_, hopened⟩, _⟩
  rcases hopened (by decide) (by decide) with hset | ⟨hsetup, _⟩
  · exact absurd hset (by decide)
  · exact absurd hsetup (by decide)

end Instances

end Xcplane.ServerLife
