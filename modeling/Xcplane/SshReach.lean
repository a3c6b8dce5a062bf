import Xcplane.SshSetup
import Xcplane.Specimen

/-!
Whether the port that the controller connects to stays open while a run sets up a
server or applies a Rebase, wherever the run stops.
-/

namespace Xcplane.SshReach

open Xcplane.Types
open Xcplane.Lib
open Xcplane.Deploy
open Xcplane.RebasePlan
open Xcplane.PlaybookVars
open Xcplane.Playbook
open Xcplane.SshSetup

section Property

/-- The runs of a full setup and those that a Rebase starts. -/
inductive Issued (F : Forms) : AnsibleRun → Prop
  | fullSetup (server : KetServer) : Issued F ⟨server, [.FullSetup], none⟩
  | rebase {data : List (String × RebaseDiff.RebaseData)} {pairs : List (KetServer × KetServer)}
      {run : AnsibleRun} (h : run ∈ (startRuns F data pairs).1) : Issued F run

/-- Before the run the stored port is open. A Rebase is for servers that were
provisioned before, which have the port in the set for SSH. -/
structure Ready (run : AnsibleRun) (m : Machine) (port : UInt16) : Prop where
  stored : run.server.ansibleConn.bind AnsibleConn.ansiblePort = some port
  reaches : m.Reaches port
  provisioned : .FullSetup ∉ run.actions → port ∈ m.sshSet

/-- The final rules accept the port for another reason than SSH. -/
def OpenedOtherwise (run : AnsibleRun) (vars : AnsibleVars) (port : UInt16) : Prop :=
  throughCloudflare vars = false ∧
    (port = Constants.nginxPort ∨ port ∈ inboundPorts run.server)

/-- The socket was not moved to another port, and the final rules were not loaded
without the port before the set for SSH got it. -/
def KeptOpen (run : AnsibleRun) (vars : AnsibleVars) (m : Machine) (port : UInt16)
    (done : List Task) : Prop :=
  (Done .SSH 10 done → port = run.server.sshPort) ∧
    (Done .Firewall 4 done → ¬ Done .SSH 4 done →
      port ∈ m.sshSet ∨ OpenedOtherwise run vars port)

/-- The condition on a run that none of its own tasks stops. -/
def StaysOpen (run : AnsibleRun) (vars : AnsibleVars) (m : Machine) (port : UInt16) : Prop :=
  (.SSH ∈ run.actions ∨ .FullSetup ∈ run.actions → port = run.server.sshPort) ∧
    (.FullSetup ∈ run.actions → port ∈ m.sshSet ∨ OpenedOtherwise run vars port)

instance (run : AnsibleRun) (vars : AnsibleVars) (port : UInt16) :
    Decidable (OpenedOtherwise run vars port) :=
  inferInstanceAs (Decidable (_ ∧ _))

instance (run : AnsibleRun) (vars : AnsibleVars) (m : Machine) (port : UInt16)
    (done : List Task) : Decidable (KeptOpen run vars m port done) :=
  inferInstanceAs (Decidable ((_ → _) ∧ (_ → _ → _)))

end Property

section Assembly

variable {source : RangeSource} {run : AnsibleRun} {vars : AnsibleVars} {port : UInt16}
  {m m' : Machine} {done tasks : List Task}

/-- Wherever the tasks stop, the firewall accepts the port unless the final rules were
loaded without it. -/
def Accounted (run : AnsibleRun) (vars : AnsibleVars) (m : Machine) (port : UInt16)
    (tasks : List Task) : Prop :=
  ∀ done m', done <+: tasks → attempt step m done = some m' →
    (m'.accepts port ↔
      (Done .Firewall 4 done → port ∈ m.sshSet ∨ OpenedOtherwise run vars port))

theorem reaches_iff_keptOpen (hprepared : Prepared source run vars)
    (hstored : vars.ansiblePort = some port) (hsshd : port ∈ m.sshd)
    (hbefore : BeforeSsh tasks) (haccounted : Accounted run vars m port tasks)
    (hdone : done <+: tasks ++ sshSetup vars) (h : attempt step m done = some m') :
    m'.Reaches port ↔ KeptOpen run vars m port done := by
  have hcalm : ∀ t ∈ tasks, Calm t.work := fun t ht => (hbefore t ht).1
  rcases prefix_append_iff.mp hdone with hdone | ⟨rest, hrest, rfl⟩
  · have h4 : ¬ Done .SSH 4 done := not_done_of_beforeSsh hbefore hdone
    have h10 : ¬ Done .SSH 10 done := not_done_of_beforeSsh hbefore hdone
    obtain ⟨hsshd', _⟩ := attempt_calm hcalm hdone h
    rw [Machine.Reaches, haccounted done m' hdone h, KeptOpen, hsshd']
    simp [h4, h10, hsshd]
  · obtain ⟨n, hn, h⟩ := attempt_append_eq_some_iff.mp h
    have h4 : ¬ Done .SSH 4 tasks := not_done_of_beforeSsh hbefore (List.prefix_refl _)
    have h10 : ¬ Done .SSH 10 tasks := not_done_of_beforeSsh hbefore (List.prefix_refl _)
    have hfirewall : ¬ Done .Firewall 4 rest := by
      intro hfirewall
      cases done_of_prefix_sshSetup hrest hfirewall
    obtain ⟨hsshd', _⟩ := attempt_calm hcalm (List.prefix_refl _) hn
    have haccepts := haccounted tasks n (List.prefix_refl _) hn
    rw [sshSetup_reaches hprepared hstored (by rwa [hsshd']) hrest h, haccepts, KeptOpen,
      hprepared.sshPort]
    simp only [done_append, h4, h10, hfirewall, false_or, or_false]
    constructor
    · rintro ⟨hport, hkept⟩
      exact ⟨hport, fun hloaded hclosed => hkept hclosed hloaded⟩
    · rintro ⟨hport, hkept⟩
      exact ⟨hport, fun hclosed hloaded => hkept hloaded hclosed⟩

/-- A port that is in the set for SSH stays accepted. -/
theorem accounted_of_mem (hbefore : BeforeSsh tasks) (hset : port ∈ m.sshSet) :
    Accounted run vars m port tasks := by
  intro done m' hdone h
  have hcalm : ∀ t ∈ tasks, Calm t.work := fun t ht => (hbefore t ht).1
  obtain ⟨_, hset'⟩ := attempt_calm hcalm hdone h
  constructor
  · intro _ _
    exact .inl hset
  · intro _
    rw [← hset'] at hset
    exact Machine.accepts_of_mem hset

end Assembly

section Rebase

variable {F : Forms} {source : RangeSource} {run : AnsibleRun} {vars : AnsibleVars}

/-- A Rebase neither sets a server up nor destroys one. -/
theorem started_regular {data : List (String × RebaseDiff.RebaseData)}
    {pairs : List (KetServer × KetServer)} (h : run ∈ (startRuns F data pairs).1)
    {a : AnsibleAction} (ha : a ∈ run.actions) : a ≠ .FullSetup ∧ a ≠ .DestroyServer := by
  obtain ⟨⟨old, new⟩, _, hplan, _⟩ := mem_startRuns_iff.mp h
  have hplanned := mem_planned hplan ha
  constructor
  · rintro rfl
    exact absurd hplanned (by decide)
  · rintro rfl
    exact absurd hplanned (by decide)

/-- The SSH action is the last one of a plan that has it. -/
theorem sorted_split {actions : List AnsibleAction}
    (hsorted : actions.Pairwise fun a b => a.id ≤ b.id ∧ a ≠ b)
    (hdestroy : .DestroyServer ∉ actions) :
    ∃ before, .SSH ∉ before ∧ before ⊆ actions ∧
      (actions = before ∨ actions = before ++ [.SSH]) := by
  by_cases hssh : .SSH ∈ actions
  · obtain ⟨before, after, rfl⟩ := List.append_of_mem hssh
    obtain ⟨_, hafter, hcross⟩ := List.pairwise_append.mp hsorted
    have hnil : after = [] := by
      rw [List.eq_nil_iff_forall_not_mem]
      intro a ha
      obtain ⟨hid, hne⟩ := List.rel_of_pairwise_cons hafter ha
      cases a with
      | SSH => exact hne rfl
      | DestroyServer =>
          exact hdestroy (List.mem_append_right before (List.mem_cons_of_mem .SSH ha))
      | _ => exact absurd hid (by decide)
    rw [hnil]
    refine ⟨before, ?_, List.subset_append_left before [.SSH], .inr rfl⟩
    intro hmem
    exact (hcross .SSH hmem .SSH List.mem_cons_self).2 rfl
  · exact ⟨actions, hssh, List.Subset.refl actions, .inl rfl⟩

theorem beforeSsh_flatMap (hprepared : Prepared source run vars) {actions : List AnsibleAction}
    (h : ∀ a ∈ actions, a ≠ .SSH ∧ a ≠ .FullSetup ∧ a ≠ .DestroyServer) :
    BeforeSsh (actions.flatMap (taskFile vars)) := by
  intro t ht
  obtain ⟨a, ha, ht⟩ := List.mem_flatMap.mp ht
  obtain ⟨hssh, hsetup, hdestroy⟩ := h a ha
  exact beforeSsh_taskFile hprepared hssh hsetup hdestroy t ht

/-- The playbook of a Rebase is calm tasks, with the SSH file after them or without it. -/
theorem rebase_playbook {data : List (String × RebaseDiff.RebaseData)}
    {pairs : List (KetServer × KetServer)} (h : run ∈ (startRuns F data pairs).1)
    (hprepared : Prepared source run vars) :
    ∃ tasks, BeforeSsh tasks ∧ playbook vars <+: tasks ++ sshSetup vars := by
  have hplanned : ∀ a ∈ sortUnique run.actions, a ≠ .FullSetup ∧ a ≠ .DestroyServer :=
    fun a ha => started_regular h (mem_sortUnique.mp ha)
  obtain ⟨before, hssh, hsubset, hsplit⟩ := sorted_split (sortUnique_pairwise run.actions)
    fun hdestroy => (hplanned .DestroyServer hdestroy).2 rfl
  refine ⟨before.flatMap (taskFile vars), ?_, ?_⟩
  · apply beforeSsh_flatMap hprepared
    intro a ha
    refine ⟨?_, hplanned a (hsubset ha)⟩
    rintro rfl
    exact hssh ha
  · rw [playbook, hprepared.tasks]
    rcases hsplit with hsplit | hsplit
    · rw [hsplit]
      exact List.prefix_append _ _
    · rw [hsplit, List.flatMap_append, List.flatMap_singleton]
      exact List.prefix_refl _

end Rebase

section FullSetup

variable {source : RangeSource} {run : AnsibleRun} {vars : AnsibleVars} {port : UInt16}
  {m m' : Machine} {done : List Task}

/-- The tasks of a full setup up to the one that flushes the rules, those that run while
everything is accepted, and those between the last inbound and the final rules. -/
def setupStart (vars : AnsibleVars) : List Task :=
  checkPorts vars ++ elsewhere .DnsReset ++ elsewhere .Basics ++ elsewhere .Cloudflare ++
    elsewhere .Acme ++ elsewhere .Nginx ++ elsewhere .DoH ++ (firewallBootstrap vars).take 4

def setupOpen (vars : AnsibleVars) : List Task :=
  ⟨.FirewallBootstrap, 7, .reloadNftables⟩ :: outblockedUpdate vars ++ elsewhere .FullSetup ++
    elsewhere .XuiAuth ++ elsewhere .PanelSettings ++ (addInbound vars).take 2

def setupEnd (vars : AnsibleVars) : List Task :=
  elsewhere .Bootstrap ++ elsewhere .Fail2ban ++ (firewall vars).take 3

def beforeSshSetup (vars : AnsibleVars) : List Task :=
  setupStart vars ++ ⟨.FirewallBootstrap, 5, .deployConf ⟨.accept, throughCloudflare vars⟩⟩ ::
    ([] ++ ⟨.FirewallBootstrap, 6, .flushRules⟩ :: (setupOpen vars ++
      ⟨.AddInbound, 3, nftOp vars .Inbound⟩ :: (setupEnd vars ++
        ⟨.Firewall, 4, .reloadNftables⟩ :: [])))

theorem beforeSshSetup_eq : beforeSshSetup vars = baseSetup vars ++ elsewhere .FullSetup ++
    elsewhere .XuiAuth ++ elsewhere .PanelSettings ++ addInbound vars ++ elsewhere .Bootstrap ++
    elsewhere .Fail2ban ++ firewall vars := by
  simp [beforeSshSetup, setupStart, setupOpen, setupEnd, baseSetup, firewallBootstrap, addInbound,
    firewall]

theorem fullSetup_eq : fullSetup vars = beforeSshSetup vars ++ sshSetup vars := by
  rw [beforeSshSetup_eq, fullSetup]

theorem beforeSsh_beforeSshSetup (hprepared : Prepared source run vars) :
    BeforeSsh (beforeSshSetup vars) := by
  have helsewhere : ∀ file, file ≠ .SSH → BeforeSsh (elsewhere file) :=
    fun file => beforeSsh_elsewhere
  rw [beforeSshSetup_eq]
  simp [beforeSsh_append, helsewhere, beforeSsh_baseSetup hprepared,
    beforeSsh_addInbound hprepared, beforeSsh_firewall]

/-- The input chain drops nothing. -/
def Unfiltered (m : Machine) : Prop :=
  ∀ t ∈ m.table, t.policy = .accept

/-- The next load does not make the input chain drop. -/
def LoadsOpen (m : Machine) : Prop :=
  ∀ conf ∈ m.nftConf, conf.policy = .accept

theorem Unfiltered.accepts (h : Unfiltered m) : m.accepts port :=
  fun t ht => .inl (h t ht)

theorem attempt_setupStart_done (hdone : done <+: setupStart vars)
    (h : attempt step m done = some m') : m'.table = m.table := by
  have hworks : ∀ t ∈ setupStart vars,
      t.work = .elsewhere ∨ t.work = .checkPorts vars.newPorts := by
    simp [setupStart, checkPorts, elsewhere, firewallBootstrap]
  apply attempt_preserves (fun n => n.table = m.table) _ rfl hdone h
  intro t ht n n' hn hstep
  rw [step] at hstep
  rcases hworks t ht with hwork | hwork
  · rw [hwork] at hstep
    cases hstep
    exact hn
  · rw [hwork, Work.perform, Option.ite_none_right_eq_some] at hstep
    cases hstep.2
    exact hn

theorem perform_applyOp_unfiltered {op : Option NftOp} (hopen : Unfiltered m)
    (h : (Work.applyOp op).perform m = some m') : Unfiltered m' ∧ m'.nftConf = m.nftConf := by
  cases op with
  | none => cases h
  | some op =>
      simp only [Work.perform, Option.ite_none_left_eq_some] at h
      obtain ⟨t, ht, rfl⟩ := Option.map_eq_some_iff.mp h.2
      refine ⟨?_, rfl⟩
      rintro t' ⟨⟩
      rw [Table.update_policy]
      exact hopen t ht

theorem perform_reload_unfiltered (hloads : LoadsOpen m)
    (h : Work.reloadNftables.perform m = some m') : Unfiltered m' ∧ m'.nftConf = m.nftConf := by
  obtain ⟨conf, hconf, rfl⟩ := Option.map_eq_some_iff.mp h
  refine ⟨?_, rfl⟩
  rintro t ⟨⟩
  exact hloads conf hconf

theorem unfiltered_flush : Unfiltered { m with table := m.table.map Table.flush } := by
  intro t ht
  obtain ⟨t', _, rfl⟩ := Option.map_eq_some_iff.mp ht
  rfl

theorem attempt_setupOpen_done (hopen : Unfiltered m) (hloads : LoadsOpen m)
    (hdone : done <+: setupOpen vars) (h : attempt step m done = some m') :
    Unfiltered m' ∧ LoadsOpen m' := by
  have hworks : ∀ t ∈ setupOpen vars,
      t.work = .elsewhere ∨ t.work = .reloadNftables ∨ ∃ op, t.work = .applyOp op := by
    simp [setupOpen, outblockedUpdate, nftOp, elsewhere, addInbound]
  apply attempt_preserves (fun n => Unfiltered n ∧ LoadsOpen n) _ ⟨hopen, hloads⟩ hdone h
  rintro t ht n n' ⟨hn, hn'⟩ hstep
  rw [step] at hstep
  rcases hworks t ht with hwork | hwork | ⟨op, hwork⟩
  · rw [hwork] at hstep
    cases hstep
    exact ⟨hn, hn'⟩
  · rw [hwork] at hstep
    obtain ⟨hopen', hconf⟩ := perform_reload_unfiltered hn' hstep
    rw [LoadsOpen, hconf]
    exact ⟨hopen', hn'⟩
  · rw [hwork] at hstep
    obtain ⟨hopen', hconf⟩ := perform_applyOp_unfiltered hn hstep
    rw [LoadsOpen, hconf]
    exact ⟨hopen', hn'⟩

theorem attempt_setupEnd_done (hopen : Unfiltered m) (hdone : done <+: setupEnd vars)
    (h : attempt step m done = some m') : Unfiltered m' := by
  have hworks : ∀ t ∈ setupEnd vars,
      t.work = .elsewhere ∨ t.work = .flushRules ∨ ∃ conf, t.work = .deployConf conf := by
    simp [setupEnd, elsewhere, firewall]
  apply attempt_preserves Unfiltered _ hopen hdone h
  intro t ht n n' hn hstep
  rw [step] at hstep
  rcases hworks t ht with hwork | hwork | ⟨conf, hwork⟩
  · rw [hwork] at hstep
    cases hstep
    exact hn
  · rw [hwork] at hstep
    cases hstep
    exact unfiltered_flush
  · rw [hwork] at hstep
    cases hstep
    exact hn

/-- The table once the final rules are loaded. -/
theorem attempt_setupEnd {t : Table} (htable : m.table = some t)
    (h : attempt step m (setupEnd vars ++ [⟨.Firewall, 4, .reloadNftables⟩]) = some m') :
    m'.table = some (t.flush.load ⟨.drop, throughCloudflare vars⟩) := by
  simp only [setupEnd, elsewhere, firewall, List.take, List.cons_append, List.nil_append, attempt,
    step, Work.perform, Option.bind_some, htable, Option.map_some, Option.getD_some,
    Option.some.injEq] at h
  cases h
  rfl

theorem not_done_setupOpen : ¬ Done .Firewall 4 (setupOpen vars) := by
  simp [setupOpen, outblockedUpdate, elsewhere, addInbound]

theorem not_done_setupEnd : ¬ Done .Firewall 4 (setupEnd vars) := by
  simp [setupEnd, elsewhere, firewall]

/-- From an input chain that drops nothing, the final rules are the first to drop. -/
theorem accepts_setupRest (hprepared : Prepared source run vars) (hopen : Unfiltered m)
    (hloads : LoadsOpen m) (hdone : done <+: setupOpen vars ++
      ⟨.AddInbound, 3, nftOp vars .Inbound⟩ :: (setupEnd vars ++
        ⟨.Firewall, 4, .reloadNftables⟩ :: []))
    (h : attempt step m done = some m') :
    m'.accepts port ↔
      (Done .Firewall 4 done → port ∈ m'.sshSet ∨ OpenedOtherwise run vars port) := by
  rcases prefix_append_cons hdone with hdone | ⟨rest, hrest, rfl⟩
  · have hnot := not_done_of_prefix hdone not_done_setupOpen
    have hunfiltered := (attempt_setupOpen_done hopen hloads hdone h).1
    simpa [hnot] using hunfiltered.accepts
  · obtain ⟨n, hn, h⟩ := attempt_append_eq_some_iff.mp h
    obtain ⟨n', hn', h⟩ := attempt_cons_eq_some_iff.mp h
    have hunfiltered := (attempt_setupOpen_done hopen hloads (List.prefix_refl _) hn).1
    have hunfiltered' := (perform_applyOp_unfiltered hunfiltered hn').1
    obtain ⟨t, _, rfl⟩ := perform_inbound hprepared hn'
    rcases prefix_append_cons hrest with hrest | ⟨rest', hrest', rfl⟩
    · have hnot := not_done_of_prefix hrest not_done_setupEnd
      have hunfiltered'' := attempt_setupEnd_done hunfiltered' hrest h
      simpa [not_done_setupOpen, hnot] using hunfiltered''.accepts
    · cases List.prefix_nil.mp hrest'
      have htable := attempt_setupEnd rfl h
      rw [Machine.accepts_of_table htable, Machine.sshSet_of_table htable,
        Table.accepts_load_flush_iff]
      simp [OpenedOtherwise]
      rfl

theorem accounted_beforeSshSetup (hprepared : Prepared source run vars)
    (haccepts : m.accepts port) : Accounted run vars m port (beforeSshSetup vars) := by
  intro done m' hdone h
  have hstart : ¬ Done .Firewall 4 (setupStart vars) := by
    simp [setupStart, checkPorts, elsewhere, firewallBootstrap]
  have hset : m'.sshSet = m.sshSet :=
    (attempt_calm (fun t ht => (beforeSsh_beforeSshSetup hprepared t ht).1) hdone h).2
  rcases prefix_append_cons hdone with hdone | ⟨rest, hrest, rfl⟩
  · have hnot := not_done_of_prefix hdone hstart
    have htable := attempt_setupStart_done hdone h
    simpa [hnot, Machine.accepts, htable] using haccepts
  · obtain ⟨m₁, hm₁, h⟩ := attempt_append_eq_some_iff.mp h
    obtain ⟨m₂, hm₂, h⟩ := attempt_cons_eq_some_iff.mp h
    have htable₁ := attempt_setupStart_done (List.prefix_refl _) hm₁
    have hloads₂ : LoadsOpen m₂ := by
      cases hm₂
      rintro conf ⟨⟩
      rfl
    rcases prefix_append_cons hrest with hnil | ⟨rest', hrest', rfl⟩
    · cases List.prefix_nil.mp hnil
      cases h
      cases hm₂
      simpa [hstart, Machine.accepts, htable₁] using haccepts
    · obtain ⟨m₃, hm₃, h⟩ := attempt_cons_eq_some_iff.mp h
      have hunfiltered₃ : Unfiltered m₃ := by
        cases hm₃
        exact unfiltered_flush
      have hloads₃ : LoadsOpen m₃ := by
        cases hm₃
        exact hloads₂
      rw [accepts_setupRest hprepared hunfiltered₃ hloads₃ hrest' h, hset]
      simp [hstart]

end FullSetup

section Runs

variable {F : Forms} {source : RangeSource} {run : AnsibleRun} {vars : AnsibleVars}
  {port : UInt16} {m m' : Machine} {done : List Task}

theorem fullSetup_playbook {server : KetServer}
    (hprepared : Prepared source ⟨server, [.FullSetup], none⟩ vars) :
    playbook vars = beforeSshSetup vars ++ sshSetup vars := by
  rw [playbook, hprepared.tasks]
  have hsorted : sortUnique [.FullSetup] = [.FullSetup] := rfl
  rw [hsorted, List.flatMap_singleton]
  exact fullSetup_eq

theorem issued_accounted (hissued : Issued F run) (hprepared : Prepared source run vars)
    (hready : Ready run m port) :
    ∃ tasks, BeforeSsh tasks ∧ Accounted run vars m port tasks ∧
      playbook vars <+: tasks ++ sshSetup vars := by
  cases hissued with
  | fullSetup server =>
      refine ⟨beforeSshSetup vars, beforeSsh_beforeSshSetup hprepared,
        accounted_beforeSshSetup hprepared hready.reaches.2, ?_⟩
      have heq := fullSetup_playbook hprepared
      exact heq ▸ List.prefix_refl _
  | rebase h =>
      have hset : port ∈ m.sshSet := by
        apply hready.provisioned
        intro hsetup
        exact (started_regular h hsetup).1 rfl
      obtain ⟨tasks, hbefore, hprefix⟩ := rebase_playbook h hprepared
      exact ⟨tasks, hbefore, accounted_of_mem hbefore hset, hprefix⟩

theorem Ready.ansiblePort (hready : Ready run m port) (hprepared : Prepared source run vars) :
    vars.ansiblePort = some port :=
  hprepared.port.symm.trans hready.stored

/-- Wherever the run stops, the stored port is open exactly when the socket was not
moved away from it and the final rules were not loaded without it. -/
theorem stopped_reaches_iff (hissued : Issued F run)
    (hvars : writeAnsibleVars source run = .ok vars)
    (hready : Ready run m port) (hdone : done <+: playbook vars)
    (h : attempt step m done = some m') :
    m'.Reaches port ↔ KeptOpen run vars m port done := by
  have hprepared := writeAnsibleVars_prepared hvars
  obtain ⟨tasks, hbefore, haccounted, hprefix⟩ := issued_accounted hissued hprepared hready
  exact reaches_iff_keptOpen hprepared (hready.ansiblePort hprepared) hready.reaches.1 hbefore
    haccounted (hdone.trans hprefix) h

/-- Only a full setup and the SSH action have the SSH file. -/
theorem ssh_done_iff (hissued : Issued F run) (hprepared : Prepared source run vars)
    {number : Nat} :
    Done .SSH number (playbook vars) ↔
      (.SSH ∈ run.actions ∨ .FullSetup ∈ run.actions) ∧ Done .SSH number (sshSetup vars) := by
  cases hissued with
  | fullSetup server =>
      have hbefore : ¬ Done .SSH number (beforeSshSetup vars) :=
        not_done_of_beforeSsh (beforeSsh_beforeSshSetup hprepared) (List.prefix_refl _)
      rw [fullSetup_playbook hprepared]
      simp [hbefore]
  | rebase h =>
      have hsetup : .FullSetup ∉ run.actions := fun hsetup => (started_regular h hsetup).1 rfl
      constructor
      · rintro ⟨t, ht, hfile, hnumber⟩
        rw [playbook, hprepared.tasks] at ht
        obtain ⟨a, ha, ht⟩ := List.mem_flatMap.mp ht
        rw [mem_sortUnique] at ha
        by_cases hssh : a = .SSH
        · rw [hssh] at ha ht
          exact ⟨.inl ha, t, ht, hfile, hnumber⟩
        · obtain ⟨hfull, hdestroy⟩ := started_regular h ha
          exact absurd hfile (beforeSsh_taskFile hprepared hssh hfull hdestroy t ht).2
      · rintro ⟨hssh, t, ht, hfile, hnumber⟩
        refine ⟨t, ?_, hfile, hnumber⟩
        rw [playbook, hprepared.tasks]
        have hmem : .SSH ∈ sortUnique run.actions :=
          mem_sortUnique.mpr (hssh.resolve_right hsetup)
        exact List.mem_flatMap.mpr ⟨.SSH, hmem, ht⟩

theorem keptOpen_of_staysOpen (hissued : Issued F run) (hprepared : Prepared source run vars)
    (hready : Ready run m port) (hstays : StaysOpen run vars m port)
    (hdone : done <+: playbook vars) : KeptOpen run vars m port done := by
  obtain ⟨hport, hset⟩ := hstays
  constructor
  · rintro ⟨t, ht, hfile, hnumber⟩
    have hdone' : Done .SSH 10 (playbook vars) := ⟨t, hdone.subset ht, hfile, hnumber⟩
    exact hport ((ssh_done_iff hissued hprepared).mp hdone').1
  · intro _ _
    by_cases hsetup : .FullSetup ∈ run.actions
    · exact hset hsetup
    · exact .inl (hready.provisioned hsetup)

theorem staysOpen_of_keptOpen (hissued : Issued F run) (hprepared : Prepared source run vars)
    (hkept : ∀ done, done <+: playbook vars → KeptOpen run vars m port done) :
    StaysOpen run vars m port := by
  constructor
  · intro hactions
    apply (hkept (playbook vars) (List.prefix_refl _)).1
    refine (ssh_done_iff hissued hprepared).mpr ⟨hactions, ?_⟩
    simp [sshSetup]
  · intro hsetup
    cases hissued with
    | fullSetup server =>
        have hprefix : beforeSshSetup vars <+: playbook vars := by
          rw [fullSetup_playbook hprepared]
          exact List.prefix_append _ _
        apply (hkept (beforeSshSetup vars) hprefix).2
        · simp [beforeSshSetup]
        · exact not_done_of_beforeSsh (beforeSsh_beforeSshSetup hprepared) (List.prefix_refl _)
    | rebase h => exact absurd rfl (started_regular h hsetup).1

theorem run_reaches_iff (hissued : Issued F run) (hvars : writeAnsibleVars source run = .ok vars)
    (hready : Ready run m port) :
    (∀ done m', done <+: playbook vars → attempt step m done = some m' →
      (m'.Reaches port ↔ KeptOpen run vars m port done)) ∧
    ((attempt step m (playbook vars)).isSome →
      ((∀ done m', done <+: playbook vars → attempt step m done = some m' → m'.Reaches port) ↔
        StaysOpen run vars m port)) := by
  have hprepared := writeAnsibleVars_prepared hvars
  refine ⟨fun done m' => stopped_reaches_iff hissued hvars hready, ?_⟩
  intro hcompletes
  obtain ⟨last, hlast⟩ := Option.isSome_iff_exists.mp hcompletes
  constructor
  · intro hreaches
    apply staysOpen_of_keptOpen hissued hprepared
    intro done hdone
    obtain ⟨m', hm'⟩ := exists_attempt_of_prefix hdone hlast
    exact (stopped_reaches_iff hissued hvars hready hdone hm').mp (hreaches done m' hdone hm')
  · intro hstays done m' hdone h
    have hkept := keptOpen_of_staysOpen hissued hprepared hready hstays hdone
    exact (stopped_reaches_iff hissued hvars hready hdone h).mpr hkept

end Runs

section Instances

def ranges : RangeSource where
  cloudflare _ := .ok ["103.21.244.0/22"]
  blocked _ _ := .ok ["5.1.43.0-5.1.43.255"]

/-- A server that nothing was set up on. -/
def untouched (port : UInt16) : Machine where
  services := []
  sshd := [port]
  socketPorts := [port]
  nftConf := none
  table := none

/-- A server as a full setup leaves it. -/
def provisioned (port : UInt16) : Machine where
  services := [Constants.nginxPort, Constants.unboundPort, Constants.uiPort, Constants.subPort]
  sshd := [port]
  socketPorts := [port]
  nftConf := some ⟨.drop, false⟩
  table := some
    { Table.empty.load ⟨.drop, false⟩ with
      ssh := [port]
      inbound := [8080] }

def setupRun : AnsibleRun where
  server := { Specimen.beta with sshPort := 22 }
  actions := [.FullSetup]
  rebaseData := none

def setupVars : AnsibleVars where
  ansibleTasks := [.FullSetup]
  fullSetup := true
  ansiblePort := some 22
  sshPort := 22
  cloudflareProxied := false
  cloudflareOnly := false
  newPorts := [Constants.unboundPort, Constants.uiPort, Constants.subPort]
  nftops :=
    [(.Cloudflare4, .addresses .Cloudflare4 ["103.21.244.0/22"]),
     (.Cloudflare6, .addresses .Cloudflare6 ["103.21.244.0/22"]),
     (.OutBlocked4, .addresses .OutBlocked4 ["5.1.43.0-5.1.43.255"]),
     (.OutBlocked6, .addresses .OutBlocked6 ["5.1.43.0-5.1.43.255"]),
     (.Inbound, .inbound [8080]), (.SshPre, .ssh [22]), (.SshPost, .ssh [22])]

theorem setupVars_eq : writeAnsibleVars ranges setupRun = .ok setupVars := rfl

theorem setupRun_ready : Ready setupRun (untouched 22) 22 where
  stored := rfl
  reaches := by decide
  provisioned h := absurd List.mem_cons_self h

/-- A server that is set up for the first time is out of reach between the final rules
and the first operation on the set for SSH, even if its port does not change. -/
theorem run_reaches_iff_untouched :
    Issued Specimen.forms setupRun ∧ Ready setupRun (untouched 22) 22 ∧
      ¬ ∀ done m', done <+: playbook setupVars →
        attempt step (untouched 22) done = some m' → m'.Reaches 22 := by
  have hissued : Issued Specimen.forms setupRun := .fullSetup _
  refine ⟨hissued, setupRun_ready, ?_⟩
  rw [(run_reaches_iff hissued setupVars_eq setupRun_ready).2 (by decide)]
  rintro ⟨_, hset⟩
  exact absurd (hset List.mem_cons_self) (by decide)

def moveRun : AnsibleRun where
  server := { Specimen.alpha with sshPort := 2222 }
  actions := [.PortsCheck, .Fail2ban, .SSH]
  rebaseData := none

def moveVars : AnsibleVars where
  ansibleTasks := [.PortsCheck, .Fail2ban, .SSH]
  fullSetup := false
  ansiblePort := some 79
  sshPort := 2222
  cloudflareProxied := false
  cloudflareOnly := false
  newPorts := [2222]
  nftops := [(.SshPre, .ssh [79, 2222]), (.SshPost, .ssh [2222])]

theorem moveVars_eq : writeAnsibleVars ranges moveRun = .ok moveVars := rfl

/-- A Rebase that moves the SSH port is out of reach once the old port is closed: the
port of the connection is only updated after the run. -/
theorem run_moved_unreachable :
    ¬ ∀ (F : Forms) (source : RangeSource) (run : AnsibleRun) (vars : AnsibleVars)
      (m m' : Machine) (port : UInt16) (done : List Task), Issued F run →
      writeAnsibleVars source run = .ok vars → Ready run m port → done <+: playbook vars →
      attempt step m done = some m' → m'.Reaches port := by
  intro h
  have hstarted : moveRun ∈
      (startRuns Specimen.forms [] [(Specimen.alpha, moveRun.server)]).1 := by decide
  have hready : Ready moveRun (provisioned 79) 79 :=
    { stored := rfl
      reaches := by decide
      provisioned := by decide }
  have hdone : (playbook moveVars).take 12 <+: playbook moveVars := List.take_prefix 12 _
  have hclosed := h Specimen.forms ranges moveRun moveVars (provisioned 79) _ 79 _
    (.rebase hstarted) moveVars_eq hready hdone rfl
  exact absurd hclosed (by decide)

end Instances

end Xcplane.SshReach
