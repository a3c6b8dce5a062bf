import Xcplane.SshReach

/-!
What the runs of a server leave of the port that the daemon connects to, wherever they
stop, also on a machine that has lost its table.
-/

namespace Xcplane.RunStops

open Xcplane.Types
open Xcplane.Lib
open Xcplane.Deploy
open Xcplane.RebasePlan
open Xcplane.PlaybookVars
open Xcplane.Playbook
open Xcplane.SshSetup
open Xcplane.SshReach

section Stops

variable {source : RangeSource} {run : AnsibleRun} {vars : AnsibleVars} {port : UInt16}
  {m m' : Machine} {done tasks : List Task} {Q : Prop}

/-- Wherever the tasks stop, the firewall accepts the port, unless the final rules were
loaded and a condition does not hold. -/
def Accounts (m : Machine) (port : UInt16) (Q : Prop) (tasks : List Task) : Prop :=
  ∀ done m', done <+: tasks → attempt step m done = some m' →
    (m'.accepts port ↔ (Done .Firewall 4 done → Q))

/-- A playbook that leaves sshd alone, or moves it in its last tasks. -/
structure Shaped (run : AnsibleRun) (vars : AnsibleVars) (m : Machine) (port : UInt16)
    (Q : Prop) (tasks : List Task) : Prop where
  before : BeforeSsh tasks
  accounts : Accounts m port Q tasks
  ends : playbook vars = tasks ++ sshSetup vars ∨
    playbook vars = tasks ∧ run.server.sshPort = port

theorem Shaped.prefix_sshSetup (h : Shaped run vars m port Q tasks)
    (hdone : done <+: playbook vars) : done <+: tasks ++ sshSetup vars := by
  rcases h.ends with hplaybook | ⟨hplaybook, _⟩
  · rwa [hplaybook] at hdone
  · rw [hplaybook] at hdone
    exact hdone.trans (List.prefix_append _ _)

/-- Wherever the run stops, the port is open unless sshd was moved away from it or the
final rules were loaded without it. -/
theorem Shaped.reaches_iff (h : Shaped run vars m port Q tasks)
    (hprepared : Prepared source run vars) (hstored : vars.ansiblePort = some port)
    (hsshd : port ∈ m.sshd) (hdone : done <+: playbook vars)
    (hattempt : attempt step m done = some m') :
    m'.Reaches port ↔ (Done .SSH 10 done → port = run.server.sshPort) ∧
      (Done .Firewall 4 done → ¬ Done .SSH 4 done → Q) := by
  have hcalm : ∀ t ∈ tasks, Calm t.work := fun t ht => (h.before t ht).1
  rcases prefix_append_iff.mp (h.prefix_sshSetup hdone) with hdone | ⟨rest, hrest, rfl⟩
  · have h4 : ¬ Done .SSH 4 done := not_done_of_beforeSsh h.before hdone
    have h10 : ¬ Done .SSH 10 done := not_done_of_beforeSsh h.before hdone
    obtain ⟨hsshd', _⟩ := attempt_calm hcalm hdone hattempt
    rw [Machine.Reaches, h.accounts done m' hdone hattempt, hsshd']
    simp [h4, h10, hsshd]
  · obtain ⟨n, hn, hattempt⟩ := attempt_append_eq_some_iff.mp hattempt
    have h4 : ¬ Done .SSH 4 tasks := not_done_of_beforeSsh h.before (List.prefix_refl _)
    have h10 : ¬ Done .SSH 10 tasks := not_done_of_beforeSsh h.before (List.prefix_refl _)
    have hfirewall : ¬ Done .Firewall 4 rest := by
      intro hfirewall
      cases done_of_prefix_sshSetup hrest hfirewall
    obtain ⟨hsshd', _⟩ := attempt_calm hcalm (List.prefix_refl _) hn
    rw [sshSetup_reaches hprepared hstored (by rwa [hsshd']) hrest hattempt,
      h.accounts tasks n (List.prefix_refl _) hn, hprepared.sshPort]
    simp only [done_append, h4, h10, hfirewall, false_or, or_false]
    tauto

/-- At its end the SSH file leaves sshd and its set with the new port alone. -/
theorem sshSetup_ends (hprepared : Prepared source run vars)
    (h : attempt step m (sshSetup vars) = some m') :
    m'.sshd = [run.server.sshPort] ∧ m'.sshSet = [run.server.sshPort] := by
  have hsplit : sshSetup vars = (sshSetup vars).take 8 ++
      [⟨.SSH, 9, .deploySocketConf (some [vars.sshPort])⟩, ⟨.SSH, 10, .restartSocket⟩,
        ⟨.SSH, 11, nftOp vars .SshPost⟩] := rfl
  rw [hsplit] at h
  obtain ⟨m₁, _, h⟩ := attempt_append_eq_some_iff.mp h
  obtain ⟨m₂, hm₂, h⟩ := attempt_cons_eq_some_iff.mp h
  obtain ⟨m₃, hm₃, h⟩ := attempt_cons_eq_some_iff.mp h
  obtain ⟨m₄, hm₄, hend⟩ := attempt_cons_eq_some_iff.mp h
  cases hm₂
  cases hm₃
  cases hend
  obtain ⟨hsshd, hset⟩ := perform_sshPost hprepared hm₄
  rw [← hprepared.sshPort]
  exact ⟨hsshd, hset⟩

/-- A run that ends leaves the port of its server open, unless the final rules were
loaded without it. -/
theorem Shaped.completes (h : Shaped run vars m port Q tasks)
    (hprepared : Prepared source run vars) (hstored : vars.ansiblePort = some port)
    (hsshd : port ∈ m.sshd) (hattempt : attempt step m (playbook vars) = some m') :
    m'.Reaches run.server.sshPort ↔
      (Done .Firewall 4 (playbook vars) → ¬ Done .SSH 4 (playbook vars) → Q) := by
  rcases h.ends with hends | ⟨hends, hport⟩
  · have h4 : Done .SSH 4 (playbook vars) := by simp [hends, sshSetup]
    rw [hends] at hattempt
    obtain ⟨n, _, hattempt⟩ := attempt_append_eq_some_iff.mp hattempt
    obtain ⟨hsshd', hset⟩ := sshSetup_ends hprepared hattempt
    have hreaches : m'.Reaches run.server.sshPort :=
      Machine.reaches_of_mem (by simp [hsshd']) (by simp [hset])
    simp [h4, hreaches]
  · have h10 : ¬ Done .SSH 10 (playbook vars) := by
      rw [hends]
      exact not_done_of_beforeSsh h.before (List.prefix_refl _)
    rw [hport, h.reaches_iff hprepared hstored hsshd (List.prefix_refl _) hattempt]
    simp [h10]

/-- What the SSH file does once both ports are in the set, up to its last task. -/
theorem sshSwitch_keeps (hset : port ∈ m.sshSet)
    (hdone : done <+: ((sshSetup vars).drop 4).take 6)
    (h : attempt step m done = some m') : port ∈ m'.sshSet := by
  have htable : m'.table = m.table := by
    apply attempt_preserves (fun n => n.table = m.table) _ rfl hdone h
    intro t ht n n' hn hstep
    rw [← hn]
    simp only [sshSetup, List.drop, List.take, List.mem_cons, List.not_mem_nil, or_false] at ht
    rcases ht with rfl | rfl | rfl | rfl | rfl | rfl
    · cases hstep
      rfl
    · simp only [step, Work.perform, Option.ite_none_right_eq_some] at hstep
      cases hstep.2
      rfl
    all_goals
      cases hstep
      rfl
  rwa [Machine.sshSet, htable]

/-- Unless it leaves sshd on another port, the SSH file keeps the port in the set. -/
theorem sshSetup_keeps (hprepared : Prepared source run vars)
    (hstored : vars.ansiblePort = some port)
    (hset : ¬ Done .SSH 4 done → port ∈ m.sshSet ∨ m.table = none)
    (hdone : done <+: sshSetup vars) (h : attempt step m done = some m')
    (hmoved : Done .SSH 10 done → port = run.server.sshPort) :
    port ∈ m'.sshSet ∨ m'.table = none := by
  have hsplit : sshSetup vars = sshPrepare vars port ++ ⟨.SSH, 4, nftOp vars .SshPre⟩ ::
      (((sshSetup vars).drop 4).take 6 ++ ⟨.SSH, 11, nftOp vars .SshPost⟩ :: []) := by
    rw [sshSetup, hstored]
    rfl
  rw [hsplit] at hdone
  rcases prefix_append_cons hdone with hdone | ⟨rest, hrest, rfl⟩
  · have h4 : ¬ Done .SSH 4 done := not_done_of_prefix hdone (by simp [sshPrepare])
    obtain ⟨htable, _⟩ := attempt_sshPrepare_done hdone h
    rw [Machine.sshSet, htable]
    exact hset h4
  · obtain ⟨m₁, _, h⟩ := attempt_append_eq_some_iff.mp h
    obtain ⟨m₂, hm₂, h⟩ := attempt_cons_eq_some_iff.mp h
    have hset₂ : port ∈ m₂.sshSet := by
      rw [(perform_sshPre hprepared hstored hm₂).2.2, List.mem_dedup]
      exact List.mem_cons_self
    rcases prefix_append_cons hrest with hrest | ⟨rest', hrest', rfl⟩
    · exact .inl (sshSwitch_keeps hset₂ hrest h)
    · cases List.prefix_nil.mp hrest'
      obtain ⟨n, _, h⟩ := attempt_append_eq_some_iff.mp h
      obtain ⟨n', hn', hend⟩ := attempt_cons_eq_some_iff.mp h
      cases hend
      have hport := hmoved (by simp [sshSetup])
      rw [(perform_sshPost hprepared hn').2, hprepared.sshPort, hport]
      exact .inl (List.mem_singleton_self _)

/-- Where the tasks stop, the set for SSH has the port or there is no table. -/
def Keeps (m : Machine) (port : UInt16) (tasks : List Task) : Prop :=
  ∀ done m', done <+: tasks → attempt step m done = some m' →
    (Done .Firewall 4 done → port ∈ m.sshSet) → port ∈ m'.sshSet ∨ m'.table = none

theorem Shaped.keeps (h : Shaped run vars m port Q tasks) (hkeeps : Keeps m port tasks)
    (hprepared : Prepared source run vars) (hstored : vars.ansiblePort = some port)
    (hdone : done <+: playbook vars) (hattempt : attempt step m done = some m')
    (hmoved : Done .SSH 10 done → port = run.server.sshPort)
    (hloaded : Done .Firewall 4 done → ¬ Done .SSH 4 done → port ∈ m.sshSet) :
    port ∈ m'.sshSet ∨ m'.table = none := by
  rcases prefix_append_iff.mp (h.prefix_sshSetup hdone) with hdone | ⟨rest, hrest, rfl⟩
  · have h4 : ¬ Done .SSH 4 done := not_done_of_beforeSsh h.before hdone
    exact hkeeps done m' hdone hattempt fun hfirewall => hloaded hfirewall h4
  · have h4 : ¬ Done .SSH 4 tasks := not_done_of_beforeSsh h.before (List.prefix_refl _)
    simp only [done_append, h4, false_or] at hmoved hloaded
    obtain ⟨n, hn, hattempt⟩ := attempt_append_eq_some_iff.mp hattempt
    apply sshSetup_keeps hprepared hstored _ hrest hattempt fun h10 => hmoved (.inr h10)
    intro hclosed
    exact hkeeps tasks n (List.prefix_refl _) hn fun hfirewall => hloaded (.inl hfirewall) hclosed

/-- Once the run has ended, the port of its server is in the place of the stored one. -/
theorem Shaped.completes_keeps (h : Shaped run vars m port Q tasks)
    (hkeeps : Keeps m port tasks) (hprepared : Prepared source run vars)
    (hattempt : attempt step m (playbook vars) = some m')
    (hloaded : Done .Firewall 4 (playbook vars) →
      ¬ Done .SSH 4 (playbook vars) → port ∈ m.sshSet) :
    run.server.sshPort ∈ m'.sshSet ∨ m'.table = none := by
  rcases h.ends with hends | ⟨hends, hport⟩
  · rw [hends] at hattempt
    obtain ⟨n, _, hattempt⟩ := attempt_append_eq_some_iff.mp hattempt
    rw [(sshSetup_ends hprepared hattempt).2]
    exact .inl (List.mem_singleton_self _)
  · have h4 : ¬ Done .SSH 4 tasks := not_done_of_beforeSsh h.before (List.prefix_refl _)
    rw [hends] at hattempt hloaded
    rw [hport]
    exact hkeeps tasks m' (List.prefix_refl _) hattempt fun hfirewall => hloaded hfirewall h4

end Stops

section Rebase

variable {F : Forms} {source : RangeSource} {run : AnsibleRun} {vars : AnsibleVars}
  {port : UInt16} {m m' : Machine} {done tasks : List Task} {Q : Prop}

/-- An action that is the last one of a plan, if the plan has it. -/
theorem split_last {a : AnsibleAction} {actions : List AnsibleAction}
    (hsorted : actions.Pairwise fun b c => b.id ≤ c.id ∧ b ≠ c)
    (hlast : ∀ b ∈ actions, a.id ≤ b.id → b = a) :
    ∃ before, a ∉ before ∧ (actions = before ∨ actions = before ++ [a]) := by
  by_cases ha : a ∈ actions
  · obtain ⟨before, after, rfl⟩ := List.append_of_mem ha
    obtain ⟨_, hafter, hcross⟩ := List.pairwise_append.mp hsorted
    have hnil : after = [] := by
      rw [List.eq_nil_iff_forall_not_mem]
      intro b hb
      obtain ⟨hid, hne⟩ := List.rel_of_pairwise_cons hafter hb
      exact hne (hlast b (List.mem_append_right before (List.mem_cons_of_mem a hb)) hid).symm
    rw [hnil]
    refine ⟨before, ?_, .inr rfl⟩
    intro hmem
    exact (hcross a hmem a List.mem_cons_self).2 rfl
  · exact ⟨actions, ha, .inl rfl⟩

/-- A plan is actions that concern neither the rules nor sshd, then those that do. -/
theorem planned_split {actions : List AnsibleAction}
    (hsorted : actions.Pairwise fun b c => b.id ≤ c.id ∧ b ≠ c)
    (hplanned : ∀ a ∈ actions, a ∈ planned) :
    ∃ quiet rules, (∀ a ∈ quiet, a ∈ planned ∧ a ≠ .Firewall ∧ a ≠ .SSH) ∧
      (rules = [] ∨ rules = [.Firewall]) ∧
      (actions = quiet ++ rules ∧ .SSH ∉ actions ∨ actions = quiet ++ rules ++ [.SSH]) := by
  have hlast : ∀ b ∈ planned, AnsibleAction.SSH.id ≤ b.id → b = .SSH := by decide
  have hlast' : ∀ b ∈ planned, b ≠ .SSH → AnsibleAction.Firewall.id ≤ b.id → b = .Firewall := by
    decide
  obtain ⟨before, hssh, hbefore⟩ := split_last hsorted fun b hb => hlast b (hplanned b hb)
  have hsubset : before ⊆ actions := by
    rcases hbefore with rfl | rfl
    · exact List.Subset.refl _
    · exact List.subset_append_left before [.SSH]
  have hsorted' : before.Pairwise fun b c => b.id ≤ c.id ∧ b ≠ c := by
    rcases hbefore with rfl | rfl
    · exact hsorted
    · exact (List.pairwise_append.mp hsorted).1
  have hne : ∀ b ∈ before, b ≠ .SSH := by
    rintro b hb rfl
    exact hssh hb
  obtain ⟨quiet, hfirewall, hquiet⟩ := split_last hsorted' fun b hb =>
    hlast' b (hplanned b (hsubset hb)) (hne b hb)
  have hquiets : ∀ a ∈ quiet, a ∈ before := by
    rcases hquiet with rfl | rfl
    · exact fun a ha => ha
    · exact fun a ha => List.mem_append_left [.Firewall] ha
  have hall : ∀ a ∈ quiet, a ∈ planned ∧ a ≠ .Firewall ∧ a ≠ .SSH := by
    intro a ha
    refine ⟨hplanned a (hsubset (hquiets a ha)), ?_, hne a (hquiets a ha)⟩
    rintro rfl
    exact hfirewall ha
  rcases hquiet with rfl | rfl
  · refine ⟨before, [], hall, .inl rfl, ?_⟩
    rw [List.append_nil]
    rcases hbefore with rfl | rfl
    · exact .inl ⟨rfl, hssh⟩
    · exact .inr rfl
  · refine ⟨quiet, [.Firewall], hall, .inr rfl, ?_⟩
    rcases hbefore with rfl | rfl
    · exact .inl ⟨rfl, hssh⟩
    · exact .inr rfl

/-- Tasks that a machine without the table stays without it after. -/
def Quiet (tasks : List Task) : Prop :=
  ∀ t ∈ tasks, t.file ≠ .Firewall ∧
    (t.work = .elsewhere ∨ (∃ ports, t.work = .checkPorts ports) ∨ ∃ op, t.work = .applyOp op)

theorem quiet_taskFile {a : AnsibleAction} (hplanned : a ∈ planned) (hfirewall : a ≠ .Firewall)
    (hssh : a ≠ .SSH) : Quiet (taskFile vars a) := by
  cases a with
  | Firewall => exact absurd rfl hfirewall
  | SSH => exact absurd rfl hssh
  | FirewallBootstrap | BaseSetup | FullSetup | DestroyServer =>
      exact absurd hplanned (by decide)
  | PortsCheck => simp [Quiet, taskFile, checkPorts]
  | OutblockedUpdate => simp [Quiet, taskFile, outblockedUpdate, nftOp]
  | DelInbound => simp [Quiet, taskFile, delInbound, nftOp]
  | AddInbound => simp [Quiet, taskFile, addInbound, nftOp]
  | _ => simp [Quiet, taskFile, elsewhere]

theorem attempt_quiet (hquiet : Quiet tasks) (hbare : m.table = none) (hdone : done <+: tasks)
    (h : attempt step m done = some m') :
    m'.table = none ∧ ¬ Done .Firewall 4 done := by
  constructor
  · apply attempt_preserves (fun n => n.table = none) _ hbare hdone h
    intro t ht n n' hn hstep
    rw [step] at hstep
    rcases (hquiet t ht).2 with hwork | ⟨ports, hwork⟩ | ⟨op, hwork⟩
    · rw [hwork] at hstep
      cases hstep
      exact hn
    · rw [hwork, Work.perform, Option.ite_none_right_eq_some] at hstep
      cases hstep.2
      exact hn
    · rw [hwork] at hstep
      cases op with
      | none => cases hstep
      | some op => simp [Work.perform, hn] at hstep
  · rintro ⟨t, ht, hfile, _⟩
    exact (hquiet t (hdone.subset ht)).1 hfile

/-- Without the table the final rules find the sets empty, and accept no port for SSH. -/
theorem attempt_firewall (hbare : m.table = none) (hport : port ≠ Constants.nginxPort)
    (hdone : done <+: firewall vars) (h : attempt step m done = some m') :
    m'.table = none ∧ ¬ Done .Firewall 4 done ∨ ¬ m'.accepts port ∧ Done .Firewall 4 done := by
  have hsplit : firewall vars = (firewall vars).take 3 ++ ⟨.Firewall, 4, .reloadNftables⟩ :: [] :=
    rfl
  rw [hsplit] at hdone
  rcases prefix_append_cons hdone with hdone | ⟨rest, hrest, rfl⟩
  · refine .inl ⟨?_, not_done_of_prefix hdone (by simp [firewall])⟩
    apply attempt_preserves (fun n => n.table = none) _ hbare hdone h
    intro t ht n n' hn hstep
    simp only [firewall, List.take, List.mem_cons, List.not_mem_nil, or_false] at ht
    rcases ht with rfl | rfl | rfl
    · cases hstep
      exact hn
    · cases hstep
      exact hn
    · cases hstep
      simp [hn]
  · cases List.prefix_nil.mp hrest
    simp only [firewall, List.take, List.cons_append, List.nil_append, attempt, step,
      Work.perform, Option.bind_some, hbare, Option.map_none, Option.map_some, Option.getD_none,
      Option.some.injEq] at h
    cases h
    refine .inr ⟨?_, by simp [firewall]⟩
    have hload : Table.empty.load ⟨.drop, throughCloudflare vars⟩ =
        Table.empty.flush.load ⟨.drop, throughCloudflare vars⟩ := rfl
    rw [Machine.accepts_of_table rfl, hload, Table.accepts_load_flush_iff]
    simp [Table.empty, hport]

/-- A plan on a machine without the table. -/
theorem attempt_bare (hbare : m.table = none) (hport : port ≠ Constants.nginxPort)
    (hquiet : Quiet tasks) {rules : List Task} (hrules : rules <+: firewall vars)
    (hdone : done <+: tasks ++ rules) (h : attempt step m done = some m') :
    m'.table = none ∧ ¬ Done .Firewall 4 done ∨ ¬ m'.accepts port ∧ Done .Firewall 4 done := by
  rcases prefix_append_iff.mp hdone with hdone | ⟨rest, hrest, rfl⟩
  · exact .inl (attempt_quiet hquiet hbare hdone h)
  · obtain ⟨n, hn, h⟩ := attempt_append_eq_some_iff.mp h
    obtain ⟨hbare', hnot⟩ := attempt_quiet hquiet hbare (List.prefix_refl _) hn
    simpa only [done_append, hnot, false_or] using
      attempt_firewall hbare' hport (hrest.trans hrules) h

theorem rebase_shaped (hprepared : Prepared source run vars)
    (hplanned : ∀ a ∈ run.actions, a ∈ planned)
    (hunplanned : .SSH ∉ run.actions → run.server.sshPort = port)
    (hport : port ≠ Constants.nginxPort) (hset : port ∈ m.sshSet ∨ m.table = none) :
    ∃ tasks, Shaped run vars m port (port ∈ m.sshSet) tasks ∧ Keeps m port tasks := by
  obtain ⟨quiet, rules, hquiet, hrules, hactions⟩ := planned_split
    (sortUnique_pairwise run.actions) fun a ha => hplanned a (mem_sortUnique.mp ha)
  have hquiet' : Quiet (quiet.flatMap (taskFile vars)) := by
    intro t ht
    obtain ⟨a, ha, ht⟩ := List.mem_flatMap.mp ht
    obtain ⟨hmem, hfirewall, hssh⟩ := hquiet a ha
    exact quiet_taskFile hmem hfirewall hssh t ht
  have hrules' : rules.flatMap (taskFile vars) <+: firewall vars := by
    rcases hrules with rfl | rfl
    · exact List.nil_prefix
    · rw [List.flatMap_singleton]
      exact List.prefix_refl _
  have hbefore : BeforeSsh ((quiet ++ rules).flatMap (taskFile vars)) := by
    apply beforeSsh_flatMap hprepared
    intro a ha
    rcases List.mem_append.mp ha with ha | ha
    · obtain ⟨hmem, _, hssh⟩ := hquiet a ha
      refine ⟨hssh, ?_, ?_⟩
      · rintro rfl
        exact absurd hmem (by decide)
      · rintro rfl
        exact absurd hmem (by decide)
    · rcases hrules with rfl | rfl
      · cases ha
      · cases List.mem_singleton.mp ha
        decide
  have hcalm : ∀ t ∈ (quiet ++ rules).flatMap (taskFile vars), Calm t.work :=
    fun t ht => (hbefore t ht).1
  have hstops : ∀ done m', done <+: (quiet ++ rules).flatMap (taskFile vars) →
      attempt step m done = some m' → m.table = none →
      m'.table = none ∧ ¬ Done .Firewall 4 done ∨ ¬ m'.accepts port ∧ Done .Firewall 4 done := by
    intro done m' hdone h hbare
    rw [List.flatMap_append] at hdone
    exact attempt_bare hbare hport hquiet' hrules' hdone h
  refine ⟨(quiet ++ rules).flatMap (taskFile vars), ⟨hbefore, ?_, ?_⟩, ?_⟩
  · intro done m' hdone h
    rcases hset with hset | hbare
    · have hset' := (attempt_calm hcalm hdone h).2
      have haccepts : m'.accepts port := by
        rw [← hset'] at hset
        exact Machine.accepts_of_mem hset
      simp [hset, haccepts]
    · have hnot : port ∉ m.sshSet := by simp [Machine.sshSet, hbare]
      rcases hstops done m' hdone h hbare with ⟨hbare', hfirewall⟩ | ⟨haccepts, hfirewall⟩
      · simp [Machine.accepts, hbare', hfirewall]
      · simp [haccepts, hfirewall, hnot]
  · rw [playbook, hprepared.tasks]
    rcases hactions with ⟨hactions, hssh⟩ | hactions
    · rw [mem_sortUnique] at hssh
      rw [hactions]
      exact .inr ⟨rfl, hunplanned hssh⟩
    · rw [hactions, List.flatMap_append, List.flatMap_singleton]
      exact .inl rfl
  · intro done m' hdone h hloaded
    rcases hset with hset | hbare
    · rw [(attempt_calm hcalm hdone h).2]
      exact .inl hset
    · have hnot : port ∉ m.sshSet := by simp [Machine.sshSet, hbare]
      rcases hstops done m' hdone h hbare with ⟨hbare', _⟩ | ⟨_, hfirewall⟩
      · exact .inr hbare'
      · exact absurd (hloaded hfirewall) hnot

/-- The port of SSH changes exactly with the action on it. -/
theorem sshPort_of_unplanned {s new : KetServer} {data : Option RebaseDiff.RebaseData}
    {actions : List AnsibleAction} (hplan : planActions F s new data = .ok actions)
    (hssh : .SSH ∉ actions) : s.sshPort = new.sshPort := by
  obtain ⟨oldState, newState, _, _, rfl⟩ := planActions_eq_ok_iff.mp hplan
  by_contra hne
  simp [mem_sortUnique, specActions, hne] at hssh

end Rebase

section OtherRuns

/-- What the monitors of a server start runs for, one action each. -/
def fixes : List AnsibleAction :=
  [.Acme, .NginxRestart, .NginxRestoreConfig, .XrayRestart, .XrayRestoreDB]

variable {source : RangeSource} {vars : AnsibleVars} {s : KetServer} {port : UInt16}
  {m m' : Machine} {done : List Task}

theorem fullSetup_shaped (hprepared : Prepared source ⟨s, [.FullSetup], none⟩ vars)
    (haccepts : m.accepts port) :
    Shaped ⟨s, [.FullSetup], none⟩ vars m port
      (port ∈ m.sshSet ∨ OpenedOtherwise ⟨s, [.FullSetup], none⟩ vars port)
      (beforeSshSetup vars) where
  before := beforeSsh_beforeSshSetup hprepared
  accounts := accounted_beforeSshSetup hprepared haccepts
  ends := .inl (fullSetup_playbook hprepared)

theorem attempt_fix {action : AnsibleAction} (hfix : action ∈ fixes)
    (hprepared : Prepared source ⟨s, [action], none⟩ vars) (hdone : done <+: playbook vars)
    (h : attempt step m done = some m') :
    m' = m ∧ ∀ t ∈ done, t.file ∈ fixes := by
  have hplaybook : playbook vars = elsewhere action := by
    have hsorted : sortUnique [action] = [action] := rfl
    rw [playbook, hprepared.tasks, hsorted, List.flatMap_singleton]
    simp only [fixes, List.mem_cons, List.not_mem_nil, or_false] at hfix
    rcases hfix with rfl | rfl | rfl | rfl | rfl
    all_goals rfl
  rw [hplaybook] at hdone
  constructor
  · apply attempt_preserves (fun n => n = m) _ rfl hdone h
    intro t ht n n' hn hstep
    cases List.mem_singleton.mp ht
    cases hstep
    exact hn
  · intro t ht
    cases List.mem_singleton.mp (hdone.subset ht)
    exact hfix

/-- Until it restarts the socket, a destruction opens ports at most. -/
theorem attempt_destroy_start (hreaches : m.Reaches port) (hdone : done <+: destroyServer.take 4)
    (h : attempt step m done = some m') :
    m'.Reaches port ∧ (m'.table = m.table ∨ m'.table = none) := by
  have hkept : m'.sshd = m.sshd ∧ (m'.table = m.table ∨ m'.table = none) := by
    apply attempt_preserves (fun n => n.sshd = m.sshd ∧ (n.table = m.table ∨ n.table = none)) _
      ⟨rfl, .inl rfl⟩ hdone h
    rintro t ht n n' ⟨hsshd, htable⟩ hstep
    simp only [destroyServer, List.take, List.mem_cons, List.not_mem_nil, or_false] at ht
    rcases ht with rfl | rfl | rfl | rfl
    · cases hstep
      exact ⟨hsshd, htable⟩
    · cases hstep
      exact ⟨hsshd, .inr rfl⟩
    · cases hstep
      exact ⟨hsshd, htable⟩
    · cases hstep
      exact ⟨hsshd, htable⟩
  obtain ⟨hsshd, htable⟩ := hkept
  refine ⟨⟨?_, ?_⟩, htable⟩
  · rw [hsshd]
    exact hreaches.1
  · rcases htable with htable | htable
    · simpa [Machine.accepts, htable] using hreaches.2
    · simp [Machine.accepts, htable]

/-- A destruction takes the table away and moves sshd to the default port. -/
theorem attempt_destroyServer (hreaches : m.Reaches port) (hdone : done <+: destroyServer)
    (h : attempt step m done = some m') :
    (m'.Reaches port ↔ (Done .DestroyServer 10 done → port = Constants.ansiblePort)) ∧
      (m'.table = m.table ∨ m'.table = none) ∧
      (done = destroyServer → m'.Reaches Constants.ansiblePort) := by
  have hsplit : destroyServer = destroyServer.take 4 ++ ⟨.DestroyServer, 10, .restartSocket⟩ ::
      [⟨.DestroyServer, 11, .waitFor Constants.ansiblePort⟩] := rfl
  have hnot : ¬ Done .DestroyServer 10 (destroyServer.take 4) := by simp [destroyServer]
  rw [hsplit] at hdone
  rcases prefix_append_cons hdone with hdone | ⟨rest, hrest, rfl⟩
  · obtain ⟨hreaches', htable⟩ := attempt_destroy_start hreaches hdone h
    have h10 := not_done_of_prefix hdone hnot
    refine ⟨by simp [h10, hreaches'], htable, ?_⟩
    rintro rfl
    exact absurd (by simp [destroyServer]) h10
  · have hmoved : m'.sshd = [Constants.ansiblePort] ∧ m'.table = none := by
      obtain ⟨n, hn, h⟩ := attempt_append_eq_some_iff.mp h
      obtain ⟨n', hn', h⟩ := attempt_cons_eq_some_iff.mp h
      have hstart : n'.sshd = [Constants.ansiblePort] ∧ n'.table = none := by
        cases hn
        cases hn'
        exact ⟨rfl, rfl⟩
      apply attempt_preserves
        (fun n => n.sshd = [Constants.ansiblePort] ∧ n.table = none) _ hstart hrest h
      intro t ht k k' hk hstep
      cases List.mem_singleton.mp ht
      simp only [step, Work.perform, Option.ite_none_right_eq_some] at hstep
      cases hstep.2
      exact hk
    have hreaches' : ∀ p, m'.Reaches p ↔ p = Constants.ansiblePort := by
      intro p
      simp [Machine.Reaches, Machine.accepts, hmoved.1, hmoved.2]
    refine ⟨?_, .inr hmoved.2, fun _ => (hreaches' _).mpr rfl⟩
    rw [hreaches']
    simp

end OtherRuns

end Xcplane.RunStops
