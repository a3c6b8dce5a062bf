import Xcplane.Playbook

/-!
What the tasks of a run keep of sshd and of the set for SSH, and which ports the SSH
file leaves open at every point of it.
-/

namespace Xcplane.SshSetup

open Xcplane.Types
open Xcplane.Lib
open Xcplane.Deploy
open Xcplane.PlaybookVars
open Xcplane.Playbook

section Frames

variable {m m' : Machine} {work : Work}

/-- Work that neither changes what sshd listens on nor the set for SSH. -/
def Calm : Work → Prop
  | .applyOp (some (.ssh _)) => False
  | .flushRuleset => False
  | .restartSocket => False
  | _ => True

theorem calm_elsewhere : Calm .elsewhere := trivial

theorem sshSet_getD_load (conf : NftConf) :
    ((m.table.getD Table.empty).load conf).ssh = m.sshSet := by
  rw [Machine.sshSet]
  cases m.table with
  | none => rfl
  | some t => rfl

theorem perform_calm (hcalm : Calm work) (hwork : work.perform m = some m') :
    m'.sshd = m.sshd ∧ m'.sshSet = m.sshSet := by
  cases work with
  | elsewhere | deployConf _ | deleteConf | deleteSocketConf =>
      cases hwork
      exact ⟨rfl, rfl⟩
  | checkPorts _ | waitFor _ =>
      simp only [Work.perform, Option.ite_none_right_eq_some] at hwork
      cases hwork.2
      exact ⟨rfl, rfl⟩
  | flushRules =>
      cases hwork
      refine ⟨rfl, ?_⟩
      simp only [Machine.sshSet]
      cases m.table with
      | none => rfl
      | some t => rfl
  | reloadNftables =>
      obtain ⟨conf, _, rfl⟩ := Option.map_eq_some_iff.mp hwork
      exact ⟨rfl, sshSet_getD_load conf⟩
  | applyOp op =>
      cases op with
      | none => cases hwork
      | some op =>
          simp only [Work.perform, Option.ite_none_left_eq_some] at hwork
          obtain ⟨t, ht, rfl⟩ := Option.map_eq_some_iff.mp hwork.2
          refine ⟨rfl, ?_⟩
          simp only [Machine.sshSet, ht]
          cases op with
          | ssh ports => exact absurd hcalm id
          | inbound ports => rfl
          | addresses set ranges => rfl
  | deploySocketConf ports =>
      obtain ⟨ports, _, rfl⟩ := Option.map_eq_some_iff.mp hwork
      exact ⟨rfl, rfl⟩
  | flushRuleset | restartSocket => exact absurd hcalm id

/-- A run of calm tasks keeps what sshd listens on and the set for SSH, wherever it
stops. -/
theorem attempt_calm {tasks done : List Task} (hcalm : ∀ t ∈ tasks, Calm t.work)
    (hdone : done <+: tasks) (hattempt : attempt step m done = some m') :
    m'.sshd = m.sshd ∧ m'.sshSet = m.sshSet := by
  apply attempt_preserves (fun n => n.sshd = m.sshd ∧ n.sshSet = m.sshSet) _ ⟨rfl, rfl⟩
    hdone hattempt
  rintro t ht n n' ⟨hsshd, hset⟩ hstep
  obtain ⟨hsshd', hset'⟩ := perform_calm (hcalm t ht) hstep
  exact ⟨hsshd'.trans hsshd, hset'.trans hset⟩

end Frames

section Files

variable {source : RangeSource} {run : AnsibleRun} {vars : AnsibleVars} {set : NftSet}

theorem calm_nftOp (hprepared : Prepared source run vars) (hpre : set ≠ .SshPre)
    (hpost : set ≠ .SshPost) : Calm (nftOp vars set) := by
  rw [nftOp]
  cases hlookup : vars.nftops.lookup set with
  | none => trivial
  | some op =>
      have hop := hprepared.op set op hlookup
      cases set with
      | SshPre => exact absurd rfl hpre
      | SshPost => exact absurd rfl hpost
      | Inbound =>
          cases hop
          trivial
      | OutBlocked4 | OutBlocked6 | Cloudflare4 | Cloudflare6 =>
          obtain ⟨ranges, _, heq⟩ := bind_eq_ok_iff.mp hop
          cases heq
          trivial

/-- What the tasks before those of the SSH file are like. -/
def BeforeSsh (tasks : List Task) : Prop :=
  ∀ t ∈ tasks, Calm t.work ∧ t.file ≠ .SSH

theorem beforeSsh_append {l l' : List Task} :
    BeforeSsh (l ++ l') ↔ BeforeSsh l ∧ BeforeSsh l' := by
  simp only [BeforeSsh, List.forall_mem_append]

theorem beforeSsh_elsewhere {file : AnsibleAction} (h : file ≠ .SSH) :
    BeforeSsh (elsewhere file) := by
  intro t ht
  cases List.mem_singleton.mp ht
  exact ⟨trivial, h⟩

theorem beforeSsh_outblockedUpdate (hprepared : Prepared source run vars) :
    BeforeSsh (outblockedUpdate vars) := by
  have hcalm : ∀ set, set ≠ .SshPre → set ≠ .SshPost → Calm (nftOp vars set) :=
    fun set => calm_nftOp hprepared
  simp [BeforeSsh, outblockedUpdate, hcalm]

theorem beforeSsh_firewallBootstrap : BeforeSsh (firewallBootstrap vars) := by
  simp [BeforeSsh, firewallBootstrap, Calm]

theorem beforeSsh_firewall : BeforeSsh (firewall vars) := by
  simp [BeforeSsh, firewall, Calm]

theorem beforeSsh_addInbound (hprepared : Prepared source run vars) :
    BeforeSsh (addInbound vars) := by
  have hcalm : Calm (nftOp vars .Inbound) := calm_nftOp hprepared (by decide) (by decide)
  simp [BeforeSsh, addInbound, calm_elsewhere, hcalm]

theorem beforeSsh_baseSetup (hprepared : Prepared source run vars) :
    BeforeSsh (baseSetup vars) := by
  have helsewhere : ∀ file, file ≠ .SSH → BeforeSsh (elsewhere file) :=
    fun file => beforeSsh_elsewhere
  have hports : BeforeSsh (checkPorts vars) := by simp [BeforeSsh, checkPorts, Calm]
  simp [baseSetup, beforeSsh_append, helsewhere, hports, beforeSsh_firewallBootstrap,
    beforeSsh_outblockedUpdate hprepared]

theorem beforeSsh_taskFile (hprepared : Prepared source run vars) {a : AnsibleAction}
    (hssh : a ≠ .SSH) (hsetup : a ≠ .FullSetup) (hdestroy : a ≠ .DestroyServer) :
    BeforeSsh (taskFile vars a) := by
  have hcalm : Calm (nftOp vars .Inbound) := calm_nftOp hprepared (by decide) (by decide)
  cases a with
  | PortsCheck => simp [taskFile, BeforeSsh, checkPorts, Calm]
  | FirewallBootstrap => exact beforeSsh_firewallBootstrap
  | OutblockedUpdate => exact beforeSsh_outblockedUpdate hprepared
  | BaseSetup => exact beforeSsh_baseSetup hprepared
  | FullSetup => exact absurd rfl hsetup
  | DelInbound => simp [taskFile, BeforeSsh, delInbound, calm_elsewhere, hcalm]
  | AddInbound => exact beforeSsh_addInbound hprepared
  | Firewall => exact beforeSsh_firewall
  | SSH => exact absurd rfl hssh
  | DestroyServer => exact absurd rfl hdestroy
  | _ => exact beforeSsh_elsewhere (by decide)

end Files

section Operations

variable {source : RangeSource} {run : AnsibleRun} {vars : AnsibleVars} {port : UInt16}
  {m m' : Machine}

/-- An operation that succeeds was written for the run. -/
theorem perform_nftOp (hprepared : Prepared source run vars) {set : NftSet}
    (h : (nftOp vars set).perform m = some m') :
    ∃ op t, writeRule source run.server set = .ok op ∧ m.table = some t ∧
      m' = { m with table := some (t.update op) } := by
  rw [nftOp] at h
  cases hlookup : vars.nftops.lookup set with
  | none =>
      rw [hlookup] at h
      cases h
  | some op =>
      rw [hlookup] at h
      simp only [Work.perform, Option.ite_none_left_eq_some] at h
      obtain ⟨t, ht, hm'⟩ := Option.map_eq_some_iff.mp h.2
      exact ⟨op, t, hprepared.op set op hlookup, ht, hm'.symm⟩

theorem perform_sshPre (hprepared : Prepared source run vars)
    (hstored : vars.ansiblePort = some port)
    (h : (nftOp vars .SshPre).perform m = some m') :
    m'.sshd = m.sshd ∧ m'.socketPorts = m.socketPorts ∧
      m'.sshSet = [port, vars.sshPort].dedup := by
  obtain ⟨op, t, hop, _, rfl⟩ := perform_nftOp hprepared h
  obtain ⟨conn, port', hconn, hport', rfl⟩ := writeRule_sshPre hop
  have hsame := hprepared.port
  rw [hconn, Option.bind_some, hport', hstored, Option.some.injEq] at hsame
  rw [hsame, hprepared.sshPort]
  exact ⟨rfl, rfl, rfl⟩

theorem perform_sshPost (hprepared : Prepared source run vars)
    (h : (nftOp vars .SshPost).perform m = some m') :
    m'.sshd = m.sshd ∧ m'.sshSet = [vars.sshPort] := by
  obtain ⟨op, t, hop, _, rfl⟩ := perform_nftOp hprepared h
  cases hop
  rw [hprepared.sshPort]
  exact ⟨rfl, rfl⟩

theorem perform_inbound (hprepared : Prepared source run vars)
    (h : (nftOp vars .Inbound).perform m = some m') :
    ∃ t, m.table = some t ∧
      m' = { m with table := some (t.update (.inbound (inboundPorts run.server))) } := by
  obtain ⟨op, t, hop, ht, hm'⟩ := perform_nftOp hprepared h
  cases hop
  exact ⟨t, ht, hm'⟩

end Operations

section Progress

variable {file : AnsibleAction} {number : Nat} {t : Task} {tasks done l l' : List Task}

@[simp] theorem done_nil : ¬ Done file number [] := by
  simp [Done]

@[simp] theorem done_cons :
    Done file number (t :: l) ↔ (t.file = file ∧ t.number = number) ∨ Done file number l := by
  simp [Done]

@[simp] theorem done_append :
    Done file number (l ++ l') ↔ Done file number l ∨ Done file number l' := by
  simp [Done, or_and_right, exists_or]

theorem not_done_of_prefix (hdone : done <+: tasks) (h : ¬ Done file number tasks) :
    ¬ Done file number done := by
  rintro ⟨t, ht, hfile, hnumber⟩
  exact h ⟨t, hdone.subset ht, hfile, hnumber⟩

theorem not_done_of_beforeSsh (hbefore : BeforeSsh tasks) (hdone : done <+: tasks) :
    ¬ Done .SSH number done := by
  rintro ⟨t, ht, hfile, _⟩
  exact (hbefore t (hdone.subset ht)).2 hfile

end Progress

section SshFile

variable {source : RangeSource} {run : AnsibleRun} {vars : AnsibleVars} {port : UInt16}
  {m m' : Machine} {done : List Task}

/-- Before the socket is restarted for the first time, and from then until the new port
is left alone in its configuration. -/
def sshPrepare (vars : AnsibleVars) (port : UInt16) : List Task :=
  [⟨.SSH, 1, .elsewhere⟩,
   ⟨.SSH, 2, .deleteSocketConf⟩,
   ⟨.SSH, 3, .deploySocketConf (some [port, vars.sshPort].dedup)⟩]

def sshSwitch (vars : AnsibleVars) : List Task :=
  [⟨.SSH, 5, .restartSocket⟩,
   ⟨.SSH, 6, .waitFor vars.sshPort⟩,
   ⟨.SSH, 7, .elsewhere⟩,
   ⟨.SSH, 8, .elsewhere⟩]

theorem sshSetup_eq (hstored : vars.ansiblePort = some port) :
    sshSetup vars = sshPrepare vars port ++ ⟨.SSH, 4, nftOp vars .SshPre⟩ ::
      (sshSwitch vars ++ ⟨.SSH, 9, .deploySocketConf (some [vars.sshPort])⟩ ::
        ([] ++ ⟨.SSH, 10, .restartSocket⟩ :: [⟨.SSH, 11, nftOp vars .SshPost⟩])) := by
  rw [sshSetup, hstored]
  rfl

/-- Both ports are open for good. -/
structure BothOpen (vars : AnsibleVars) (port : UInt16) (m : Machine) : Prop where
  sshd : port ∈ m.sshd
  socketPorts : m.socketPorts = [port, vars.sshPort].dedup
  sshSet : m.sshSet = [port, vars.sshPort].dedup

theorem BothOpen.reaches (h : BothOpen vars port m) : m.Reaches port := by
  apply Machine.reaches_of_mem h.sshd
  rw [h.sshSet, List.mem_dedup]
  exact List.mem_cons_self

theorem attempt_sshPrepare (h : attempt step m (sshPrepare vars port) = some m') :
    m'.sshd = m.sshd ∧ m'.socketPorts = [port, vars.sshPort].dedup := by
  simp only [sshPrepare, attempt, step, Work.perform, Option.bind_some, Option.map_some,
    Option.some.injEq] at h
  cases h
  exact ⟨rfl, rfl⟩

theorem attempt_sshPrepare_done (hdone : done <+: sshPrepare vars port)
    (h : attempt step m done = some m') : m'.table = m.table ∧ m'.sshd = m.sshd := by
  apply attempt_preserves (fun n => n.table = m.table ∧ n.sshd = m.sshd) _ ⟨rfl, rfl⟩
    hdone h
  rintro t ht n n' ⟨htable, hsshd⟩ hstep
  simp only [sshPrepare, List.mem_cons, List.not_mem_nil, or_false] at ht
  rcases ht with rfl | rfl | rfl
  · cases hstep
    exact ⟨htable, hsshd⟩
  · cases hstep
    exact ⟨htable, hsshd⟩
  · cases hstep
    exact ⟨htable, hsshd⟩

theorem attempt_sshSwitch_done (hopen : BothOpen vars port m) (hdone : done <+: sshSwitch vars)
    (h : attempt step m done = some m') : BothOpen vars port m' := by
  apply attempt_preserves (BothOpen vars port) _ hopen hdone h
  intro t ht n n' hn hstep
  simp only [sshSwitch, List.mem_cons, List.not_mem_nil, or_false] at ht
  rcases ht with rfl | rfl | rfl | rfl
  · cases hstep
    refine ⟨?_, hn.socketPorts, hn.sshSet⟩
    rw [hn.socketPorts, List.mem_dedup]
    exact List.mem_cons_self
  · simp only [step, Work.perform, Option.ite_none_right_eq_some] at hstep
    cases hstep.2
    exact hn
  · cases hstep
    exact hn
  · cases hstep
    exact hn

/-- Once the socket is restarted for the second time, only the new port is open. -/
theorem attempt_sshPost (hprepared : Prepared source run vars) (hsshd : m.sshd = [vars.sshPort])
    (hset : vars.sshPort ∈ m.sshSet) (hdone : done <+: [⟨.SSH, 11, nftOp vars .SshPost⟩])
    (h : attempt step m done = some m') : m'.Reaches port ↔ port = vars.sshPort := by
  have hkept : m'.sshd = [vars.sshPort] ∧ vars.sshPort ∈ m'.sshSet := by
    apply attempt_preserves
      (fun n => n.sshd = [vars.sshPort] ∧ vars.sshPort ∈ n.sshSet) _ ⟨hsshd, hset⟩ hdone h
    rintro t ht n n' ⟨hn, _⟩ hstep
    cases List.mem_singleton.mp ht
    obtain ⟨hsshd', hset'⟩ := perform_sshPost hprepared hstep
    rw [hsshd', hset']
    exact ⟨hn, List.mem_singleton_self _⟩
  constructor
  · intro hreaches
    have hmem := hreaches.1
    rw [hkept.1] at hmem
    exact List.mem_singleton.mp hmem
  · rintro rfl
    apply Machine.reaches_of_mem _ hkept.2
    rw [hkept.1]
    exact List.mem_singleton_self _

theorem sshSetup_reaches (hprepared : Prepared source run vars)
    (hstored : vars.ansiblePort = some port) (hsshd : port ∈ m.sshd)
    (hdone : done <+: sshSetup vars) (h : attempt step m done = some m') :
    m'.Reaches port ↔
      (Done .SSH 10 done → port = vars.sshPort) ∧ (¬ Done .SSH 4 done → m.accepts port) := by
  rw [sshSetup_eq hstored] at hdone
  rcases prefix_append_cons hdone with hdone | ⟨rest, hrest, rfl⟩
  · have h4 : ¬ Done .SSH 4 done := not_done_of_prefix hdone (by simp [sshPrepare])
    have h10 : ¬ Done .SSH 10 done := not_done_of_prefix hdone (by simp [sshPrepare])
    obtain ⟨htable, hsshd'⟩ := attempt_sshPrepare_done hdone h
    simp [h4, h10, Machine.Reaches, Machine.accepts, htable, hsshd', hsshd]
  · obtain ⟨m₁, hm₁, h⟩ := attempt_append_eq_some_iff.mp h
    obtain ⟨m₂, hm₂, h⟩ := attempt_cons_eq_some_iff.mp h
    obtain ⟨hsshd₁, hsocket₁⟩ := attempt_sshPrepare hm₁
    obtain ⟨hsshd₂, hsocket₂, hset₂⟩ := perform_sshPre hprepared hstored hm₂
    have hopen : BothOpen vars port m₂ :=
      { sshd := by rwa [hsshd₂, hsshd₁]
        socketPorts := hsocket₂.trans hsocket₁
        sshSet := hset₂ }
    have h4 : Done .SSH 4 (sshPrepare vars port ++ ⟨.SSH, 4, nftOp vars .SshPre⟩ :: rest) := by
      simp
    have hprepare : ¬ Done .SSH 10 (sshPrepare vars port) := by simp [sshPrepare]
    simp only [h4, not_true_eq_false, false_imp_iff, and_true, done_append, done_cons, hprepare,
      false_or]
    rcases prefix_append_cons hrest with hrest | ⟨rest', hrest', rfl⟩
    · have h10 : ¬ Done .SSH 10 rest := not_done_of_prefix hrest (by simp [sshSwitch])
      simp [h10, (attempt_sshSwitch_done hopen hrest h).reaches]
    · obtain ⟨m₃, hm₃, h⟩ := attempt_append_eq_some_iff.mp h
      obtain ⟨m₄, hm₄, h⟩ := attempt_cons_eq_some_iff.mp h
      have hopen₃ := attempt_sshSwitch_done hopen (List.prefix_refl _) hm₃
      cases hm₄
      rcases prefix_append_cons hrest' with hnil | ⟨rest'', hrest'', rfl⟩
      · cases List.prefix_nil.mp hnil
        cases h
        have hreaches := hopen₃.reaches
        simp [sshSwitch]
        exact hreaches
      · obtain ⟨m₅, hm₅, h⟩ := attempt_cons_eq_some_iff.mp h
        have hset₃ : vars.sshPort ∈ m₃.sshSet := by
          rw [hopen₃.sshSet, List.mem_dedup]
          exact List.mem_cons_of_mem _ (List.mem_singleton_self _)
        have hsshd₅ : m₅.sshd = [vars.sshPort] := by
          cases hm₅
          rfl
        have hset₅ : vars.sshPort ∈ m₅.sshSet := by
          cases hm₅
          exact hset₃
        rw [attempt_sshPost hprepared hsshd₅ hset₅ hrest'' h]
        simp

theorem done_of_prefix_sshSetup {file : AnsibleAction} {number : Nat}
    (hdone : done <+: sshSetup vars) (h : Done file number done) : file = .SSH := by
  obtain ⟨t, ht, rfl, _⟩ := h
  have hall : ∀ t ∈ sshSetup vars, t.file = .SSH := by simp [sshSetup]
  exact hall t (hdone.subset ht)

end SshFile

end Xcplane.SshSetup
