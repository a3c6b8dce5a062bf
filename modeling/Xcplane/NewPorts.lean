import Xcplane.Playbook
import Xcplane.RebaseTriggers

/-!
The ports that a Rebase has checked before anything else: whether they are those that it
opens and does not free itself.
-/

namespace Xcplane.NewPorts

open Xcplane.Types
open Xcplane.Lib
open Xcplane.Merge
open Xcplane.RebaseDiff
open Xcplane.Deploy
open Xcplane.RebasePlan
open Xcplane.PlaybookVars
open Xcplane.Playbook
open Xcplane.RebaseTriggers

section Property

/-- SSH moves to a port other than the one of the connection. -/
def movedPort (s : KetServer) : List UInt16 :=
  if s.ansibleConn.bind AnsibleConn.ansiblePort ≠ some s.sshPort then [s.sshPort] else []

/-- The ports that the run opens. -/
def opened (run : AnsibleRun) : List UInt16 :=
  movedPort run.server ++
    (run.rebaseData.toList.flatMap RebaseData.addedInbounds).map Inbound.port

/-- The ports of the inbounds that the run deletes before it opens any port. -/
def freed (run : AnsibleRun) : List UInt16 :=
  (run.rebaseData.toList.flatMap RebaseData.removedInbounds).map Inbound.port

def PortsExact (run : AnsibleRun) (vars : AnsibleVars) : Prop :=
  ∀ port, port ∈ vars.newPorts ↔ port ∈ opened run ∧ port ∉ freed run

end Property

section Exactness

variable {F : Forms} {rebaseData : List (String × RebaseData)} {old new : KetServer}
  {source : RangeSource} {run : AnsibleRun} {vars : AnsibleVars} {port : UInt16}

theorem writeAnsibleVars_newPorts (h : writeAnsibleVars source run = .ok vars) :
    ∃ conn, run.server.ansibleConn = some conn ∧
      vars.newPorts = newPorts run.server conn ((sortUnique run.actions).contains .FullSetup)
        run.rebaseData := by
  simp only [writeAnsibleVars, bind_eq_ok_iff, okOr_eq_ok_iff] at h
  obtain ⟨_, _, conn, hconn, _, _, h⟩ := h
  cases h
  exact ⟨conn, hconn, rfl⟩

theorem started_not_fullSetup (hrun : run ∈ (startRuns F rebaseData [(old, new)]).1) :
    (sortUnique run.actions).contains .FullSetup = false := by
  obtain ⟨hplan, -, -, -⟩ := mem_startRuns_alone.mp hrun
  rw [List.contains_eq_mem, decide_eq_false_iff_not, mem_sortUnique]
  intro hsetup
  exact absurd (mem_planned hplan hsetup) (by decide)

/-- The added ports are checked unless they are freed before, the one of SSH in any
case. -/
theorem mem_newPorts_iff (hrun : run ∈ (startRuns F rebaseData [(old, new)]).1)
    (hvars : writeAnsibleVars source run = .ok vars) :
    port ∈ vars.newPorts ↔
      port ∈ movedPort run.server ∨ port ∈ opened run ∧ port ∉ freed run := by
  obtain ⟨conn, hconn, hports⟩ := writeAnsibleVars_newPorts hvars
  have hmoved : movedPort run.server =
      if conn.ansiblePort ≠ some run.server.sshPort then [run.server.sshPort] else [] := by
    rw [movedPort, hconn, Option.bind_some]
  rw [hports, started_not_fullSetup hrun]
  unfold newPorts opened freed
  rw [← hmoved, List.mem_append]
  cases run.rebaseData with
  | none => simp
  | some data =>
      simp only [Bool.false_eq_true, if_false, List.mem_filter, Bool.not_eq_true',
        List.contains_eq_mem, decide_eq_false_iff_not, Option.toList_some, List.flatMap_singleton,
        List.mem_append]
      constructor
      · rintro (hmoved | ⟨hadded, hfreed⟩)
        · exact .inl hmoved
        · exact .inr ⟨.inr hadded, hfreed⟩
      · rintro (hmoved | ⟨hmoved | hadded, hfreed⟩)
        · exact .inl hmoved
        · exact .inl hmoved
        · exact .inr ⟨hadded, hfreed⟩

/-- The run of a Rebase has checked exactly the ports it opens and does not free, unless
it moves SSH to the port of an inbound that it deletes. -/
theorem run_ports_iff (hrun : run ∈ (startRuns F rebaseData [(old, new)]).1)
    (hvars : writeAnsibleVars source run = .ok vars) :
    PortsExact run vars ↔ ∀ port ∈ movedPort run.server, port ∉ freed run := by
  constructor
  · intro hexact port hmoved
    have hchecked : port ∈ vars.newPorts := (mem_newPorts_iff hrun hvars).mpr (.inl hmoved)
    exact ((hexact port).mp hchecked).2
  · intro hkept port
    rw [mem_newPorts_iff hrun hvars]
    constructor
    · rintro (hmoved | hexact)
      · exact ⟨List.mem_append_left _ hmoved, hkept port hmoved⟩
      · exact hexact
    · exact .inr

end Exactness

section Instances

def ranges : RangeSource where
  cloudflare _ := .ok ["103.21.244.0/22"]
  blocked _ _ := .ok ["5.1.43.0-5.1.43.255"]

def both : KetServer :=
  { Specimen.alpha with
    inbounds := [Specimen.direct, Specimen.proxied, Inbound.superInbound] }

/-- The inbound `direct` makes room for another one on its port, and SSH moves. -/
def exchanged : KetServer :=
  { both with
    sshPort := 2222
    inbounds :=
      [{ Specimen.direct with name := "other" }, Specimen.proxied, Inbound.superInbound] }

/-- SSH moves to the port of the inbound `direct`, which is given up. -/
def takenOver : KetServer :=
  { both with
    sshPort := 8080
    inbounds := [Specimen.proxied, Inbound.superInbound] }

def dataFor (new : KetServer) : List (String × RebaseData) :=
  match createRebaseData Specimen.forms ⟨true⟩ Specimen.inboundOrder (Specimen.cloud [both])
      (Specimen.cloud [new]) (Specimen.iteration (Specimen.cloud [new])) with
  | .ok data => data
  | .error _ => []

def runFor (new : KetServer) : AnsibleRun where
  server := { new with ansibleConn := both.ansibleConn }
  actions := (startRuns Specimen.forms (dataFor new) [(both, new)]).1.flatMap AnsibleRun.actions
  rebaseData := (dataFor new).lookup "alpha"

def varsFor (new : KetServer) (nftops : List (NftSet × NftOp)) : AnsibleVars where
  ansibleTasks := (runFor new).actions
  fullSetup := false
  ansiblePort := some 79
  sshPort := new.sshPort
  cloudflareProxied := false
  cloudflareOnly := false
  newPorts := [new.sshPort]
  nftops

def exchangedVars : AnsibleVars :=
  varsFor exchanged
    [(.Inbound, .inbound [8080, 2053]), (.Inbound, .inbound [8080, 2053]),
      (.SshPre, .ssh [79, 2222]), (.SshPost, .ssh [2222])]

def takenOverVars : AnsibleVars :=
  varsFor takenOver
    [(.Inbound, .inbound [2053]), (.SshPre, .ssh [79, 8080]), (.SshPost, .ssh [8080])]

theorem run_ports_iff_exchanged : PortsExact (runFor exchanged) exchangedVars := by
  have hrun : runFor exchanged ∈ (startRuns Specimen.forms (dataFor exchanged)
      [(both, (runFor exchanged).server)]).1 := by decide +kernel
  have hvars : writeAnsibleVars ranges (runFor exchanged) = .ok exchangedVars := rfl
  have hmoved : movedPort (runFor exchanged).server = [2222] := rfl
  have hkept : 2222 ∉ freed (runFor exchanged) := by decide
  refine (run_ports_iff hrun hvars).mpr ?_
  intro port hport
  rw [hmoved, List.mem_singleton] at hport
  rwa [hport]

/-- SSH moves to the port of an inbound that the run deletes: the port is checked while
the inbound is still there. -/
theorem run_takenOver_inexact :
    ¬ ∀ (F : Forms) (opts : RebaseOpts) (ord : InboundOrder) (currCloud newCloud : Cloud)
      (o : Iteration newCloud) (data : List (String × RebaseData)) (old new merged : KetServer)
      (run : AnsibleRun) (source : RangeSource) (vars : AnsibleVars),
      createRebaseData F opts ord currCloud newCloud o = .ok data →
      old ∈ currCloud.servers → new ∈ newCloud.servers → rebaseMerge old new = .ok merged →
      run ∈ (startRuns F data [(old, merged)]).1 → writeAnsibleVars source run = .ok vars →
        PortsExact run vars := by
  intro h
  have hexact := h Specimen.forms ⟨true⟩ Specimen.inboundOrder (Specimen.cloud [both])
    (Specimen.cloud [takenOver]) (Specimen.iteration (Specimen.cloud [takenOver]))
    (dataFor takenOver) both takenOver (runFor takenOver).server (runFor takenOver) ranges
    takenOverVars rfl List.mem_cons_self List.mem_cons_self (by decide +kernel)
    (by decide +kernel) rfl
  exact absurd ((hexact 8080).mp (by decide)).2 (by decide)

/-- The check then fails on the inbound that the run would have deleted. -/
example :
    (Work.checkPorts takenOverVars.newPorts).perform
      { services := [443, 444, 400, 401, 8080, 2053]
        sshd := [79]
        socketPorts := [79]
        nftConf := none
        table := none } = none := by
  decide

end Instances

end Xcplane.NewPorts
