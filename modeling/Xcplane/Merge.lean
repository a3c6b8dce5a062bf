import Xcplane.Types
import Xcplane.Lib.AssocMap
import Xcplane.Lib.Result

/-!
Merging the two declarations of a server that is in both clouds, in each of the
reconciliation modes.
-/

namespace Xcplane.Merge

open Xcplane.Types
open Xcplane.Lib

inductive ReconMode
  | Reload
  | Remap
  | Rebase
  deriving DecidableEq, Repr

/-- The text of a set of inbound names and ports in an error message, in the
order in which the inbounds are declared. -/
def inboundSetText (inbounds : List Inbound) : String :=
  String.intercalate ", " (inbounds.map fun inb =>
    "(" ++ inb.name.quote ++ ", " ++ toString inb.port ++ ")")

def coveredBy (inboundSet inbounds : List Inbound) : Bool :=
  inbounds.all fun inb =>
    inboundSet.any fun set => set.name == inb.name && set.port == inb.port

def reloadMerge (inboundSet : List Inbound) (old new : KetServer) :
    Except BoxError KetServer :=
  match old.state, new.state with
  | .Offgrid, .Offgrid => .ok new
  | _, _ => do
      let serverInbounds := old.inbounds.filter fun inb => inb.name != SvcKind.superName
      ensure (coveredBy inboundSet serverInbounds)
        ("[ Reload ] The existing server '" ++ old.name ++ "' has inbound names that " ++
          "are not defined in the new cloud inbound-set. You must add the missing ones. " ++
          "The server's inbounds: \x7b" ++ inboundSetText serverInbounds ++ "\x7d")
      .ok { old with enabled := new.enabled }

def remapMerge (old new : KetServer) : KetServer :=
  { new with secrets := old.secrets }

/-- The secrets after a remote reconciliation: only the health path and the map
of mother sub-IDs may differ from the old ones. -/
def rebasedSecrets (old new : KetServer) : Secrets :=
  { old.secrets with
    healthPath := new.secrets.healthPath
    motherSubids := orInsertAll old.secrets.motherSubids new.secrets.motherSubids }

def rebaseMerge (old new : KetServer) : Except BoxError KetServer :=
  match new.enabled, old.state, new.state with
  | true, .Production, .Production =>
      match new.ansibleConn, old.ansibleConn with
      | none, _ => .error "Couldn't unwrap new AnsibleConn for a Rebase."
      | some _, none => .error "Couldn't unwrap old AnsibleConn for a Rebase."
      | some newConn, some oldConn =>
          .ok
            { new with
              secrets := rebasedSecrets old new
              ansibleConn := some { oldConn with ansibleHost := newConn.ansibleHost } }
  | false, .Production, .Production => .ok { old with enabled := false }
  | _, _, .Offgrid => .ok (remapMerge old new)
  | _, .Offgrid, .Production =>
      .error ("'" ++ old.name ++ "' is not provisioned yet. Rebase to Production is invalid.")

def mergeServer (mode : ReconMode) (inboundSet : List Inbound) (old new : KetServer) :
    Except BoxError KetServer :=
  match mode with
  | .Reload => reloadMerge inboundSet old new
  | .Remap => .ok (remapMerge old new)
  | .Rebase => rebaseMerge old new

def keepsOld (mode : ReconMode) (old new : KetServer) : Bool :=
  match mode, new.enabled, old.state, new.state with
  | .Reload, _, .Offgrid, .Offgrid => false
  | .Reload, _, _, _ => true
  | .Rebase, false, .Production, .Production => true
  | _, _, _, _ => false

def remaps (mode : ReconMode) (new : KetServer) : Bool :=
  mode = .Remap || (mode = .Rebase && new.state = .Offgrid)

/-- The mode reconfigures the remote server. -/
def rebases (mode : ReconMode) (old new : KetServer) : Bool :=
  mode = .Rebase && new.enabled && old.state = .Production && new.state = .Production

/-- The ways a merge can end, each with the server it gives. -/
inductive Merged (mode : ReconMode) (old new : KetServer) : KetServer → Prop
  | replaced (hmode : mode = .Reload) (hold : old.state = .Offgrid)
      (hnew : new.state = .Offgrid) : Merged mode old new new
  | kept (h : keepsOld mode old new = true) :
      Merged mode old new { old with enabled := new.enabled }
  | remapped (h : remaps mode new = true) : Merged mode old new (remapMerge old new)
  | rebased (h : rebases mode old new = true) (newConn oldConn : AnsibleConn)
      (hnewConn : new.ansibleConn = some newConn) (holdConn : old.ansibleConn = some oldConn) :
      Merged mode old new
        { new with
          secrets := rebasedSecrets old new
          ansibleConn := some { oldConn with ansibleHost := newConn.ansibleHost } }

theorem reloadMerge_ok {inboundSet : List Inbound} {old new merged : KetServer}
    (h : reloadMerge inboundSet old new = .ok merged) : Merged .Reload old new merged := by
  unfold reloadMerge at h
  split at h
  · rename_i hold hnew
    cases h
    exact .replaced rfl hold hnew
  · rename_i hstates
    obtain ⟨_, h⟩ := ensure_bind_eq_ok_iff.mp h
    cases h
    refine .kept ?_
    unfold keepsOld
    split <;> simp_all

theorem rebaseMerge_ok {old new merged : KetServer} (h : rebaseMerge old new = .ok merged) :
    Merged .Rebase old new merged := by
  unfold rebaseMerge at h
  split at h
  · rename_i henabled hold hnew
    split at h
    · cases h
    · cases h
    · rename_i newConn oldConn hnewConn holdConn
      cases h
      exact .rebased (by simp [rebases, henabled, hold, hnew]) newConn oldConn hnewConn holdConn
  · rename_i henabled hold hnew
    cases h
    have hkeeps : keepsOld .Rebase old new = true := by simp [keepsOld, henabled, hold, hnew]
    have hkept := Merged.kept hkeeps
    rwa [henabled] at hkept
  · rename_i hnew
    cases h
    exact .remapped (by simp [remaps, hnew])
  · cases h

theorem mergeServer_ok {mode : ReconMode} {inboundSet : List Inbound}
    {old new merged : KetServer} (h : mergeServer mode inboundSet old new = .ok merged) :
    Merged mode old new merged := by
  cases mode with
  | Reload => exact reloadMerge_ok h
  | Remap =>
      cases h
      exact .remapped rfl
  | Rebase => exact rebaseMerge_ok h

theorem rebasedSecrets_motherSubid (old new : KetServer) (n : String) :
    (rebasedSecrets old new).motherSubid n =
      (old.secrets.motherSubid n).or (new.secrets.motherSubid n) :=
  lookup_orInsertAll _ _ _

section Merged

variable {mode : ReconMode} {old new merged : KetServer}

theorem keepsOld_eq_false_of_remaps (h : remaps mode new = true) :
    keepsOld mode old new = false := by
  unfold keepsOld
  split <;> simp_all [remaps]

theorem keepsOld_eq_false_of_rebases (h : rebases mode old new = true) :
    keepsOld mode old new = false := by
  unfold keepsOld
  split <;> simp_all [rebases]

theorem keepsOld_rebase_iff : keepsOld .Rebase old new = true ↔
    new.enabled = false ∧ old.state = .Production ∧ new.state = .Production := by
  unfold keepsOld
  split <;> simp_all

theorem remaps_iff : remaps mode new = true ↔
    mode = .Remap ∨ (mode = .Rebase ∧ new.state = .Offgrid) := by
  simp [remaps]

theorem rebases_iff : rebases mode old new = true ↔
    mode = .Rebase ∧ new.enabled = true ∧ old.state = .Production ∧ new.state = .Production := by
  simp [rebases, and_assoc]

theorem Merged.eq_of_keepsOld (h : Merged mode old new merged)
    (hkeeps : keepsOld mode old new = true) :
    merged = { old with enabled := new.enabled } := by
  cases h with
  | replaced hmode hold hnew => simp [keepsOld, hmode, hold, hnew] at hkeeps
  | kept => rfl
  | remapped h =>
      rw [keepsOld_eq_false_of_remaps h] at hkeeps
      cases hkeeps
  | rebased h =>
      rw [keepsOld_eq_false_of_rebases h] at hkeeps
      cases hkeeps

theorem Merged.eq_of_remaps (h : Merged mode old new merged) (hremap : remaps mode new = true) :
    merged = remapMerge old new := by
  cases h with
  | replaced hmode => simp [remaps, hmode] at hremap
  | kept hkeeps =>
      rw [keepsOld_eq_false_of_remaps hremap] at hkeeps
      cases hkeeps
  | remapped => rfl
  | rebased hrebases =>
      obtain ⟨hmode, _, _, hstate⟩ := rebases_iff.mp hrebases
      rcases remaps_iff.mp hremap with hmode' | ⟨_, hstate'⟩
      · rw [hmode] at hmode'
        cases hmode'
      · rw [hstate] at hstate'
        cases hstate'

theorem Merged.unique {merged' : KetServer} (h : Merged mode old new merged)
    (h' : Merged mode old new merged') : merged = merged' := by
  cases h with
  | kept hkeeps => exact (h'.eq_of_keepsOld hkeeps).symm
  | remapped hremaps => exact (h'.eq_of_remaps hremaps).symm
  | replaced hmode hold hnew =>
      cases h' with
      | replaced => rfl
      | kept hkeeps => simp [keepsOld, hmode, hold, hnew] at hkeeps
      | remapped hremaps => simp [remaps, hmode] at hremaps
      | rebased hrebases => simp [rebases, hmode] at hrebases
  | rebased hrebases newConn oldConn hnewConn holdConn =>
      have hkept := keepsOld_eq_false_of_rebases hrebases
      cases h' with
      | replaced hmode => simp [rebases, hmode] at hrebases
      | kept hkeeps => simp [hkept] at hkeeps
      | remapped hremaps =>
          exact Merged.eq_of_remaps (.rebased hrebases newConn oldConn hnewConn holdConn) hremaps
      | rebased _ newConn' oldConn' hnewConn' holdConn' =>
          rw [hnewConn, Option.some.injEq] at hnewConn'
          rw [holdConn, Option.some.injEq] at holdConn'
          rw [hnewConn', holdConn']

theorem Merged.sshPort_of_rebases (h : Merged mode old new merged)
    (hrebases : rebases mode old new = true) : merged.sshPort = new.sshPort := by
  cases h with
  | replaced => rfl
  | kept hkeeps =>
      rw [keepsOld_eq_false_of_rebases hrebases] at hkeeps
      cases hkeeps
  | remapped => rfl
  | rebased => rfl

theorem Merged.name (h : Merged mode old new merged) (hname : old.name = new.name) :
    merged.name = new.name := by
  cases h with
  | replaced => rfl
  | kept => exact hname
  | remapped => rfl
  | rebased => rfl

theorem Merged.inbounds (h : Merged mode old new merged) :
    merged.inbounds = old.inbounds ∨ merged.inbounds = new.inbounds := by
  cases h with
  | replaced => exact .inr rfl
  | kept => exact .inl rfl
  | remapped => exact .inr rfl
  | rebased => exact .inr rfl

/-- The side whose domain and IP the merged server carries. -/
theorem Merged.address (h : Merged mode old new merged) :
    merged.domain = (if keepsOld mode old new then old else new).domain ∧
      merged.ip = (if keepsOld mode old new then old else new).ip := by
  cases h with
  | replaced hmode hold hnew =>
      subst hmode
      simp [keepsOld, hold, hnew]
  | kept h => simp [h]
  | remapped h => simp [keepsOld_eq_false_of_remaps h, remapMerge]
  | rebased h => simp [keepsOld_eq_false_of_rebases h]

end Merged

end Xcplane.Merge
