import Xcplane.Cloudflare
import Xcplane.WellFormedConfig

/-!
The ports of the services of one server: which of them the parser of the configuration
keeps apart.
-/

namespace Xcplane.ServicePorts

open Xcplane.Types
open Xcplane.Lib
open Xcplane.Server
open Xcplane.CloudConfig
open Xcplane.Cloudflare

section Property

/-- The ports with one service each on every server. -/
def dedicatedPorts : List UInt16 :=
  [Constants.nginxPort, Constants.uiPort, Constants.subPort, Constants.unboundPort]

/-- The ports that the services of a server are configured on. -/
def servicePorts (s : KetServer) : List UInt16 :=
  s.sshPort :: dedicatedPorts ++ (declaredInbounds s).map Inbound.port

end Property

section Accepted

variable {F : Forms} {draws : Nat → SecretDraw} {t : TCloud} {c : Cloud} {s : KetServer}

/-- The ports of the inbounds differ from each other and from the reserved ones. -/
structure PortsApart (inbounds : List Inbound) : Prop where
  nodup : (inbounds.map Inbound.port).Nodup
  reserved : ∀ p ∈ Constants.reservedPorts, p ∉ inbounds.map Inbound.port

theorem declaredInbounds_sublist (s : KetServer) :
    (declaredInbounds (withSuper s)).Sublist s.inbounds := by
  have hfilter : declaredInbounds (withSuper s) =
      s.inbounds.filter fun inb => inb.name != SvcKind.superName := by
    simp [declaredInbounds, withSuper]
  rw [hfilter]
  exact List.filter_sublist

theorem PortsApart.sublist {l l' : List Inbound} (h : PortsApart l) (hsub : l'.Sublist l) :
    PortsApart l' where
  nodup := h.nodup.sublist (hsub.map _)
  reserved p hp hmem := h.reserved p hp ((hsub.map _).subset hmem)

/-- The inbounds that a server of an accepted configuration declares do not get in each
other's way, nor in the way of the dedicated ports. -/
theorem parseCloudConfig_portsApart (h : parseCloudConfig F draws t = .ok c)
    (hs : s ∈ c.servers) : PortsApart (declaredInbounds s) := by
  obtain ⟨p, rfl, hsound⟩ := WellFormedConfig.sound_of_parse h hs
  have hapart : PortsApart p.inbounds := ⟨hsound.inbounds.ports, hsound.inbounds.unreserved⟩
  exact hapart.sublist (declaredInbounds_sublist p)

/-- On a server of an accepted configuration only SSH can be on the port of another
service. -/
theorem parseCloudConfig_servicePorts_iff (h : parseCloudConfig F draws t = .ok c)
    (hs : s ∈ c.servers) :
    (servicePorts s).Nodup ↔
      s.sshPort ∉ dedicatedPorts ∧ ∀ inb ∈ declaredInbounds s, inb.port ≠ s.sshPort := by
  have hapart := parseCloudConfig_portsApart h hs
  have hdedicated : dedicatedPorts ⊆ Constants.reservedPorts := by decide
  have hothers : (dedicatedPorts ++ (declaredInbounds s).map Inbound.port).Nodup := by
    rw [List.nodup_append']
    refine ⟨by decide, hapart.nodup, ?_⟩
    intro p hp hmem
    exact hapart.reserved p (hdedicated hp) hmem
  rw [servicePorts, List.cons_append, List.nodup_cons, List.mem_append, not_or, List.mem_map]
  simp [hothers]

end Accepted

section Instances

open Xcplane.Specimen

/-- What the parser makes of `alpha` with another SSH port. -/
def parsedAlpha (port : UInt16) : KetServer :=
  { alpha with
    sshPort := port
    ansibleConn := some (conn "1.1.1.1" port)
    secrets := drawnSecrets [("direct", "id2"), ("super", "super")] }

def declaredAlpha (port : UInt16) : TCloud :=
  declared [{ alpha with sshPort := port, inbounds := [direct] }]

theorem parseCloudConfig_servicePorts_iff_default : (servicePorts (parsedAlpha 79)).Nodup := by
  have hparse : parseCloudConfig forms draws (declaredAlpha 79) = .ok (cloud [parsedAlpha 79]) :=
    rfl
  exact (parseCloudConfig_servicePorts_iff hparse List.mem_cons_self).mpr (by decide)

/-- Nothing keeps SSH off the port of Nginx. -/
theorem parseCloudConfig_sshPort_shared :
    ¬ ∀ (F : Forms) (draws : Nat → SecretDraw) (t : TCloud) (c : Cloud) (s : KetServer),
      parseCloudConfig F draws t = .ok c → s ∈ c.servers → (servicePorts s).Nodup := by
  intro h
  have hnodup := h forms draws (declaredAlpha 443) (cloud [parsedAlpha 443]) (parsedAlpha 443)
    rfl List.mem_cons_self
  exact absurd hnodup (by decide)

/-- Nor off the port of an inbound. -/
example : ¬ (servicePorts (parsedAlpha 8080)).Nodup := by decide

end Instances

end Xcplane.ServicePorts
