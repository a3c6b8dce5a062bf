import Xcplane.Constants
import Xcplane.Naming
import Xcplane.Types
import Xcplane.Lib.AssocMap
import Xcplane.Lib.Result

/-!
What a server computes from its own declaration: its hostnames, its service
kinds, its fresh secrets and its Ansible connection.
-/

namespace Xcplane.Server

open Xcplane.Types
open Xcplane.Lib

def svcKinds (s : KetServer) : List SvcKind :=
  [.Ssh, .Nginx] ++ s.inbounds.map fun inbound => .Xray inbound.name

def svcKindsString (s : KetServer) : List String :=
  (svcKinds s).map SvcKind.toText

section Hostnames

variable (F : Forms)

def dnshostname (s : KetServer) : String :=
  s.dnsSubdomain ++ "." ++ F.hostText s.domain

def uihostname (s : KetServer) : String :=
  s.uiSubdomain ++ "." ++ F.hostText s.domain

def subhostname (s : KetServer) : String :=
  s.subSubdomain ++ "." ++ F.hostText s.domain

/-- A derived value from a server's name, domain and subdomains, used as the
path for Nginx health checking. -/
def healthPathGen (s : KetServer) : String :=
  let domain := Naming.trim (F.hostText s.domain)
  let seed := "name=" ++ s.name ++ "|domain=" ++ domain ++ "|dsub=" ++
    s.dnsSubdomain ++ "|usub=" ++ s.uiSubdomain ++ "|ssub=" ++ s.subSubdomain
  String.ofList ((F.sha256Hex seed).toList.take 16)

def getJsub (parseUrl : String → Except BoxError String) (inbound : Inbound) (s : KetServer) :
    Except BoxError String := do
  let motherSubid ← okOr (s.secrets.motherSubid inbound.name)
    ("Mother sub-ID is absent from the secrets of server '" ++ s.name ++ "' for inbound '" ++
      inbound.name ++ "'")
  parseUrl ("https://" ++ subhostname F s ++ "/" ++ s.secrets.xuiJsubpath ++ "/" ++ motherSubid)

end Hostnames

/-- The random strings that one call of `fill_secrets` draws. -/
structure SecretDraw where
  dohEndpoint : String
  xuiUsername : String
  xuiPassword : String
  xuiWebpath : String
  xuiSubpath : String
  xuiJsubpath : String
  subid : Nat → String

/-- The mother sub-IDs of a list of inbounds, the dummy one of the supervisor
Xray included. -/
def motherSubidsGen (draw : SecretDraw) (inbounds : List Inbound) :
    List (String × String) :=
  let subids := orInsertAll [] (inbounds.zipIdx.map fun (inbound, i) =>
    (inbound.name, draw.subid i))
  orInsert subids SvcKind.superName SvcKind.superName

def fillSecrets (F : Forms) (draw : SecretDraw) (s : KetServer) : KetServer :=
  { s with
    secrets :=
      { healthPath := healthPathGen F s
        dohEndpoint := draw.dohEndpoint
        xuiUsername := draw.xuiUsername
        xuiPassword := draw.xuiPassword
        xuiToken := none
        xuiWebpath := draw.xuiWebpath
        xuiSubpath := draw.xuiSubpath
        xuiJsubpath := draw.xuiJsubpath
        motherSubids := motherSubidsGen draw s.inbounds } }

def buildInventory (F : Forms) (s : KetServer) : KetServer :=
  { s with
    ansibleConn := some
      { ansibleHost := some (F.ipText s.ip)
        ansiblePort :=
          match s.state with
          | .Offgrid => some Constants.ansiblePort
          | .Production => some s.sshPort
        ansibleUser := some Constants.rootUser
        ansibleConnection := none } }

theorem motherSubidsGen_isSome (draw : SecretDraw) (inbounds : List Inbound) (name : String) :
    ((motherSubidsGen draw inbounds).lookup name).isSome = true ↔
      name = SvcKind.superName ∨ name ∈ inbounds.map Inbound.name := by
  have hfilled : ((orInsertAll [] (inbounds.zipIdx.map fun (inbound, i) =>
      (inbound.name, draw.subid i))).lookup name).isSome = true ↔
        name ∈ inbounds.map Inbound.name := by
    rw [lookup_orInsertAll, List.lookup_nil, Option.none_or, lookup_isSome_iff, List.map_map]
    have hnames : inbounds.zipIdx.map (Prod.fst ∘ fun p : Inbound × Nat =>
        (p.1.name, draw.subid p.2)) = inbounds.map Inbound.name := by
      conv_rhs => rw [← List.zipIdx_map_fst 0 inbounds, List.map_map]
      rfl
    rw [hnames]
  rw [motherSubidsGen, lookup_orInsert, Option.isSome_or, Bool.or_eq_true, hfilled]
  by_cases hname : name = SvcKind.superName
  · simp [hname]
  · simp [hname]

end Xcplane.Server
