import Xcplane.Constants
import Xcplane.Types
import Xcplane.Lib.Result

/-!
The Cloudflare state of the servers: which of it the program computes from the
declaration, and which is answered by the API.
-/

namespace Xcplane.Cloudflare

open Xcplane.Types
open Xcplane.Lib

structure CFZone where
  id : String
  name : String
  accountId : String
  accountName : String
  deriving DecidableEq, Repr

/-- What the calls to the API come to in one reconciliation: the block list of
the account, and for each server its zone, the ruleset of a zone and the rule of
a ruleset. -/
structure CfAnswers where
  list : Cloud → Except BoxError String
  zone : KetServer → Except BoxError CFZone
  ruleset : KetServer → String → Except BoxError String
  rule : KetServer → String → String → Except BoxError String

def declaredInbounds (s : KetServer) : List Inbound :=
  s.inbounds.filter fun inb => inb.name != SvcKind.superName

def cloudflareOnly (s : KetServer) : Bool :=
  (declaredInbounds s).all fun inb =>
    Constants.cloudflareSports.contains inb.port && inb.kind.cloudflareCompatible

def tooDeep (domain zoneName : String) : Bool :=
  let domain := domain.toLower.toList
  let zone := zoneName.toList
  zone.isSuffixOf domain && (domain.take (domain.length - zone.length)).getLast? == some '.'

/-- The parameters of the block list, which only a proxied server needs. -/
def cfListData (cf : CfAnswers) (cfList : Option String) (s : KetServer) (cfZone : CFZone) :
    Except BoxError (Option CFListData) :=
  if s.cloudflareProxied then do
    let rulesetId ← cf.ruleset s cfZone.id
    let ruleId ← cf.rule s cfZone.id rulesetId
    match cfList with
    | none => .error "cf_list is None while it should contain Some value."
    | some listId =>
        .ok (some
          { accountName := cfZone.accountName
            accountId := cfZone.accountId
            rulesetId, ruleId, listId })
  else .ok none

def setCfState (F : Forms) (cf : CfAnswers) (cfList : Option String) (s : KetServer) :
    Except BoxError CFState := do
  let cfZone ← cf.zone s
  let listData ← cfListData cf cfList s cfZone
  .ok
    { zoneName := cfZone.name
      zoneId := cfZone.id
      tooDeep := tooDeep (F.hostText s.domain) cfZone.name
      cloudflareOnly := cloudflareOnly s
      listData }

/-- The block list that the servers of the cloud will share. A failure to get it
is only logged. -/
def sharedList (cf : CfAnswers) (cfList : Option String) (cloud : Cloud) : Option String :=
  if cloud.servers.any KetServer.cloudflareProxied then
    match cf.list cloud with
    | .ok id => some id
    | .error _ => cfList
  else cfList

def prepareCloudflareState (F : Forms) (cf : CfAnswers) (cfList : Option String)
    (cloud : Cloud) : Except BoxError Cloud := do
  let cfList := sharedList cf cfList cloud
  let servers ← cloud.servers.mapM fun s => do
    let cfstate ← setCfState F cf cfList s
    .ok { s with cfstate := some cfstate }
  .ok { cloud with servers }

/-- `s'` is `s` with its Cloudflare state computed anew. -/
structure Refreshed (s s' : KetServer) : Prop where
  same : s' = { s with cfstate := s'.cfstate }
  state : ∃ st, s'.cfstate = some st ∧ st.cloudflareOnly = cloudflareOnly s

theorem setCfState_cloudflareOnly {F : Forms} {cf : CfAnswers} {cfList : Option String}
    {s : KetServer} {st : CFState} (h : setCfState F cf cfList s = .ok st) :
    st.cloudflareOnly = cloudflareOnly s := by
  obtain ⟨zone, _, h⟩ := bind_eq_ok_iff.mp h
  obtain ⟨listData, _, h⟩ := bind_eq_ok_iff.mp h
  cases h
  rfl

theorem prepareCloudflareState_ok {F : Forms} {cf : CfAnswers} {cfList : Option String}
    {cloud cloud' : Cloud} (h : prepareCloudflareState F cf cfList cloud = .ok cloud') :
    cloud'.settings = cloud.settings ∧
      List.Forall₂ Refreshed cloud.servers cloud'.servers := by
  obtain ⟨servers, hservers, h⟩ := bind_eq_ok_iff.mp h
  cases h
  refine ⟨rfl, ?_⟩
  rw [mapM_eq_ok_iff] at hservers
  refine hservers.imp ?_
  intro s s' hs
  obtain ⟨st, hst, hs'⟩ := bind_eq_ok_iff.mp hs
  cases hs'
  exact ⟨rfl, st, rfl, setCfState_cloudflareOnly hst⟩

end Xcplane.Cloudflare
