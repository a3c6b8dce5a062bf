import Xcplane.CloudflareZones
import Xcplane.Lib.Creations
import Xcplane.Lib.KeyedTable

/-!
The block list, the rulesets and the rules that the reconciliations find or create at
Cloudflare. The API is a store that answers with what was written; any request may fail,
with or without having taken effect.
-/

namespace Xcplane.CloudflareAccount

open Xcplane.Types
open Xcplane.Lib
open Xcplane.Lib.Utf8
open Xcplane.Cloudflare
open Xcplane.CloudflareZones

section Store

structure CFList where
  id : String
  name : String
  description : String
  kind : String
  numItems : Nat
  deriving DecidableEq, Repr

structure CFRule where
  id : String
  action : String
  description : String
  enabled : Bool
  expression : String
  deriving DecidableEq, Repr

structure CFRuleSet where
  id : String
  kind : String
  name : String
  phase : String
  rules : List CFRule
  deriving DecidableEq, Repr

structure CFGetResponse (α : Type) where
  result : List α
  success : Bool

/-- What the API created: a list for an account, or a ruleset or a rule for a zone. -/
inductive Creation
  | list (accountId : String)
  | ruleset (zoneId : String)
  | rule (zoneId : String)
  deriving DecidableEq, Repr

def Creation.isList : Creation → Bool
  | .list _ => true
  | _ => false

/-- What the API keeps, with what it created in the order of its creation. -/
structure Store where
  zones : List CFZone
  lists : String → List CFList
  rulesets : String → KeyedTable CFRuleSet.id
  audit : List Creation

/-- How the API comes to the id of what it creates. -/
structure IdSource where
  next : List String → String
  fresh : ∀ taken, next taken ∉ taken

/-- What becomes of a request: its answer, a failure before it took effect, or one after. -/
inductive Fate
  | answered
  | refused (e : BoxError)
  | lost (e : BoxError)
  deriving DecidableEq, Repr

structure World where
  store : Store
  fates : List Fate

abbrev Api := EStateM BoxError World

end Store

section Requests

variable {α : Type} (ids : IdSource)

/-- A request whose fate is the next one, and which is answered where none is left. -/
def request (effect : Store → Except BoxError (α × Store)) : Api α := fun w =>
  let fates := w.fates.tail
  match w.fates.headD .answered, effect w.store with
  | .refused e, _ => .error e { store := w.store, fates }
  | .lost e, .ok (_, store) => .error e { store, fates }
  | _, .error e => .error e { store := w.store, fates }
  | .answered, .ok (a, store) => .ok a { store, fates }

def getZones : Api (CFGetResponse CFZone) :=
  request fun st => .ok ({ result := st.zones, success := true }, st)

def getLists (accountId : String) : Api (CFGetResponse CFList) :=
  request fun st => .ok ({ result := st.lists accountId, success := true }, st)

def getRulesets (zoneId : String) : Api (CFGetResponse CFRuleSet) :=
  request fun st => .ok ({ result := (st.rulesets zoneId).rows, success := true }, st)

def getRuleset (zoneId rulesetId : String) : Api CFRuleSet :=
  request fun st =>
    match (st.rulesets zoneId).find rulesetId with
    | some ruleset => .ok (ruleset, st)
    | none => .error "404 Not Found"

def Store.addList (st : Store) (accountId : String) (list : CFList) : Store :=
  { st with
    lists := Function.update st.lists accountId (st.lists accountId ++ [list])
    audit := st.audit ++ [.list accountId] }

def Store.putRuleset (st : Store) (zoneId : String) (ruleset : CFRuleSet) (e : Creation) :
    Store :=
  { st with
    rulesets := Function.update st.rulesets zoneId ((st.rulesets zoneId).upsert ruleset)
    audit := st.audit ++ [e] }

def postList (accountId name description kind : String) : Api CFList :=
  request fun st =>
    let id := ids.next ((st.lists accountId).map CFList.id)
    let list : CFList := { id, name, description, kind, numItems := 0 }
    .ok (list, st.addList accountId list)

def postRuleset (zoneId name kind phase : String) : Api CFRuleSet :=
  request fun st =>
    let id := ids.next ((st.rulesets zoneId).rows.map CFRuleSet.id)
    let ruleset : CFRuleSet := { id, kind, name, phase, rules := [] }
    .ok (ruleset, st.putRuleset zoneId ruleset (.ruleset zoneId))

/-- It answers with the ruleset that the rule was added to. -/
def postRule (zoneId rulesetId action expression description : String) (enabled : Bool) :
    Api CFRuleSet :=
  request fun st =>
    match (st.rulesets zoneId).find rulesetId with
    | some ruleset =>
        let id := ids.next (ruleset.rules.map CFRule.id)
        let rule : CFRule := { id, action, description, enabled, expression }
        let ruleset := { ruleset with rules := ruleset.rules ++ [rule] }
        .ok (ruleset, st.putRuleset zoneId ruleset (.rule zoneId))
    | none => .error "404 Not Found"

end Requests

section Program

variable (T : CaseTables) (F : Forms) (ids : IdSource)

def isOurList (list : CFList) : Bool :=
  list.description == "xcplane-managed blocklist" && list.kind == "ip"

def isOurRuleset (ruleset : CFRuleSet) : Bool :=
  ruleset.kind == "zone" && ruleset.phase == "http_request_firewall_custom"

def isOurRule (rule : CFRule) : Bool :=
  rule.action == "block" && rule.description == "xcplane-managed fail2ban rule" && rule.enabled

def getCfZone (s : KetServer) : Api CFZone := do
  let response ← getZones
  ofExcept (CloudflareZones.getCfZone T (.ok response.result) (F.hostText s.domain))

def getCfRuleset (zoneId : String) : Api String := do
  let cfRulesets ← getRulesets zoneId
  match cfRulesets.result.find? isOurRuleset with
  | some ruleset => pure ruleset.id
  | none => do
      let ruleset ← postRuleset ids zoneId "xcplane" "zone" "http_request_firewall_custom"
      pure ruleset.id

def getCfRule (s : KetServer) (zoneId rulesetId : String) : Api String := do
  let cfRuleset ← getRuleset zoneId rulesetId
  match cfRuleset.rules.find? isOurRule with
  | some rule => pure rule.id
  | none => do
      let cfRuleset ← postRule ids zoneId rulesetId "block" "(ip.src in $xcplane)"
        "xcplane-managed fail2ban rule" true
      let rule ← ofExcept (okOr (cfRuleset.rules.find? isOurRule)
        ("Couldn't create a fail2ban rule for Cloudflare-proxied server '" ++ s.name ++ "'"))
      pure rule.id

/-- The parameters of the block list, which only a proxied server needs. -/
def listData (cfList : Option String) (s : KetServer) (cfZone : CFZone) :
    Api (Option CFListData) :=
  if s.cloudflareProxied then do
    let rulesetId ← getCfRuleset ids cfZone.id
    let ruleId ← getCfRule ids s cfZone.id rulesetId
    let listId ← ofExcept (okOr cfList "cf_list is None while it should contain Some value.")
    pure (some
      { accountName := cfZone.accountName
        accountId := cfZone.accountId
        rulesetId, ruleId, listId })
  else pure none

def stateOf (s : KetServer) (cfZone : CFZone) (listData : Option CFListData) : CFState :=
  { zoneName := cfZone.name
    zoneId := cfZone.id
    tooDeep := CloudflareZones.tooDeep T (F.hostText s.domain) cfZone.name
    cloudflareOnly := cloudflareOnly s
    listData }

/-- The state that is stored. -/
def setCfState (cfList : Option String) (s : KetServer) : Api CFState := do
  let cfZone ← getCfZone T F s
  let data ← listData ids cfList s cfZone
  pure (stateOf T F s cfZone data)

def prepareCfList (cloud : Cloud) : Api String :=
  match cloud.servers with
  | [] => throw "index out of bounds: the len is 0 but the index is 0"
  | s :: _ => do
      let cfzone ← getCfZone T F s
      let cfLists ← getLists cfzone.accountId
      match cfLists.result.find? fun list => isOurList list && cfLists.success with
      | some list => pure list.id
      | none => do
          let list ← postList ids cfzone.accountId "xcplane" "xcplane-managed blocklist" "ip"
          pure list.id

/-- The servers as they stand when all of them have their state, or at the first error. -/
def setStates (cfList : Option String) :
    List KetServer → World → Except BoxError Unit × List KetServer × World
  | [], w => (.ok (), [], w)
  | s :: rest, w =>
      match setCfState T F ids cfList s w with
      | .error e w => (.error e, s :: rest, w)
      | .ok st w =>
          let (result, rest, w) := setStates cfList rest w
          (result, { s with cfstate := some st } :: rest, w)

structure Prepared where
  result : Except BoxError Unit
  cloud : Cloud
  cfList : Option String
  world : World

/-- A failure to get the block list is only logged. -/
def prepareList (cfList : Option String) (cloud : Cloud) (w : World) : Option String × World :=
  if cloud.servers.any KetServer.cloudflareProxied then
    match prepareCfList T F ids cloud w with
    | .ok id w => (some id, w)
    | .error _ w => (cfList, w)
  else (cfList, w)

def prepareCloudflareState (cfList : Option String) (cloud : Cloud) (w : World) : Prepared :=
  let (cfList, w) := prepareList T F ids cfList cloud w
  let (result, servers, world) := setStates T F ids cfList cloud.servers w
  { result, cloud := { cloud with servers }, cfList, world }

end Program

section Creations

def ourList (st : Store) (accountId : String) : Option CFList :=
  (st.lists accountId).find? isOurList

def ourRuleset (st : Store) (zoneId : String) : Option CFRuleSet :=
  (st.rulesets zoneId).rows.find? isOurRuleset

def ourRule (st : Store) (zoneId : String) : Option CFRule :=
  (ourRuleset st zoneId).bind fun ruleset => ruleset.rules.find? isOurRule

/-- What would be created is there already. -/
def present (st : Store) : Creation → Bool
  | .list accountId => (ourList st accountId).isSome
  | .ruleset zoneId => (ourRuleset st zoneId).isSome
  | .rule zoneId => (ourRule st zoneId).isSome

/-- The creation of something allowed, where it is missing. -/
inductive Made (allowed : Creation → Prop) : Store → Creation → Store → Prop
  | list {st : Store} {accountId : String} {list : CFList} :
      allowed (.list accountId) → ourList st accountId = none → isOurList list = true →
        Made allowed st (.list accountId) (st.addList accountId list)
  | ruleset {st : Store} {zoneId : String} {ruleset : CFRuleSet} :
      allowed (.ruleset zoneId) → ourRuleset st zoneId = none → isOurRuleset ruleset = true →
        ruleset.id ∉ (st.rulesets zoneId).rows.map CFRuleSet.id →
        Made allowed st (.ruleset zoneId) (st.putRuleset zoneId ruleset (.ruleset zoneId))
  | rule {st : Store} {zoneId : String} {ruleset : CFRuleSet} {rule : CFRule} :
      allowed (.rule zoneId) → ourRuleset st zoneId = some ruleset →
        ruleset.rules.find? isOurRule = none → isOurRule rule = true →
        Made allowed st (.rule zoneId) (st.putRuleset zoneId
          { ruleset with rules := ruleset.rules ++ [rule] } (.rule zoneId))

variable {allowed : Creation → Prop} {st st' : Store} {e : Creation}
  {accountId accountId' zoneId zoneId' : String} {list : CFList} {ruleset ruleset' : CFRuleSet}
  {rule : CFRule}

theorem Made.audit (h : Made allowed st e st') : st'.audit = st.audit ++ [e] := by
  cases h <;> rfl

theorem Made.zones (h : Made allowed st e st') : st'.zones = st.zones := by
  cases h <;> rfl

theorem lists_addList : (st.addList accountId list).lists =
    Function.update st.lists accountId (st.lists accountId ++ [list]) := rfl

theorem rulesets_putRuleset : (st.putRuleset zoneId ruleset e).rulesets =
    Function.update st.rulesets zoneId ((st.rulesets zoneId).upsert ruleset) := rfl

theorem ourList_addList_self (hnone : ourList st accountId = none) (hours : isOurList list = true) :
    ourList (st.addList accountId list) accountId = some list := by
  rw [ourList] at hnone
  rw [ourList, lists_addList, Function.update_self, List.find?_append, hnone, Option.none_or,
    List.find?_cons_of_pos hours]

theorem ourRuleset_putRuleset_fresh (hnone : ourRuleset st zoneId = none)
    (hours : isOurRuleset ruleset = true)
    (hfresh : ruleset.id ∉ (st.rulesets zoneId).rows.map CFRuleSet.id) :
    ourRuleset (st.putRuleset zoneId ruleset e) zoneId = some ruleset := by
  rw [ourRuleset] at hnone
  rw [ourRuleset, rulesets_putRuleset, Function.update_self, KeyedTable.rows_upsert,
    KeyedTable.upsertRows_of_fresh hfresh, List.find?_append, hnone, Option.none_or,
    List.find?_cons_of_pos hours]

theorem isOurRuleset_of_ourRuleset (h : ourRuleset st zoneId = some ruleset) :
    isOurRuleset ruleset = true :=
  List.find?_some h

theorem ourRuleset_putRuleset_again (h : ourRuleset st zoneId = some ruleset)
    (rules : List CFRule) :
    ourRuleset (st.putRuleset zoneId { ruleset with rules } e) zoneId =
      some { ruleset with rules } := by
  have hkind : isOurRuleset ruleset = true := isOurRuleset_of_ourRuleset h
  rw [ourRuleset, rulesets_putRuleset, Function.update_self]
  exact KeyedTable.find?_upsertRows (st.rulesets zoneId).keys_nodup h rfl hkind

theorem ourRuleset_putRuleset_of_ne (hne : zoneId' ≠ zoneId) :
    ourRuleset (st.putRuleset zoneId ruleset e) zoneId' = ourRuleset st zoneId' := by
  rw [ourRuleset, rulesets_putRuleset, Function.update_of_ne hne]
  rfl

theorem Made.ourList (h : Made allowed st e st') (hlist : ourList st accountId = some list) :
    ourList st' accountId = some list := by
  cases h with
  | @list accountId' list' _ hnone _ =>
      by_cases heq : accountId = accountId'
      · subst heq
        rw [hlist] at hnone
        cases hnone
      · rw [CloudflareAccount.ourList, lists_addList, Function.update_of_ne heq]
        exact hlist
  | ruleset _ _ _ _ => exact hlist
  | rule _ _ _ _ => exact hlist

/-- A ruleset may get a rule, behind those it has. -/
theorem Made.ourRuleset (h : Made allowed st e st') (hours : ourRuleset st zoneId = some ruleset) :
    ∃ rules, ourRuleset st' zoneId = some { ruleset with rules := ruleset.rules ++ rules } := by
  cases h with
  | list _ _ _ => exact ⟨[], by rw [List.append_nil]; exact hours⟩
  | @ruleset zoneId' _ _ hnone _ _ =>
      by_cases heq : zoneId = zoneId'
      · subst heq
        rw [hours] at hnone
        cases hnone
      · exact ⟨[], by rw [List.append_nil, ourRuleset_putRuleset_of_ne heq]; exact hours⟩
  | @rule zoneId' ruleset' rule _ hours' _ _ =>
      by_cases heq : zoneId = zoneId'
      · subst heq
        obtain rfl := Option.some.inj (hours.symm.trans hours')
        exact ⟨[rule], ourRuleset_putRuleset_again hours _⟩
      · exact ⟨[], by rw [List.append_nil, ourRuleset_putRuleset_of_ne heq]; exact hours⟩

theorem Made.ourRule (h : Made allowed st e st') (hrule : ourRule st zoneId = some rule) :
    ourRule st' zoneId = some rule := by
  obtain ⟨ruleset, hours, hfind⟩ := Option.bind_eq_some_iff.mp hrule
  obtain ⟨rules, hours'⟩ := h.ourRuleset hours
  rw [CloudflareAccount.ourRule, hours']
  show (ruleset.rules ++ rules).find? isOurRule = some rule
  rw [List.find?_append, hfind, Option.some_or]

theorem Made.keeps {e' : Creation} (h : Made allowed st e st') (hpresent : present st e' = true) :
    present st' e' = true := by
  cases e' with
  | list accountId =>
      obtain ⟨list, hlist⟩ := Option.isSome_iff_exists.mp hpresent
      exact Option.isSome_iff_exists.mpr ⟨list, h.ourList hlist⟩
  | ruleset zoneId =>
      obtain ⟨ruleset, hours⟩ := Option.isSome_iff_exists.mp hpresent
      obtain ⟨rules, hours'⟩ := h.ourRuleset hours
      exact Option.isSome_iff_exists.mpr ⟨_, hours'⟩
  | rule zoneId =>
      obtain ⟨rule, hrule⟩ := Option.isSome_iff_exists.mp hpresent
      exact Option.isSome_iff_exists.mpr ⟨rule, h.ourRule hrule⟩

theorem Made.missing (h : Made allowed st e st') : ¬ present st e = true := by
  cases h with
  | list _ hnone _ => simp [present, hnone]
  | ruleset _ hnone _ _ => simp [present, hnone]
  | rule _ hours hnone _ => simp [present, CloudflareAccount.ourRule, hours, hnone]

theorem Made.there (h : Made allowed st e st') : present st' e = true := by
  cases h with
  | list _ hnone hours => simp [present, ourList_addList_self hnone hours]
  | ruleset _ hnone hours hfresh => simp [present, ourRuleset_putRuleset_fresh hnone hours hfresh]
  | rule _ hours hnone hrule =>
      simp [present, CloudflareAccount.ourRule, ourRuleset_putRuleset_again hours,
        List.find?_append, hnone, hrule]

/-- Nothing is created twice. -/
theorem count_le_one {es : List Creation} (h : Makes (Made allowed) st es st') (e : Creation) :
    es.countP (· == e) ≤ 1 := by
  have hkeep : ∀ st e' st', Made allowed st e' st' → present st e = true →
      present st' e = true := fun _ _ _ hmade => hmade.keeps
  refine Makes.countP_le_one hkeep ?_ ?_ h
  · intro st e' st' hmade heq
    rw [← beq_iff_eq.mp heq]
    exact hmade.missing
  · intro st e' st' hmade heq
    rw [← beq_iff_eq.mp heq]
    exact hmade.there

theorem makes_audit {es : List Creation} (h : Makes (Made allowed) st es st') :
    st'.audit = st.audit ++ es := by
  induction h with
  | nil st => rw [List.append_nil]
  | cons hmade _ ih => rw [ih, hmade.audit, List.append_assoc, List.singleton_append]

end Creations

end Xcplane.CloudflareAccount
