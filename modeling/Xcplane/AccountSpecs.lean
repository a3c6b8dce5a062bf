import Xcplane.CloudflareAccount

/-!
What each request to Cloudflare creates, returns and leaves in the store, and when it
can fail.
-/

namespace Xcplane.CloudflareAccount

open Xcplane.Types
open Xcplane.Lib
open Xcplane.Lib.Utf8
open Xcplane.Cloudflare
open Xcplane.CloudflareZones

section Specs

variable {T : CaseTables} {F : Forms} {ids : IdSource} {allowed : Creation → Prop} {quiet : Prop}
  {α β : Type}

/-- If the API is to be quiet, no request fails. -/
def Quiet (quiet : Prop) (w : World) : Prop :=
  quiet → ∀ fate ∈ w.fates, fate = .answered

/-- The calls create nothing but what is allowed, and if the API is quiet, they fail only for
reasons of their own. -/
def Does (allowed : Creation → Prop) (quiet : Prop) (P : Store → Prop) (m : Api α)
    (Q : α → Store → Prop) (E : Store → Prop) : Prop :=
  Grows (Made allowed) World.store (fun w => Quiet quiet w ∧ P w.store) m
    (fun a w => Quiet quiet w ∧ Q a w.store) (fun w => Quiet quiet w ∧ (quiet → E w.store))

/-- What may be missing may be created. -/
def Provided (allowed : Creation → Prop) (e : Creation) (st : Store) : Prop :=
  allowed e ∨ present st e = true

variable {P P' : Store → Prop} {m : Api α} {f : α → Api β} {Q Q' : α → Store → Prop}
  {R : β → Store → Prop} {E E' : Store → Prop}

theorem Does.bind (hm : Does allowed quiet P m Q E)
    (hf : ∀ a, Does allowed quiet (Q a) (f a) R E) : Does allowed quiet P (m >>= f) R E :=
  Grows.bind hm hf

theorem Does.pure {a : α} (h : ∀ st, P st → Q a st) :
    Does allowed quiet P (Pure.pure a) Q E :=
  Grows.pure fun w hw => ⟨hw.1, h w.store hw.2⟩

theorem Does.weaken (hm : Does allowed quiet P m Q E) (hP : ∀ st, P' st → P st)
    (hQ : ∀ a st, Q a st → Q' a st) (hE : ∀ st, E st → E' st) :
    Does allowed quiet P' m Q' E' :=
  Grows.weaken hm (fun w hw => ⟨hw.1, hP w.store hw.2⟩) (fun a w hw => ⟨hw.1, hQ a w.store hw.2⟩)
    fun w hw => ⟨hw.1, fun hquiet => hE w.store (hw.2 hquiet)⟩

theorem Does.frame {K : Store → Prop} (hm : Does allowed quiet P m Q E)
    (hkeep : ∀ st e st', Made allowed st e st' → K st → K st') :
    Does allowed quiet (fun st => P st ∧ K st) m (fun a st => Q a st ∧ K st)
      (fun st => E st ∧ K st) :=
  Grows.weaken (Grows.frame hkeep hm) (fun _ h => ⟨⟨h.1, h.2.1⟩, h.2.2⟩)
    (fun _ _ h => ⟨h.1.1, h.1.2, h.2⟩) fun _ h => ⟨h.1.1, fun hquiet => ⟨h.1.2 hquiet, h.2⟩⟩

theorem does_ofExcept {x : Except BoxError α} :
    Does allowed quiet P (ofExcept x) (fun a st => P st ∧ x = .ok a)
      (fun st => P st ∧ ∃ e, x = .error e) := by
  intro w hw
  cases x with
  | ok a => exact ⟨⟨[], .nil _⟩, hw.1, hw.2, rfl⟩
  | error e => exact ⟨⟨[], .nil _⟩, hw.1, fun _ => ⟨hw.2, e, rfl⟩⟩

/-- The two ways in which a program can end. -/
theorem Does.run {w : World} (hm : Does allowed quiet P m Q E) (hquiet : Quiet quiet w)
    (hP : P w.store) :
    (∃ a w', m w = .ok a w' ∧ (∃ es, Makes (Made allowed) w.store es w'.store) ∧
      Quiet quiet w' ∧ Q a w'.store) ∨
    ∃ e w', m w = .error e w' ∧ (∃ es, Makes (Made allowed) w.store es w'.store) ∧
      Quiet quiet w' ∧ (quiet → E w'.store) := by
  have h := hm w ⟨hquiet, hP⟩
  split at h
  · rename_i a w' heq
    exact .inl ⟨a, w', heq, h⟩
  · rename_i e w' heq
    exact .inr ⟨e, w', heq, h⟩

/-- A request that has an answer creates at most what it is meant to. -/
theorem does_request {effect : Store → Except BoxError (α × Store)}
    (h : ∀ st, P st → ∃ a st', effect st = .ok (a, st') ∧
      (∃ es, Makes (Made allowed) st es st') ∧ Q a st') :
    Does allowed quiet P (request effect) Q fun _ => False := by
  rintro w ⟨hquiet, hP⟩
  obtain ⟨a, st', heffect, hmakes, hQ⟩ := h w.store hP
  have htail (st : Store) : Quiet quiet { store := st, fates := w.fates.tail } :=
    fun hq fate hfate => hquiet hq fate (List.mem_of_mem_tail hfate)
  have hhead (hq : quiet) : w.fates.headD .answered = .answered := by
    cases hfates : w.fates with
    | nil => rfl
    | cons fate fates => exact hquiet hq fate (by rw [hfates]; exact List.mem_cons_self)
  simp only [request, heffect]
  cases hfate : w.fates.headD .answered with
  | answered => exact ⟨hmakes, htail st', hQ⟩
  | refused e =>
      exact ⟨⟨[], .nil _⟩, htail w.store, fun hq => nomatch hfate.symm.trans (hhead hq)⟩
  | lost e => exact ⟨hmakes, htail st', fun hq => nomatch hfate.symm.trans (hhead hq)⟩

theorem does_get {g : Store → α} {effect : Store → Except BoxError (α × Store)}
    (h : ∀ st, P st → effect st = .ok (g st, st)) :
    Does allowed quiet P (request effect) (fun a st => P st ∧ a = g st) fun _ => False :=
  does_request fun st hP => ⟨g st, st, h st hP, ⟨[], .nil _⟩, hP, rfl⟩

/-- No zone of the account has the domain. -/
def Zoneless (T : CaseTables) (F : Forms) (s : KetServer) (st : Store) : Prop :=
  ∃ e, CloudflareZones.getCfZone T (.ok st.zones) (F.hostText s.domain) = .error e

def InZone (T : CaseTables) (F : Forms) (s : KetServer) (zone : CFZone) (st : Store) : Prop :=
  CloudflareZones.getCfZone T (.ok st.zones) (F.hostText s.domain) = .ok zone

theorem getCfZone_does {s : KetServer} :
    Does allowed quiet P (getCfZone T F s) (fun zone st => P st ∧ InZone T F s zone st)
      (Zoneless T F s) := by
  refine Does.bind (E := Zoneless T F s) ((does_get fun _ _ => rfl).weaken (fun _ h => h)
    (fun _ _ h => h) fun _ h => h.elim) ?_
  intro response
  refine does_ofExcept.weaken (fun _ h => h) ?_ ?_
  · rintro zone st ⟨⟨hP, rfl⟩, hzone⟩
    exact ⟨hP, hzone⟩
  · rintro st ⟨⟨_, rfl⟩, hnone⟩
    exact hnone

def HasRuleset (zoneId rulesetId : String) (st : Store) : Prop :=
  ∃ ruleset, ourRuleset st zoneId = some ruleset ∧ ruleset.id = rulesetId

theorem getCfRuleset_does (zoneId : String) :
    Does allowed quiet (Provided allowed (.ruleset zoneId)) (getCfRuleset ids zoneId)
      (HasRuleset zoneId) fun _ => False := by
  refine Does.bind (does_get fun _ _ => rfl) ?_
  intro response
  cases hfind : response.result.find? isOurRuleset with
  | some ruleset =>
      refine Does.pure ?_
      rintro st ⟨_, rfl⟩
      exact ⟨ruleset, hfind, rfl⟩
  | none =>
      refine Does.bind (Q := fun ruleset st => ourRuleset st zoneId = some ruleset)
        (does_request ?_) ?_
      · rintro st ⟨hprovided, rfl⟩
        have hnone : ourRuleset st zoneId = none := hfind
        have hallowed : allowed (.ruleset zoneId) := by
          rcases hprovided with hallowed | hpresent
          · exact hallowed
          · rw [present, hnone] at hpresent
            cases hpresent
        have hfresh := ids.fresh ((st.rulesets zoneId).rows.map CFRuleSet.id)
        exact ⟨_, _, rfl, ⟨_, .single (.ruleset hallowed hnone rfl hfresh)⟩,
          ourRuleset_putRuleset_fresh hnone rfl hfresh⟩
      · intro ruleset
        exact Does.pure fun st hours => ⟨ruleset, hours, rfl⟩

theorem find_of_ourRuleset {st : Store} {zoneId : String} {ruleset : CFRuleSet}
    (h : ourRuleset st zoneId = some ruleset) :
    (st.rulesets zoneId).find ruleset.id = some ruleset :=
  KeyedTable.mem_rows_iff.mp (List.mem_of_find?_eq_some h)

/-- The rule as it is asked for. -/
def fail2banRule (id : String) : CFRule where
  id := id
  action := "block"
  description := "xcplane-managed fail2ban rule"
  enabled := true
  expression := "(ip.src in $xcplane)"

theorem isOurRule_fail2banRule (id : String) : isOurRule (fail2banRule id) = true := by
  simp [isOurRule, fail2banRule]

theorem getCfRule_does (s : KetServer) (zoneId rulesetId : String) :
    Does allowed quiet
      (fun st => Provided allowed (.rule zoneId) st ∧ HasRuleset zoneId rulesetId st)
      (getCfRule ids s zoneId rulesetId)
      (fun id st => ∃ rule, ourRule st zoneId = some rule ∧ rule.id = id)
      fun _ => False := by
  refine Does.bind (Q := fun ruleset st => Provided allowed (.rule zoneId) st ∧
    ourRuleset st zoneId = some ruleset ∧ ruleset.id = rulesetId) (does_request ?_) ?_
  · rintro st ⟨hprovided, ruleset, hours, rfl⟩
    simp only [find_of_ourRuleset hours]
    exact ⟨ruleset, st, rfl, ⟨[], .nil _⟩, hprovided, hours, rfl⟩
  intro ruleset
  cases hfind : ruleset.rules.find? isOurRule with
  | some rule =>
      refine Does.pure ?_
      rintro st ⟨_, hours, _⟩
      exact ⟨rule, by rw [ourRule, hours]; exact hfind, rfl⟩
  | none =>
      refine Does.bind (Q := fun ruleset st => ∃ rule, ourRuleset st zoneId = some ruleset ∧
        ruleset.rules.find? isOurRule = some rule) (does_request ?_) ?_
      · rintro st ⟨hprovided, hours, rfl⟩
        have hallowed : allowed (.rule zoneId) := by
          rcases hprovided with hallowed | hpresent
          · exact hallowed
          · simp [present, ourRule, hours, hfind] at hpresent
        have hnew := isOurRule_fail2banRule (ids.next (ruleset.rules.map CFRule.id))
        have hfound : (ruleset.rules ++ [fail2banRule (ids.next (ruleset.rules.map
            CFRule.id))]).find? isOurRule = some (fail2banRule (ids.next (ruleset.rules.map
            CFRule.id))) := by
          rw [List.find?_append, hfind, Option.none_or, List.find?_cons_of_pos hnew]
        simp only [find_of_ourRuleset hours]
        exact ⟨_, _, rfl, ⟨_, .single (.rule hallowed hours hfind hnew)⟩, _,
          ourRuleset_putRuleset_again hours _, hfound⟩
      · intro ruleset
        refine Does.bind (does_ofExcept.weaken (fun _ h => h) (fun _ _ h => h) ?_) ?_
        · rintro st ⟨⟨rule, _, hrule⟩, hnone⟩
          rw [okOr_error_iff, hrule] at hnone
          cases hnone
        · intro rule
          refine Does.pure ?_
          rintro st ⟨⟨_, hours, _⟩, hrule⟩
          rw [okOr_eq_ok_iff] at hrule
          exact ⟨rule, by rw [ourRule, hours]; exact hrule, rfl⟩

/-- The block list, where there is one, is the account's. -/
def ListKnown (accountId : String) (cfList : Option String) (st : Store) : Prop :=
  ∀ id, cfList = some id → ∃ list, ourList st accountId = some list ∧ list.id = id

/-- The state that the store already has the answers for. -/
def settledData (st : Store) (accountId : String) (s : KetServer) (zone : CFZone) :
    Option (Option CFListData) :=
  if s.cloudflareProxied then do
    let ruleset ← ourRuleset st zone.id
    let rule ← ourRule st zone.id
    let list ← ourList st accountId
    some (some
      { accountName := zone.accountName
        accountId := zone.accountId
        rulesetId := ruleset.id
        ruleId := rule.id
        listId := list.id })
  else some none

def settledState (T : CaseTables) (F : Forms) (accountId : String) (st : Store) (s : KetServer) :
    Option CFState :=
  match CloudflareZones.getCfZone T (.ok st.zones) (F.hostText s.domain) with
  | .ok zone => (settledData st accountId s zone).map (stateOf T F s zone)
  | .error _ => none

theorem settledData_eq_some_of {st : Store} {accountId : String} {s : KetServer} {zone : CFZone}
    (hproxied : s.cloudflareProxied = true) {rulesetId ruleId listId : String}
    (hruleset : HasRuleset zone.id rulesetId st)
    (hrule : ∃ rule, ourRule st zone.id = some rule ∧ rule.id = ruleId)
    (hlist : ∃ list, ourList st accountId = some list ∧ list.id = listId) :
    settledData st accountId s zone = some (some
      { accountName := zone.accountName
        accountId := zone.accountId
        rulesetId, ruleId, listId }) := by
  obtain ⟨ruleset, hruleset, rfl⟩ := hruleset
  obtain ⟨rule, hrule, rfl⟩ := hrule
  obtain ⟨list, hlist, rfl⟩ := hlist
  rw [settledData, if_pos hproxied, hruleset, hrule, hlist]
  rfl

section Kept

variable {st st' : Store} {e e' : Creation} {accountId : String} {s : KetServer} {zone : CFZone}

theorem Made.provided (h : Made allowed st e st') (hst : Provided allowed e' st) :
    Provided allowed e' st' :=
  hst.imp id h.keeps

theorem Made.inZone (h : Made allowed st e st') (hst : InZone T F s zone st) :
    InZone T F s zone st' := by
  rwa [InZone, h.zones]

theorem Made.zoneless (h : Made allowed st e st') (hst : Zoneless T F s st) :
    Zoneless T F s st' := by
  rwa [Zoneless, h.zones]

theorem Made.hasRuleset {zoneId rulesetId : String} (h : Made allowed st e st')
    (hst : HasRuleset zoneId rulesetId st) : HasRuleset zoneId rulesetId st' := by
  obtain ⟨ruleset, hours, hid⟩ := hst
  obtain ⟨rules, hours'⟩ := h.ourRuleset hours
  exact ⟨_, hours', hid⟩

theorem Made.listKnown {cfList : Option String} (h : Made allowed st e st')
    (hst : ListKnown accountId cfList st) : ListKnown accountId cfList st' := by
  intro id hid
  obtain ⟨list, hlist, heq⟩ := hst id hid
  exact ⟨list, h.ourList hlist, heq⟩

theorem Made.settledData {data : Option CFListData} (h : Made allowed st e st')
    (hst : settledData st accountId s zone = some data) :
    settledData st' accountId s zone = some data := by
  by_cases hproxied : s.cloudflareProxied = true
  · rw [CloudflareAccount.settledData, if_pos hproxied] at hst
    obtain ⟨ruleset, hruleset, hst⟩ := Option.bind_eq_some_iff.mp hst
    obtain ⟨rule, hrule, hst⟩ := Option.bind_eq_some_iff.mp hst
    obtain ⟨list, hlist, hst⟩ := Option.bind_eq_some_iff.mp hst
    rw [← Option.some.inj hst]
    exact settledData_eq_some_of hproxied (h.hasRuleset ⟨ruleset, hruleset, rfl⟩)
      ⟨rule, h.ourRule hrule, rfl⟩ ⟨list, h.ourList hlist, rfl⟩
  · rw [CloudflareAccount.settledData, if_neg hproxied] at hst ⊢
    exact hst

theorem Made.settledState {cfstate : CFState} (h : Made allowed st e st')
    (hst : settledState T F accountId st s = some cfstate) :
    settledState T F accountId st' s = some cfstate := by
  rw [CloudflareAccount.settledState] at hst ⊢
  rw [h.zones]
  split at hst
  · rename_i zone hzone
    obtain ⟨data, hdata, heq⟩ := Option.map_eq_some_iff.mp hst
    exact Option.map_eq_some_iff.mpr ⟨data, h.settledData hdata, heq⟩
  · cases hst

end Kept

/-- What a server with the zone would miss may be created. -/
def Ready (allowed : Creation → Prop) (s : KetServer) (zone : CFZone) (st : Store) : Prop :=
  s.cloudflareProxied = true →
    Provided allowed (.ruleset zone.id) st ∧ Provided allowed (.rule zone.id) st

theorem listData_does (accountId : String) (cfList : Option String) (s : KetServer)
    (zone : CFZone) :
    Does allowed quiet (fun st => Ready allowed s zone st ∧ ListKnown accountId cfList st)
      (listData ids cfList s zone)
      (fun data st => settledData st accountId s zone = some data)
      fun _ => s.cloudflareProxied = true ∧ cfList = none := by
  rw [listData]
  by_cases hproxied : s.cloudflareProxied = true
  · rw [if_pos hproxied]
    have hkeep : ∀ st e st', Made allowed st e st' →
        Provided allowed (.rule zone.id) st ∧ ListKnown accountId cfList st →
          Provided allowed (.rule zone.id) st' ∧ ListKnown accountId cfList st' :=
      fun _ _ _ hmade hst => ⟨hmade.provided hst.1, hmade.listKnown hst.2⟩
    refine Does.bind (((getCfRuleset_does zone.id).frame hkeep).weaken ?_ (fun _ _ h => h)
      fun _ h => h.1.elim) ?_
    · rintro st ⟨hready, hlist⟩
      exact ⟨(hready hproxied).1, (hready hproxied).2, hlist⟩
    intro rulesetId
    have hkeep' : ∀ st e st', Made allowed st e st' →
        HasRuleset zone.id rulesetId st ∧ ListKnown accountId cfList st →
          HasRuleset zone.id rulesetId st' ∧ ListKnown accountId cfList st' :=
      fun _ _ _ hmade hst => ⟨hmade.hasRuleset hst.1, hmade.listKnown hst.2⟩
    refine Does.bind (((getCfRule_does s zone.id rulesetId).frame hkeep').weaken ?_
      (fun _ _ h => h) fun _ h => h.1.elim) ?_
    · rintro st ⟨hruleset, hprovided, hlist⟩
      exact ⟨⟨hprovided, hruleset⟩, hruleset, hlist⟩
    intro ruleId
    refine Does.bind (does_ofExcept.weaken (fun _ h => h) (fun _ _ h => h) ?_) ?_
    · rintro st ⟨_, hnone⟩
      exact ⟨hproxied, okOr_error_iff.mp hnone⟩
    · intro listId
      refine Does.pure ?_
      rintro st ⟨⟨hrule, hruleset, hlist⟩, hknown⟩
      exact settledData_eq_some_of hproxied hruleset hrule (hlist listId (okOr_eq_ok_iff.mp hknown))
  · rw [if_neg hproxied]
    refine Does.pure fun st _ => ?_
    rw [settledData, if_neg hproxied]

theorem setCfState_does (accountId : String) (cfList : Option String) (s : KetServer) :
    Does allowed quiet
      (fun st => (∀ zone, InZone T F s zone st → Ready allowed s zone st) ∧
        ListKnown accountId cfList st)
      (setCfState T F ids cfList s)
      (fun cfstate st => settledState T F accountId st s = some cfstate)
      (fun st => Zoneless T F s st ∨ s.cloudflareProxied = true ∧ cfList = none) := by
  refine Does.bind (getCfZone_does.weaken (fun _ h => h) (fun _ _ h => h) fun _ h => .inl h) ?_
  intro zone
  have hkeep : ∀ st e st', Made allowed st e st' → InZone T F s zone st →
      InZone T F s zone st' := fun _ _ _ => Made.inZone
  refine Does.bind (((listData_does accountId cfList s zone).frame hkeep).weaken ?_
    (fun _ _ h => h) fun _ h => .inr h.1) ?_
  · rintro st ⟨⟨hready, hlist⟩, hzone⟩
    exact ⟨⟨hready zone hzone, hlist⟩, hzone⟩
  · intro data
    refine Does.pure ?_
    rintro st ⟨hsettled, hzone⟩
    rw [settledState, hzone]
    show (settledData st accountId s zone).map _ = _
    rw [hsettled, Option.map_some]

/-- The servers are in the account, as far as they are in a zone. -/
def OneAccount (T : CaseTables) (F : Forms) (accountId : String) (zones : List CFZone)
    (cloud : Cloud) : Prop :=
  ∀ s ∈ cloud.servers, ∀ zone,
    CloudflareZones.getCfZone T (.ok zones) (F.hostText s.domain) = .ok zone →
      zone.accountId = accountId

theorem prepareCfList_does (accountId : String) {cloud : Cloud} {s : KetServer}
    {rest : List KetServer} (hservers : cloud.servers = s :: rest) :
    Does allowed quiet
      (fun st => ∀ zone, InZone T F s zone st →
        zone.accountId = accountId ∧ Provided allowed (.list accountId) st)
      (prepareCfList T F ids cloud)
      (fun id st => ∃ list, ourList st accountId = some list ∧ list.id = id)
      (Zoneless T F s) := by
  rw [prepareCfList, hservers]
  refine Does.bind (Q := fun zone st => zone.accountId = accountId ∧
    Provided allowed (.list accountId) st)
    (getCfZone_does.weaken (fun _ h => h) (fun zone _ h => h.1 zone h.2) fun _ h => h) ?_
  intro zone
  refine Does.bind ((does_get fun _ _ => rfl).weaken (fun _ h => h) (fun _ _ h => h)
    fun _ h => h.elim) ?_
  intro cfLists
  cases hfind : cfLists.result.find? fun list => isOurList list && cfLists.success with
  | some list =>
      refine Does.pure ?_
      rintro st ⟨⟨rfl, _⟩, rfl⟩
      simp only [Bool.and_true] at hfind
      exact ⟨list, hfind, rfl⟩
  | none =>
      refine Does.bind (Q := fun list st => ourList st accountId = some list)
        ((does_request ?_).weaken (fun _ h => h) (fun _ _ h => h) fun _ h => h.elim) ?_
      · rintro st ⟨⟨rfl, hprovided⟩, rfl⟩
        simp only [Bool.and_true] at hfind
        have hnone : ourList st zone.accountId = none := hfind
        have hallowed : allowed (.list zone.accountId) := by
          rcases hprovided with hallowed | hpresent
          · exact hallowed
          · rw [present, hnone] at hpresent
            cases hpresent
        exact ⟨_, _, rfl, ⟨_, .single (.list hallowed hnone rfl)⟩, ourList_addList_self hnone rfl⟩
      · intro list
        exact Does.pure fun st hlist => ⟨list, hlist, rfl⟩

end Specs

end Xcplane.CloudflareAccount
