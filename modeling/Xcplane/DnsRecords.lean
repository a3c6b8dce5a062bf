import Mathlib.Data.List.ReduceOption
import Xcplane.Connections
import Xcplane.Lib.Interleave

/-!
The address records of the servers of a Rebase. A run deletes the records of the
hostnames that its server gives up and sets those of its current hostnames; the
runs of a Rebase proceed side by side.
-/

namespace Xcplane.DnsRecords

open Xcplane.Types
open Xcplane.Lib
open Xcplane.Server
open Xcplane.Cloudflare
open Xcplane.CloudConfig
open Xcplane.Merge
open Xcplane.RebaseDiff
open Xcplane.Deploy
open Xcplane.Reconcile
open Xcplane.ReconcileSpec
open Xcplane.RebasePlan
open Xcplane.JoinedRuns
open Xcplane.Connections

variable {δ : Type}

inductive RecordType
  | A
  | AAAA
  deriving DecidableEq, Repr

def RecordType.other : RecordType → RecordType
  | .A => .AAAA
  | .AAAA => .A

/-- The records of a hostname and a type. The zone needs no mention, for a hostname
is in the zone of its domain. -/
structure RecordKey where
  record : String
  type : RecordType
  deriving DecidableEq, Repr

/-- A record that is set is the only one of its hostname and type. -/
structure DnsRecord where
  value : String
  proxied : Bool
  deriving DecidableEq, Repr

/-- What the playbook learns about addresses: the tests of their texts, and the
verified public address of a type that a host of the other type answers with. -/
structure Network where
  isAddress : RecordType → String → Bool
  discovered : RecordType → String → Option String

section Tasks

variable (F : Forms) (net : Network)

def hostnames (s : KetServer) : List String :=
  [dnshostname F s, uihostname F s, subhostname F s]

def present (type : RecordType) (proxied : Bool) (value hostname : String) :
    Write RecordKey DnsRecord where
  key := { record := hostname, type }
  value := some { value, proxied }

def absent (type : RecordType) (hostname : String) : Write RecordKey DnsRecord where
  key := { record := hostname, type }
  value := none

/-- The loop items of the deletion, which needs the zone. -/
def oldHostnames (d : RebaseDomain) : List String :=
  match d.zone with
  | none => []
  | some _ => [d.dns, d.ui, d.sub].reduceOption

def cloudflareDel (d : RebaseDomain) : List (Write RecordKey DnsRecord) :=
  (oldHostnames d).map (absent .A) ++ (oldHostnames d).map (absent .AAAA)

/-- The address of the type, where one is ready. -/
def readyAddress (type : RecordType) (host : String) : Option String :=
  if net.isAddress type host then some host
  else if net.isAddress type.other host then net.discovered type host
  else none

/-- The tasks that set the records of a type when its address is ready. -/
def presentRecords (s : KetServer) (st : CFState) (host : String) (type : RecordType) :
    List (Write RecordKey DnsRecord) :=
  -- The proxy is turned off for a domain that is nested too deeply in its zone.
  let proxied := s.cloudflareProxied && !st.tooDeep
  match readyAddress net type host with
  | none => []
  | some value =>
      [present type proxied value (dnshostname F s),
        present type proxied value (uihostname F s),
        present type (proxied && st.cloudflareOnly) value (subhostname F s)]

/-- The tasks that remove the records of a type without a ready address. -/
def absentRecords (s : KetServer) (host : String) (type : RecordType) :
    List (Write RecordKey DnsRecord) :=
  match readyAddress net type host with
  | none => (hostnames F s).map (absent type)
  | some _ => []

def cloudflareSetup (s : KetServer) (st : CFState) (host : String) :
    List (Write RecordKey DnsRecord) :=
  presentRecords F net s st host .A ++ presentRecords F net s st host .AAAA ++
    absentRecords F net s host .AAAA ++ absentRecords F net s host .A

/-- What a task does to the address records. A run without a Cloudflare state or a
connection fails before its tasks. -/
def taskWrites (run : AnsibleRun) : AnsibleAction → List (Write RecordKey DnsRecord)
  | .CloudflareDel =>
      match run.rebaseData with
      | some d => cloudflareDel d.rebaseDomain
      | none => []
  | .Cloudflare =>
      match run.server.cfstate, run.server.ansibleConn.bind AnsibleConn.ansibleHost with
      | some st, some host => cloudflareSetup F net run.server st host
      | _, _ => []
  | _ => []

def runWrites (run : AnsibleRun) : List (Write RecordKey DnsRecord) :=
  run.actions.flatMap (taskWrites F net run)

end Tasks

abbrev Records := RecordKey → Option DnsRecord

def recordType : IpAddr → RecordType
  | .v4 _ => .A
  | .v6 _ => .AAAA

section Resolving

variable (F : Forms) (net : Network)

/-- The value of a record of the type belongs to the server: it is the IP of the
server, or for the other type an address that was verified to be the server's. -/
def BelongsTo (s : KetServer) (type : RecordType) (value : Option String) : Prop :=
  if type = recordType s.ip then value = some (F.ipText s.ip)
  else ∀ v ∈ value, net.discovered type (F.ipText s.ip) = some v

instance (s : KetServer) (type : RecordType) (value : Option String) :
    Decidable (BelongsTo F net s type value) := by
  unfold BelongsTo
  infer_instance

/-- All three hostnames of the server resolve to its own IP. -/
def Resolves (records : Records) (s : KetServer) : Prop :=
  ∀ h ∈ hostnames F s, ∀ type,
    BelongsTo F net s type ((records { record := h, type }).map DnsRecord.value)

theorem resolves_iff {records : Records} {s : KetServer} : Resolves F net records s ↔
    ∀ h ∈ hostnames F s,
      BelongsTo F net s .A ((records { record := h, type := .A }).map DnsRecord.value) ∧
        BelongsTo F net s .AAAA
          ((records { record := h, type := .AAAA }).map DnsRecord.value) := by
  constructor
  · intro hresolves h hh
    exact ⟨hresolves h hh .A, hresolves h hh .AAAA⟩
  · intro hresolves h hh type
    cases type with
    | A => exact (hresolves h hh).1
    | AAAA => exact (hresolves h hh).2

instance (records : Records) (s : KetServer) : Decidable (Resolves F net records s) :=
  decidable_of_iff _ (resolves_iff F net).symm

/-- The old hostnames whose records the run deletes. -/
def givenUp (run : AnsibleRun) : List String :=
  if .CloudflareDel ∈ run.actions then
    match run.rebaseData with
    | some d => oldHostnames d.rebaseDomain
    | none => []
  else []

/-- The hostnames whose records the run sets. -/
def taken (run : AnsibleRun) : List String :=
  if .Cloudflare ∈ run.actions then hostnames F run.server else []

/-- The run of another server does not give up a hostname of this one, and takes none
for another address. -/
structure Spares (run : AnsibleRun) (s : KetServer) : Prop where
  kept : ∀ h ∈ hostnames F s, h ∈ givenUp run → h ∈ taken F run
  shared : ∀ h ∈ hostnames F s, h ∈ taken F run →
    ∀ type, BelongsTo F net s type (readyAddress net type (F.ipText run.server.ip))

/-- The tests tell the texts of the two kinds of addresses apart. -/
def Recognized (ip : IpAddr) : Prop :=
  ∀ type, net.isAddress type (F.ipText ip) = decide (type = recordType ip)

/-- The host of the connection is the IP of the server. -/
def Leads (s : KetServer) : Prop :=
  s.ansibleConn.bind AnsibleConn.ansibleHost = some (F.ipText s.ip)

/-- A provisioned server as a Rebase finds it. -/
structure Provisioned (records : Records) (s : KetServer) : Prop where
  leads : Leads F s
  resolves : Resolves F net records s

end Resolving

section Writes

variable {F : Forms} {net : Network} {s : KetServer} {st : CFState} {host h : String}
  {run : AnsibleRun} {type : RecordType} {w : Write RecordKey DnsRecord}

/-- A write of the setup concerns a current hostname and leaves the ready address. -/
def Points (F : Forms) (net : Network) (s : KetServer) (host : String) (type : RecordType)
    (w : Write RecordKey DnsRecord) : Prop :=
  w.key.record ∈ hostnames F s ∧ w.key.type = type ∧
    w.value.map DnsRecord.value = readyAddress net type host

theorem points_presentRecords (hw : w ∈ presentRecords F net s st host type) :
    Points F net s host type w := by
  unfold presentRecords at hw
  simp only at hw
  split at hw
  · cases hw
  · rename_i value hvalue
    simp only [List.mem_cons, List.not_mem_nil, or_false] at hw
    unfold Points
    rw [hvalue]
    rcases hw with rfl | rfl | rfl
    · simp [present, hostnames]
    · simp [present, hostnames]
    · simp [present, hostnames]

theorem points_absentRecords (hw : w ∈ absentRecords F net s host type) :
    Points F net s host type w := by
  unfold absentRecords at hw
  split at hw
  · rename_i hvalue
    obtain ⟨h, hh, rfl⟩ := List.mem_map.mp hw
    exact ⟨hh, rfl, hvalue.symm⟩
  · cases hw

theorem points_cloudflareSetup (hw : w ∈ cloudflareSetup F net s st host) :
    Points F net s host w.key.type w := by
  simp only [cloudflareSetup, List.mem_append] at hw
  have hpoints : ∃ type, Points F net s host type w := by
    rcases hw with ((hw | hw) | hw) | hw
    · exact ⟨.A, points_presentRecords hw⟩
    · exact ⟨.AAAA, points_presentRecords hw⟩
    · exact ⟨.AAAA, points_absentRecords hw⟩
    · exact ⟨.A, points_absentRecords hw⟩
  obtain ⟨type, hpoints⟩ := hpoints
  rw [hpoints.2.1]
  exact hpoints

/-- Every current hostname gets a write of every type. -/
theorem exists_mem_cloudflareSetup (hh : h ∈ hostnames F s) (type : RecordType) :
    ∃ w ∈ cloudflareSetup F net s st host, w.key = { record := h, type } := by
  have hwritten : ∃ w ∈ presentRecords F net s st host type ++ absentRecords F net s host type,
      w.key = { record := h, type } := by
    unfold presentRecords absentRecords
    cases readyAddress net type host with
    | none => exact ⟨absent type h, List.mem_append_right _ (List.mem_map_of_mem hh), rfl⟩
    | some value =>
        simp only [hostnames, List.mem_cons, List.not_mem_nil, or_false] at hh
        rcases hh with rfl | rfl | rfl
        · exact ⟨_, List.mem_append_left _ (.head _), rfl⟩
        · exact ⟨_, List.mem_append_left _ (.tail _ (.head _)), rfl⟩
        · exact ⟨_, List.mem_append_left _ (.tail _ (.tail _ (.head _))), rfl⟩
  obtain ⟨w, hw, hkey⟩ := hwritten
  refine ⟨w, ?_, hkey⟩
  rw [List.mem_append] at hw
  simp only [cloudflareSetup, List.mem_append]
  cases type with
  | A => exact hw.elim (fun hw => .inl (.inl (.inl hw))) .inr
  | AAAA => exact hw.elim (fun hw => .inl (.inl (.inr hw))) (fun hw => .inl (.inr hw))

theorem mem_cloudflareDel_iff {d : RebaseDomain} : w ∈ cloudflareDel d ↔
    w.value = none ∧ w.key.record ∈ oldHostnames d := by
  obtain ⟨⟨record, type⟩, value⟩ := w
  cases type with
  | A => simp [cloudflareDel, absent, eq_comm, and_comm]
  | AAAA => simp [cloudflareDel, absent, eq_comm, and_comm]

/-- What planning makes sure of for a run. -/
structure Ready (F : Forms) (run : AnsibleRun) : Prop where
  sorted : run.actions.Pairwise fun a b => a.id ≤ b.id ∧ a ≠ b
  state : ∃ st, run.server.cfstate = some st
  leads : Leads F run.server

theorem mem_taken_iff : h ∈ taken F run ↔
    .Cloudflare ∈ run.actions ∧ h ∈ hostnames F run.server := by
  unfold taken
  split
  · rename_i hplanned
    simp [hplanned]
  · rename_i hplanned
    simp [hplanned]

/-- What a run writes are deletions of hostnames that its server gives up, and the
setup of the hostnames it takes. -/
theorem of_mem_runWrites (hready : Ready F run) (hw : w ∈ runWrites F net run) :
    (w.value = none ∧ w.key.record ∈ givenUp run) ∨
      (w.key.record ∈ taken F run ∧ w.value.map DnsRecord.value =
        readyAddress net w.key.type (F.ipText run.server.ip)) := by
  obtain ⟨a, ha, hw⟩ := List.mem_flatMap.mp hw
  unfold taskWrites at hw
  split at hw
  · left
    rw [givenUp, if_pos ha]
    split at hw
    · exact mem_cloudflareDel_iff.mp hw
    · cases hw
  · right
    split at hw
    · rename_i st host hst hhost
      obtain rfl : F.ipText run.server.ip = host := Option.some.inj (hready.leads.symm.trans hhost)
      have hpoints := points_cloudflareSetup hw
      exact ⟨mem_taken_iff.mpr ⟨ha, hpoints.1⟩, hpoints.2.2⟩
    · cases hw
  · cases hw

/-- On a hostname that it takes, a run leaves the ready address of its server: the
setup comes after the deletion. -/
theorem lastWrite_taken (hready : Ready F run) (hh : h ∈ taken F run) (type : RecordType) :
    ∃ r, lastWrite { record := h, type } (runWrites F net run) = some r ∧
      r.map DnsRecord.value = readyAddress net type (F.ipText run.server.ip) := by
  obtain ⟨hplanned, hh⟩ := mem_taken_iff.mp hh
  obtain ⟨before, after, hactions⟩ := List.append_of_mem hplanned
  obtain ⟨st, hst⟩ := hready.state
  have hafter : after.flatMap (taskWrites F net run) = [] := by
    rw [List.flatMap_eq_nil_iff]
    intro a ha
    have hsorted := hready.sorted
    rw [hactions, List.pairwise_append, List.pairwise_cons] at hsorted
    obtain ⟨hle, hne⟩ := hsorted.2.1.1 a ha
    unfold taskWrites
    split
    · exact absurd hle (by decide)
    · exact absurd rfl hne
    · rfl
  have hsetup : taskWrites F net run .Cloudflare =
      cloudflareSetup F net run.server st (F.ipText run.server.ip) := by
    unfold taskWrites
    rw [hst, hready.leads]
  obtain ⟨w, hw, hkey⟩ : ∃ w ∈ cloudflareSetup F net run.server st (F.ipText run.server.ip),
      w.key = { record := h, type } := exists_mem_cloudflareSetup hh type
  obtain ⟨r, hr⟩ := exists_lastWrite hw
  rw [hkey] at hr
  refine ⟨r, ?_, (points_cloudflareSetup (mem_of_lastWrite hr)).2.2⟩
  rw [runWrites, hactions, List.flatMap_append, List.flatMap_cons, hafter, hsetup,
    List.append_nil, lastWrite_append, hr]
  rfl

theorem lastWrite_givenUp (hready : Ready F run) (hh : h ∈ givenUp run) (htaken : h ∉ taken F run)
    (type : RecordType) :
    lastWrite { record := h, type } (runWrites F net run) = some none := by
  have hwritten : absent type h ∈ runWrites F net run := by
    unfold givenUp at hh
    split at hh
    · rename_i hplanned
      apply List.mem_flatMap.mpr
      refine ⟨.CloudflareDel, hplanned, ?_⟩
      unfold taskWrites
      simp only
      split at hh
      · exact mem_cloudflareDel_iff.mpr ⟨rfl, hh⟩
      · cases hh
    · cases hh
  obtain ⟨r, hr⟩ := exists_lastWrite hwritten
  rcases of_mem_runWrites hready (mem_of_lastWrite hr) with ⟨hnone, _⟩ | ⟨hin, _⟩
  · exact hr.trans (congrArg some hnone)
  · exact absurd hin htaken

theorem lastWrite_untouched (hready : Ready F run) (hgiven : h ∉ givenUp run)
    (htaken : h ∉ taken F run) (type : RecordType) :
    lastWrite { record := h, type } (runWrites F net run) = none := by
  apply lastWrite_eq_none_iff.mpr
  intro w hw hkey
  rcases of_mem_runWrites hready hw with ⟨_, hin⟩ | ⟨hin, _⟩
  · rw [hkey] at hin
    exact hgiven hin
  · rw [hkey] at hin
    exact htaken hin

/-- A run spares a server exactly when it leaves every record of its hostnames that
it writes with an address of that server. -/
theorem spares_iff (hready : Ready F run) : Spares F net run s ↔
    ∀ h ∈ hostnames F s, ∀ type r,
      lastWrite { record := h, type } (runWrites F net run) = some r →
        BelongsTo F net s type (r.map DnsRecord.value) := by
  constructor
  · rintro ⟨hkept, hshared⟩ h hh type r hr
    by_cases htaken : h ∈ taken F run
    · obtain ⟨r', hr', hvalue⟩ := lastWrite_taken hready htaken type
      rw [hr, Option.some.injEq] at hr'
      rw [hr', hvalue]
      exact hshared h hh htaken type
    · have hgiven : h ∉ givenUp run := fun hgiven => htaken (hkept h hh hgiven)
      rw [lastWrite_untouched hready hgiven htaken] at hr
      cases hr
  · intro hleft
    constructor
    · intro h hh hgiven
      by_contra htaken
      have hbelongs := hleft h hh (recordType s.ip) none
        (lastWrite_givenUp hready hgiven htaken _)
      rw [BelongsTo, if_pos rfl] at hbelongs
      cases hbelongs
    · intro h hh htaken type
      obtain ⟨r, hr, hvalue⟩ := lastWrite_taken hready htaken type
      rw [← hvalue]
      exact hleft h hh type r hr

end Writes

section Planning

variable {F : Forms} {net : Network} {records : Records} {o s m : KetServer}
  {data : Option RebaseData} {actions : List AnsibleAction} {run : AnsibleRun}

theorem cloudflareDel_mem_specActions : .CloudflareDel ∈ specActions F o m ↔
    F.hostText o.domain ≠ F.hostText m.domain ∨ o.dnsSubdomain ≠ m.dnsSubdomain ∨
      o.uiSubdomain ≠ m.uiSubdomain ∨ o.subSubdomain ≠ m.subSubdomain :=
  hostnames_mem_specActions (.inl rfl)

theorem cloudflare_mem_specActions : .Cloudflare ∈ specActions F o m ↔
    F.ipText o.ip ≠ F.ipText m.ip ∨ .CloudflareDel ∈ specActions F o m := by
  rw [cloudflareDel_mem_specActions]
  simp only [specActions, List.mem_append, List.mem_ite_nil_right, List.mem_cons,
    List.not_mem_nil, reduceCtorEq, or_false, or_true, and_true, and_false]
  simp only [or_assoc]

/-- Old hostnames are deleted only where the current ones are set up. -/
theorem cloudflare_planned (h : planActions F o m data = .ok actions)
    (hdel : .CloudflareDel ∈ actions) : .Cloudflare ∈ actions := by
  obtain ⟨oldState, newState, _, _, rfl⟩ := planActions_eq_ok_iff.mp h
  rw [mem_sortUnique] at hdel ⊢
  simp only [List.mem_append] at hdel ⊢
  rcases hdel with ((hdel | hdel) | hdel) | hdel
  · exact .inl (.inl (.inl (cloudflare_mem_specActions.mpr (.inr hdel))))
  · simp [proxyActions] at hdel
  · cases mem_outblockActions hdel
  · exact absurd (mem_inboundActions hdel) (by decide)

/-- Without a setup, the address and the hostnames are the old ones. -/
theorem of_cloudflare_unplanned (h : planActions F o m data = .ok actions)
    (hplan : .Cloudflare ∉ actions) :
    F.ipText o.ip = F.ipText m.ip ∧ hostnames F o = hostnames F m := by
  obtain ⟨oldState, newState, _, _, rfl⟩ := planActions_eq_ok_iff.mp h
  have hspec : .Cloudflare ∉ specActions F o m := by
    intro hspec
    apply hplan
    rw [mem_sortUnique]
    simp [hspec]
  rw [cloudflare_mem_specActions, cloudflareDel_mem_specActions] at hspec
  simp only [not_or, not_not] at hspec
  obtain ⟨hip, hdomain, hdns, hui, hsub⟩ := hspec
  refine ⟨hip, ?_⟩
  unfold hostnames dnshostname uihostname subhostname
  rw [hdomain, hdns, hui, hsub]

theorem belongsTo_readyAddress (hip : Recognized F net s.ip) (type : RecordType) :
    BelongsTo F net s type (readyAddress net type (F.ipText s.ip)) := by
  unfold BelongsTo readyAddress
  rw [hip type, hip type.other]
  by_cases htype : type = recordType s.ip
  · simp [htype]
  · rw [if_neg htype, decide_eq_false htype]
    intro v hv
    simp only [Bool.false_eq_true, if_false] at hv
    split at hv
    · exact hv
    · cases hv

theorem recordType_eq (ho : Recognized F net o.ip) (hm : Recognized F net m.ip)
    (hip : F.ipText o.ip = F.ipText m.ip) : recordType o.ip = recordType m.ip := by
  have hsame := (ho (recordType o.ip)).symm.trans (hip ▸ hm (recordType o.ip))
  simpa using hsame

theorem merged_leads (h : Merged .Rebase o s m) (hstate : s.state = .Production)
    (ho : Leads F o) (hs : Leads F s) : Leads F m := by
  cases h with
  | replaced hmode => cases hmode
  | kept => exact ho
  | remapped hremaps =>
      rcases remaps_iff.mp hremaps with hmode | ⟨_, hoff⟩
      · cases hmode
      · rw [hstate] at hoff
        cases hoff
  | rebased _ newConn _ hnewConn _ =>
      unfold Leads at hs ⊢
      rw [hnewConn] at hs
      exact hs

theorem leads_of_reaches (h : Reaches F s) : Leads F s := by
  obtain ⟨conn, hconn, hhost, _⟩ := h
  unfold Leads
  rw [hconn]
  exact hhost

end Planning

section Rebase

variable {env : ReconEnv δ} {net : Network} {draws : Nat → SecretDraw} {t : TCloud}
  {old new cloud c : Cloud} {ord : MergeOrder old new} {data : List (String × RebaseData)}
  {dirs : Dirs δ} {pairs : List (KetServer × KetServer)} {started : List AnsibleRun}
  {records : Records} {run : AnsibleRun}

/-- A run with the server that the old cloud has for it. -/
structure RunFor (F : Forms) (net : Network) (records : Records) (o : KetServer)
    (run : AnsibleRun) : Prop where
  provisioned : Provisioned F net records o
  ready : Ready F run
  plan : ∃ data, planActions F o run.server data = .ok run.actions
  recognized : Recognized F net o.ip ∧ Recognized F net run.server.ip

theorem exists_runFor (h : RebaseOk env old new ord data cloud pairs started c)
    (hleads : ∀ s ∈ new.servers, Leads env.forms s)
    (hold : ∀ s ∈ old.servers, s.state = .Production → Provisioned env.forms net records s)
    (hips : ∀ s ∈ old.servers ++ new.servers, Recognized env.forms net s.ip)
    (hrun : run ∈ started) : ∃ o, RunFor env.forms net records o run := by
  obtain ⟨q, hq, hplan, _, hserver, _⟩ := h.mem_started.mp hrun
  obtain ⟨p, hp, hready⟩ := exists_left_of_mem h.ready hq
  obtain ⟨n, _, ho, hs, hstate⟩ := mem_scheduledPairs.mp hp
  obtain ⟨m, hm, hmq⟩ := hready.merge
  have homem := (Cloud.collected_eq_some ho).1
  have hsmem := (Cloud.collected_eq_some hs).1
  have hprovisioned := hold p.1 homem (rebaseMerge_old_production hm hstate)
  have hmerged := rebaseMerge_ok hm
  have hleadsm := merged_leads hmerged hstate hprovisioned.leads (hleads p.2 hsmem)
  have hsame := hmq.same
  rw [hready.old, ← hserver] at hplan
  obtain ⟨oldState, newState, _, hnewState, hactions⟩ := planActions_eq_ok_iff.mp hplan
  refine ⟨p.1, hprovisioned, ⟨?_, ⟨newState, hnewState⟩, ?_⟩, ⟨_, hplan⟩, ?_, ?_⟩
  · rw [hactions]
    exact sortUnique_pairwise _
  · rw [hserver, hsame]
    exact hleadsm
  · exact hips p.1 (List.mem_append_left _ homem)
  · rw [hserver, hsame]
    show Recognized env.forms net m.ip
    rw [hmerged.address.2]
    split
    · exact hips p.1 (List.mem_append_left _ homem)
    · exact hips p.2 (List.mem_append_right _ hsmem)

theorem RunFor.spares {F : Forms} {o : KetServer} (h : RunFor F net records o run) :
    Spares F net run run.server := by
  obtain ⟨data, hplan⟩ := h.plan
  constructor
  · intro x hx hgiven
    unfold givenUp at hgiven
    split at hgiven
    · rename_i hdel
      exact mem_taken_iff.mpr ⟨cloudflare_planned hplan hdel, hx⟩
    · cases hgiven
  · intro x _ _ type
    exact belongsTo_readyAddress h.recognized.2 type

/-- Records that the run leaves alone belong to the server already. -/
theorem RunFor.untouched {F : Forms} {o : KetServer} (h : RunFor F net records o run)
    {x : String} (hx : x ∈ hostnames F run.server) {type : RecordType}
    (hnone : lastWrite { record := x, type } (runWrites F net run) = none) :
    BelongsTo F net run.server type
      ((records { record := x, type }).map DnsRecord.value) := by
  obtain ⟨data, hplan⟩ := h.plan
  have hunplanned : .Cloudflare ∉ run.actions := by
    intro hplanned
    obtain ⟨r, hr, _⟩ := lastWrite_taken h.ready (mem_taken_iff.mpr ⟨hplanned, hx⟩) type
    rw [hnone] at hr
    cases hr
  obtain ⟨hip, hnames⟩ := of_cloudflare_unplanned hplan hunplanned
  rw [← hnames] at hx
  have hbelongs := h.provisioned.resolves x hx type
  unfold BelongsTo at hbelongs ⊢
  rw [← hip, ← recordType_eq h.recognized.1 h.recognized.2 hip]
  exact hbelongs

/-- Runs that proceed side by side leave every server of theirs its hostnames exactly
when each spares those of the others. -/
theorem runs_resolve_iff {F : Forms} {runs : List AnsibleRun}
    (hruns : ∀ run ∈ runs, ∃ o, RunFor F net records o run) :
    (∀ writes, Interleaving (runs.map (runWrites F net)) writes →
      ∀ run ∈ runs, Resolves F net (writeAll records writes) run.server) ↔
      ∀ run ∈ runs, ∀ other ∈ runs, other ≠ run → Spares F net other run.server := by
  constructor
  · intro hresolves run hrun other hother _
    obtain ⟨_, hfor⟩ := hruns other hother
    rw [spares_iff hfor.ready]
    intro x hx type
    have hkey : ∀ writes, Interleaving (runs.map (runWrites F net)) writes →
        BelongsTo F net run.server type
          ((writeAll records writes { record := x, type }).map DnsRecord.value) :=
      fun writes hwrites => hresolves writes hwrites run hrun x hx type
    -- The other run may come last.
    rw [forall_interleaving_iff (P := fun r =>
      BelongsTo F net run.server type (r.map DnsRecord.value))] at hkey
    exact hkey.1 _ (List.mem_map_of_mem hother)
  · intro hspares writes hwrites run hrun x hx type
    revert writes
    rw [forall_interleaving_iff (P := fun r =>
      BelongsTo F net run.server type (r.map DnsRecord.value))]
    obtain ⟨_, hfor⟩ := hruns run hrun
    constructor
    · intro ws hws
      obtain ⟨other, hother, rfl⟩ := List.mem_map.mp hws
      obtain ⟨_, hotherFor⟩ := hruns other hother
      have hspare : Spares F net other run.server := by
        by_cases hsame : other = run
        · rw [hsame]
          exact hfor.spares
        · exact hspares run hrun other hother hsame
      exact (spares_iff hotherFor.ready).mp hspare x hx type
    · intro hnone
      exact hfor.untouched hx (hnone _ (List.mem_map_of_mem hrun))

/-- After the runs of a Rebase that ended well, in whatever order their writes came,
every rebased server has its hostnames, exactly when every run spares the hostnames
of the other rebased servers. -/
theorem reconcileCloud_resolves_iff (hnew : parseCloudConfig env.forms draws t = .ok new)
    (hold : ∀ s ∈ old.servers, s.state = .Production → Provisioned env.forms net records s)
    (hips : ∀ s ∈ old.servers ++ new.servers, Recognized env.forms net s.ip)
    (h : (reconcileCloud env old new .Rebase (some data) ord dirs).result = .ok c) :
    (∀ writes, Interleaving
        ((reconcileCloud env old new .Rebase (some data) ord dirs).started.map
          (runWrites env.forms net)) writes →
      ∀ run ∈ (reconcileCloud env old new .Rebase (some data) ord dirs).started,
        Resolves env.forms net (writeAll records writes) run.server) ↔
      ∀ run ∈ (reconcileCloud env old new .Rebase (some data) ord dirs).started,
        ∀ other ∈ (reconcileCloud env old new .Rebase (some data) ord dirs).started,
          other ≠ run → Spares env.forms net other run.server := by
  have hleads : ∀ s ∈ new.servers, Leads env.forms s :=
    fun s hs => leads_of_reaches (parseCloudConfig_reaches hnew s hs)
  apply runs_resolve_iff
  intro run hrun
  have hnonempty : old.servers ≠ [] := by
    intro hempty
    rw [reconcileCloud_started_of_isEmpty hempty] at hrun
    cases hrun
  obtain ⟨_, cloud, pairs, _, hok⟩ := reconcileCloud_rebaseOk hnonempty h
  exact exists_runFor hok hleads hold hips hrun

end Rebase

section Instances

open Xcplane.Specimen

def gamma : KetServer :=
  { alpha with
    name := "gamma"
    ip := googleDns
    domain := .domain "b.example.org"
    ansibleConn := some (conn "8.8.8.8" 79) }

def held : Cloud := cloud [alpha, gamma]

/-- The two servers exchange their domains. -/
def exchanged : TCloud :=
  declared
    [{ alpha with domain := gamma.domain, inbounds := [direct] },
      { gamma with domain := alpha.domain, inbounds := [direct] }]

def freshSecrets : Secrets where
  healthPath := "163158e1b5180543"
  dohEndpoint := "doh2"
  xuiUsername := "user2"
  xuiPassword := "password2"
  xuiToken := none
  xuiWebpath := "web2"
  xuiSubpath := "sub2"
  xuiJsubpath := "json2"
  motherSubids := [("direct", "id2"), ("super", "super")]

def exchangedCloud : Cloud :=
  cloud
    [{ alpha with domain := gamma.domain, secrets := freshSecrets },
      { gamma with domain := alpha.domain, secrets := freshSecrets }]

theorem parseCloudConfig_exchanged :
    parseCloudConfig env.forms draws exchanged = .ok exchangedCloud := rfl

def exchangedData : List (String × RebaseData) :=
  [("alpha", ⟨[], [], ⟨some "example.org", some "dns.a.example.org", some "ui.a.example.org",
      some "sub.a.example.org"⟩⟩),
    ("gamma", ⟨[], [], ⟨some "example.org", some "dns.b.example.org", some "ui.b.example.org",
      some "sub.b.example.org"⟩⟩)]

theorem createRebaseData_exchanged :
    createRebaseData forms ⟨false⟩ inboundOrder held exchangedCloud (iteration _) =
      .ok exchangedData := rfl

/-- No host has an address of the other kind. -/
def network : Network where
  isAddress
    | .A, text => text.toList.contains '.'
    | .AAAA, text => text.toList.contains ':'
  discovered _ _ := none

def recordsHeld : Records := fun k =>
  if k.type = .A ∧ k.record ∈ hostnames forms alpha then some ⟨"1.1.1.1", false⟩
  else if k.type = .A ∧ k.record ∈ hostnames forms gamma then some ⟨"8.8.8.8", false⟩
  else none

theorem held_provisioned : ∀ s ∈ held.servers, s.state = .Production →
    Provisioned env.forms network recordsHeld s := by
  intro s hs _
  simp only [held, cloud, List.mem_cons, List.not_mem_nil, or_false] at hs
  rcases hs with rfl | rfl
  · exact ⟨rfl, by decide +kernel⟩
  · exact ⟨rfl, by decide +kernel⟩

def exchangeRuns : List AnsibleRun :=
  (reconcileCloud env held exchangedCloud .Rebase (some exchangedData) (order _ _) dirs).started

theorem recognized_exchange : ∀ s ∈ held.servers ++ exchangedCloud.servers,
    Recognized env.forms network s.ip := by
  intro s hs type
  simp only [held, exchangedCloud, cloud, List.mem_append, List.mem_cons, List.not_mem_nil,
    or_false] at hs
  rcases hs with (rfl | rfl) | rfl | rfl <;> cases type <;> decide +kernel

theorem reconcileCloud_resolves_iff_exchanged :
    (∀ writes, Interleaving (exchangeRuns.map (runWrites env.forms network)) writes →
      ∀ run ∈ exchangeRuns, Resolves env.forms network (writeAll recordsHeld writes) run.server) ↔
      ∀ run ∈ exchangeRuns, ∀ other ∈ exchangeRuns, other ≠ run →
        Spares env.forms network other run.server := by
  obtain ⟨c, hc⟩ : ∃ c, (reconcileCloud env held exchangedCloud .Rebase (some exchangedData)
      (order _ _) dirs).result = .ok c := ⟨_, rfl⟩
  exact reconcileCloud_resolves_iff parseCloudConfig_exchanged held_provisioned
    recognized_exchange hc

theorem exchange_lost : ¬ ∀ run ∈ exchangeRuns, Resolves env.forms network
    (writeAll recordsHeld (exchangeRuns.map (runWrites env.forms network)).flatten) run.server := by
  decide +kernel

/-- When `gamma` gives up the hostnames that `alpha` has just set up, they are gone. -/
theorem reconcileCloud_exchanged_lost :
    parseCloudConfig env.forms draws exchanged = .ok exchangedCloud ∧
      createRebaseData forms ⟨false⟩ inboundOrder held exchangedCloud (iteration _) =
        .ok exchangedData ∧
      (∀ s ∈ held.servers, s.state = .Production → Provisioned env.forms network recordsHeld s) ∧
      (∃ c, (reconcileCloud env held exchangedCloud .Rebase (some exchangedData) (order _ _)
        dirs).result = .ok c) ∧
      ¬ ∀ writes, Interleaving (exchangeRuns.map (runWrites env.forms network)) writes →
        ∀ run ∈ exchangeRuns,
          Resolves env.forms network (writeAll recordsHeld writes) run.server := by
  refine ⟨parseCloudConfig_exchanged, createRebaseData_exchanged, held_provisioned, ⟨_, rfl⟩, ?_⟩
  intro h
  exact exchange_lost (h _ (interleaving_flatten _))

end Instances

end Xcplane.DnsRecords
