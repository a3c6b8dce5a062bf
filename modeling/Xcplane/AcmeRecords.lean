import Xcplane.Specimen
import Xcplane.Lib.Trace

/-!
The DNS records of the certificate runs. The runs of all servers proceed side by side,
and each cleans up by the name of the record before its challenge and after it.
-/

namespace Xcplane.AcmeRecords

open Xcplane.Types
open Xcplane.Lib

/-- A Production server as its certificate run finds it: without the state of its zone
the run fails before its tasks. -/
structure AcmeServer where
  server : KetServer
  cfstate : CFState
  production : server.state = .Production
  loaded : server.cfstate = some cfstate

def baseHostname (F : Forms) (a : AcmeServer) : String :=
  F.hostText a.server.domain

def AcmeServer.cloudflareZone (a : AcmeServer) : String :=
  a.cfstate.zoneName

inductive RecordType
  | CNAME
  | TXT
  deriving DecidableEq, Repr

structure RecordKey where
  zone : String
  record : String
  type : RecordType
  deriving DecidableEq, Repr

/-- The values of the records of a name and a type. -/
abbrev Records := RecordKey → List String

section Module

variable (key : RecordKey) (value : String) (records : Records)

def present : Records :=
  if value ∈ records key then records
  else Function.update records key (records key ++ [value])

/-- Every other record of the name goes. -/
def solo : Records :=
  present key value (Function.update records key ((records key).filter (· = value)))

def absent : Records :=
  Function.update records key []

variable {key value records} {k : RecordKey} {v : String}

theorem mem_present (h : v ∈ records k) : v ∈ present key value records k := by
  unfold present
  split
  · exact h
  · by_cases hk : k = key
    · subst hk
      simpa using Or.inl h
    · simpa [hk] using h

theorem mem_present_self : value ∈ present key value records key := by
  unfold present
  split
  · assumption
  · simp

theorem present_of_ne (hk : k ≠ key) : present key value records k = records k := by
  unfold present
  split
  · rfl
  · simp [hk]

@[simp] theorem solo_of_ne (hk : k ≠ key) : solo key value records k = records k := by
  rw [solo, present_of_ne hk, Function.update_of_ne hk]

@[simp] theorem absent_self : absent key records key = [] :=
  Function.update_self _ _ _

@[simp] theorem absent_of_ne (hk : k ≠ key) : absent key records k = records k :=
  Function.update_of_ne hk _ _

end Module

def cleanupRecord : String := "_acme-challenge"

/-- The hostname without the zone at its end. -/
def belowZone (hostname zone : String) : String :=
  let suffix := "." ++ zone
  if suffix.toList <:+ hostname.toList then
    .ofList (hostname.toList.take (hostname.length - suffix.length))
  else hostname

def acmeChallengeRecord (hostname zone : String) : String :=
  if hostname = zone then cleanupRecord else cleanupRecord ++ "." ++ belowZone hostname zone

/-- What starting the order answers: whether a challenge is pending, and the values to
publish for it. -/
structure Challenge where
  pending : Bool
  values : List String

/-- The tasks from the first clean-up to the last, a loop with one entry for each of
its items. -/
inductive AcmeTask
  | soloCleanup
  | cleanupTxt
  | cleanupCname
  | create (value : String)
  | waitCloudflare (value : String)
  | waitGoogle (value : String)
  | validate
  | soloWipe
  | wipeTxt
  deriving DecidableEq, Repr

def acmeTasks (c : Challenge) : List AcmeTask :=
  [AcmeTask.soloCleanup, .cleanupTxt, .cleanupCname] ++ c.values.map .create ++
    c.values.map .waitCloudflare ++ c.values.map .waitGoogle ++
    (if c.pending then [AcmeTask.validate] else []) ++ [AcmeTask.soloWipe, .wipeTxt]

section Keys

variable (F : Forms) (qualify : String → String → String) (a : AcmeServer)

/-- The records of that name in the server's zone, which the module completes to the
name that the API knows. -/
def recordKey (record : String) (type : RecordType) : RecordKey where
  zone := a.cloudflareZone
  record := qualify a.cloudflareZone record
  type := type

def cleanupKey (type : RecordType) : RecordKey :=
  recordKey qualify a cleanupRecord type

def challengeKey : RecordKey :=
  recordKey qualify a (acmeChallengeRecord (baseHostname F a) a.cloudflareZone) .TXT

def taskEffect (task : AcmeTask) (records : Records) : Records :=
  match task with
  | .soloCleanup => solo (cleanupKey qualify a .TXT) "acme-cleanup" records
  | .cleanupTxt => absent (cleanupKey qualify a .TXT) records
  | .cleanupCname => absent (cleanupKey qualify a .CNAME) records
  | .create value => present (challengeKey F qualify a) value records
  | .waitCloudflare _ => records
  | .waitGoogle _ => records
  | .validate => records
  | .soloWipe => solo (challengeKey F qualify a) "temporary-acme-cleanup-placeholder" records
  | .wipeTxt => absent (challengeKey F qualify a) records

end Keys

structure AcmeRun where
  done : List AcmeTask
  rest : List AcmeTask

def AcmeTask.created : AcmeTask → Option String
  | .create value => some value
  | _ => none

/-- The values that the run has created and not validated yet. -/
def AcmeRun.awaiting (r : AcmeRun) : List String :=
  if .validate ∈ r.rest then r.done.filterMap AcmeTask.created else []

variable {ι : Type}

structure Certification (ι : Type) where
  records : Records
  runs : ι → AcmeRun

/-- Before the first run of any server. -/
def startCertification (ι : Type) (records : Records) : Certification ι where
  records := records
  runs _ := { done := [], rest := [] }

inductive Event (ι : Type)
  | order (i : ι) (c : Challenge)
  | next (i : ι)
  | fail (i : ι)

def Event.server : Event ι → ι
  | .order i _ => i
  | .next i => i
  | .fail i => i

section Runs

variable [DecidableEq ι] (F : Forms) (qualify : String → String → String)
  (server : ι → AcmeServer)

/-- A server has one run at a time; a failed task ends it. -/
def step (st : Certification ι) : Event ι → Certification ι
  | .order i c =>
      match (st.runs i).rest with
      | [] => { st with runs := Function.update st.runs i { done := [], rest := acmeTasks c } }
      | _ :: _ => st
  | .next i =>
      match (st.runs i).rest with
      | [] => st
      | task :: rest =>
          { records := taskEffect F qualify (server i) task st.records
            runs := Function.update st.runs i { done := (st.runs i).done ++ [task], rest } }
  | .fail i =>
      { st with runs := Function.update st.runs i { done := (st.runs i).done, rest := [] } }

/-- A server's step deletes a record that another server has created and not validated
yet. -/
def Deletes (st : Certification ι) (e : Event ι) : Prop :=
  ∃ i, i ≠ e.server ∧ ∃ value ∈ (st.runs i).awaiting,
    value ∈ st.records (challengeKey F qualify (server i)) ∧
      value ∉ (step F qualify server st e).records (challengeKey F qualify (server i))

/-- Whatever the records at the start and whatever the order of the steps. -/
def Undisturbed : Prop :=
  ∀ records events, Along (step F qualify server)
    (fun st e => ¬ Deletes F qualify server st e) (startCertification ι records) events

/-- No server publishes where another one cleans up or publishes. -/
def Apart : Prop :=
  ∀ i j, i ≠ j →
    challengeKey F qualify (server i) ≠ cleanupKey qualify (server j) .TXT ∧
      challengeKey F qualify (server i) ≠ challengeKey F qualify (server j)

variable {F qualify server} {records : Records}

omit [DecidableEq ι] in
theorem challengeKey_ne_cname (a b : AcmeServer) :
    challengeKey F qualify a ≠ cleanupKey qualify b .CNAME := by
  intro h
  cases congrArg RecordKey.type h

/-- A task of another server keeps what is published, unless its name is that of the
clean-up or of the challenge there. -/
theorem taskEffect_keeps {a b : AcmeServer} {task : AcmeTask} {v : String}
    (hcleanup : challengeKey F qualify a ≠ cleanupKey qualify b .TXT)
    (hchallenge : challengeKey F qualify a ≠ challengeKey F qualify b)
    (hv : v ∈ records (challengeKey F qualify a)) :
    v ∈ taskEffect F qualify b task records (challengeKey F qualify a) := by
  cases task with
  | soloCleanup => rwa [taskEffect, solo_of_ne hcleanup]
  | cleanupTxt => rwa [taskEffect, absent_of_ne hcleanup]
  | cleanupCname => rwa [taskEffect, absent_of_ne (challengeKey_ne_cname a b)]
  | create value => exact mem_present hv
  | waitCloudflare value => exact hv
  | waitGoogle value => exact hv
  | validate => exact hv
  | soloWipe => rwa [taskEffect, solo_of_ne hchallenge]
  | wipeTxt => rwa [taskEffect, absent_of_ne hchallenge]

theorem not_deletes_of_apart (hapart : Apart F qualify server) (st : Certification ι)
    (e : Event ι) : ¬ Deletes F qualify server st e := by
  rintro ⟨i, hi, v, -, hv, hgone⟩
  apply hgone
  obtain ⟨hcleanup, hchallenge⟩ := hapart i e.server hi
  cases e with
  | order j c =>
      simp only [step]
      split
      · exact hv
      · exact hv
  | next j =>
      simp only [step]
      split
      · exact hv
      · exact taskEffect_keeps hcleanup hchallenge hv
  | fail j => exact hv

theorem step_runs_of_ne {st : Certification ι} {e : Event ι} {i : ι} (hi : i ≠ e.server) :
    (step F qualify server st e).runs i = st.runs i := by
  cases e with
  | order j c =>
      simp only [step]
      split
      · exact Function.update_of_ne hi _ _
      · rfl
  | next j =>
      simp only [step]
      split
      · rfl
      · exact Function.update_of_ne hi _ _
  | fail j => exact Function.update_of_ne hi _ _

/-- The server has published a value and waits for its validation. -/
def publishes (i : ι) : List (Event ι) :=
  .order i { pending := true, values := ["token"] } :: List.replicate 4 (.next i)

theorem run_publishes (F : Forms) (qualify : String → String → String) (server : ι → AcmeServer)
    (i : ι) :
    let st := run (step F qualify server) (startCertification ι fun _ => []) (publishes i)
    (st.runs i).awaiting = ["token"] ∧ "token" ∈ st.records (challengeKey F qualify (server i)) ∧
      ∀ j, j ≠ i → st.runs j = { done := [], rest := [] } := by
  refine ⟨?_, ?_, ?_⟩
  · simp [run, publishes, step, startCertification, acmeTasks, AcmeRun.awaiting,
      List.replicate]
    rfl
  · simp [run, publishes, step, startCertification, acmeTasks, List.replicate, taskEffect,
      mem_present_self]
  · intro j hj
    simp [run, publishes, step, startCertification, acmeTasks, List.replicate, hj]

/-- A whole run without a renewal that is due. -/
def passes (j : ι) : List (Event ι) :=
  .order j { pending := false, values := [] } :: List.replicate 5 (.next j)

theorem run_passes (F : Forms) (qualify : String → String → String) (server : ι → AcmeServer)
    {st : Certification ι} {j : ι} (hidle : st.runs j = { done := [], rest := [] }) :
    let st' := run (step F qualify server) st (passes j)
    st'.records (cleanupKey qualify (server j) .TXT) = [] ∧
      st'.records (challengeKey F qualify (server j)) = [] := by
  constructor
  · by_cases hkey : cleanupKey qualify (server j) .TXT = challengeKey F qualify (server j)
    · simp [run, passes, step, hidle, acmeTasks, List.replicate, taskEffect, hkey]
    · have hcname : cleanupKey qualify (server j) .TXT ≠ cleanupKey qualify (server j) .CNAME := by
        simp [cleanupKey, recordKey]
      simp [run, passes, step, hidle, acmeTasks, List.replicate, taskEffect, hkey, hcname]
  · simp [run, passes, step, hidle, acmeTasks, List.replicate, taskEffect]

/-- What a server has published stays for as long as only steps of another one follow, if
none of them deletes it. -/
theorem kept_of_along {st : Certification ι} {events : List (Event ι)} {i j : ι} {v : String}
    (hij : i ≠ j) (hevents : ∀ e ∈ events, e.server = j)
    (halong : Along (step F qualify server) (fun st e => ¬ Deletes F qualify server st e) st events)
    (hawaiting : v ∈ (st.runs i).awaiting)
    (hv : v ∈ st.records (challengeKey F qualify (server i))) :
    v ∈ (run (step F qualify server) st events).records (challengeKey F qualify (server i)) := by
  induction events generalizing st with
  | nil => exact hv
  | cons e events ih =>
      obtain rfl : e.server = j := hevents e List.mem_cons_self
      apply ih (fun e' he' => hevents e' (List.mem_cons_of_mem e he')) halong.2
      · rwa [step_runs_of_ne hij]
      · by_contra hgone
        exact halong.1 ⟨i, hij, v, hawaiting, hv, hgone⟩

theorem apart_of_undisturbed (h : Undisturbed F qualify server) : Apart F qualify server := by
  intro i j hij
  obtain ⟨hawaiting, htoken, hidle⟩ := run_publishes F qualify server i
  have halong := (along_append_iff.mp (h (fun _ => []) (publishes i ++ passes j))).2
  have hkept := kept_of_along hij (by simp [passes, Event.server]) halong
    (by rw [hawaiting]; exact List.mem_singleton_self _) htoken
  obtain ⟨hcleaned, hwiped⟩ := run_passes F qualify server (hidle j hij.symm)
  constructor
  · intro heq
    rw [heq, hcleaned] at hkept
    cases hkept
  · intro heq
    rw [heq, hwiped] at hkept
    cases hkept

/-- The runs leave each other's records alone in every order exactly when no server
publishes where another one cleans up or publishes. -/
theorem undisturbed_iff : Undisturbed F qualify server ↔ Apart F qualify server := by
  constructor
  · exact apart_of_undisturbed
  · intro hapart records events
    exact along_of_forall fun e _ st => not_deletes_of_apart hapart st e

end Runs

section Zone

variable {F : Forms} {qualify : String → String → String} {hostname hostname' zone : String}

/-- The hostname is the zone itself or a name below it. -/
def InZone (zone hostname : String) : Prop :=
  hostname = zone ∨ ∃ sub, hostname = sub ++ "." ++ zone

theorem belowZone_append (sub zone : String) : belowZone (sub ++ "." ++ zone) zone = sub := by
  have hsuffix : ("." ++ zone).toList <:+ (sub ++ "." ++ zone).toList := by
    simp [String.toList_append]
  simp only [belowZone, if_pos hsuffix]
  have hlength : (sub ++ "." ++ zone).length - ("." ++ zone).length = sub.toList.length := by
    rw [String.length_append, String.length_append, String.length_append, String.length_toList]
    omega
  rw [hlength, String.append_assoc, String.toList_append, List.take_left, String.ofList_toList]

theorem ne_below (sub zone : String) : sub ++ "." ++ zone ≠ zone := by
  intro h
  have hlength := congrArg String.length h
  simp only [String.length_append] at hlength
  have hdot : ".".length = 1 := rfl
  omega

theorem acmeChallengeRecord_below (sub zone : String) :
    acmeChallengeRecord (sub ++ "." ++ zone) zone = cleanupRecord ++ "." ++ sub := by
  rw [acmeChallengeRecord, if_neg (ne_below sub zone), belowZone_append]

/-- Only the zone itself publishes where every server of the zone cleans up. -/
theorem acmeChallengeRecord_eq_cleanup_iff (h : InZone zone hostname) :
    acmeChallengeRecord hostname zone = cleanupRecord ↔ hostname = zone := by
  rcases h with rfl | ⟨sub, rfl⟩
  · simp [acmeChallengeRecord]
  · rw [acmeChallengeRecord_below]
    constructor
    · intro heq
      have hlength := congrArg String.length heq
      simp only [String.length_append] at hlength
      have hdot : ".".length = 1 := rfl
      omega
    · intro heq
      exact absurd heq (ne_below sub zone)

theorem acmeChallengeRecord_inj (h : InZone zone hostname) (h' : InZone zone hostname')
    (heq : acmeChallengeRecord hostname zone = acmeChallengeRecord hostname' zone) :
    hostname = hostname' := by
  by_cases hzone : hostname = zone
  · rw [(acmeChallengeRecord_eq_cleanup_iff h).mpr hzone] at heq
    rw [hzone, (acmeChallengeRecord_eq_cleanup_iff h').mp heq.symm]
  · have hzone' : hostname' ≠ zone := by
      intro hzone'
      rw [(acmeChallengeRecord_eq_cleanup_iff h').mpr hzone'] at heq
      exact hzone ((acmeChallengeRecord_eq_cleanup_iff h).mp heq)
    obtain ⟨sub, rfl⟩ := h.resolve_left hzone
    obtain ⟨sub', rfl⟩ := h'.resolve_left hzone'
    rw [acmeChallengeRecord_below, acmeChallengeRecord_below] at heq
    have hlist := congrArg String.toList heq
    simp only [String.toList_append] at hlist
    rw [String.toList_injective (List.append_cancel_left hlist)]

variable {server : ι → AcmeServer}

/-- In one zone where different records have different names, what keeps servers with
distinct domains apart is that none of several servers has the zone as its domain. -/
theorem apart_iff_of_zone (hnames : Function.Injective (qualify zone))
    (hzone : ∀ i, (server i).cloudflareZone = zone)
    (hbelow : ∀ i, InZone zone (baseHostname F (server i)))
    (hdistinct : Function.Injective fun i => baseHostname F (server i)) :
    Apart F qualify server ↔ ∀ i j, i ≠ j → baseHostname F (server i) ≠ zone := by
  have hcleanup : ∀ i j, challengeKey F qualify (server i) = cleanupKey qualify (server j) .TXT ↔
      baseHostname F (server i) = zone := by
    intro i j
    rw [← acmeChallengeRecord_eq_cleanup_iff (hbelow i)]
    simp [challengeKey, cleanupKey, recordKey, hzone, hnames.eq_iff]
  constructor
  · intro hapart i j hij hi
    exact (hapart i j hij).1 ((hcleanup i j).mpr hi)
  · intro hapex i j hij
    refine ⟨fun heq => hapex i j hij ((hcleanup i j).mp heq), ?_⟩
    intro heq
    have hrecord := congrArg RecordKey.record heq
    simp only [challengeKey, recordKey, hzone] at hrecord
    exact hij (hdistinct (acmeChallengeRecord_inj (hbelow i) (hbelow j) (hnames hrecord)))

end Zone

/-- A server of the zone itself beside one below it. -/
def beside (below : Bool) : AcmeServer where
  server := { Specimen.alpha with
    domain := .domain (if below then "a.example.org" else "example.org") }
  cfstate := Specimen.cfstate
  production := rfl
  loaded := rfl

/-- The run of the server below the zone deletes what the zone itself has published for
its challenge, even where it has nothing to renew. -/
theorem undisturbed_apex_not :
    ¬ ∀ (F : Forms) (qualify : String → String → String) (ι : Type) (_ : DecidableEq ι)
      (server : ι → AcmeServer) (zone : String),
      (∀ i, (server i).cloudflareZone = zone) →
        (∀ i, InZone zone (baseHostname F (server i))) →
        (Function.Injective fun i => baseHostname F (server i)) →
        Undisturbed F qualify server := by
  intro h
  have hundisturbed := h Specimen.forms (fun zone record => record ++ "." ++ zone) Bool
    inferInstance beside "example.org" (by decide) ?_ ?_
  · exact (apart_of_undisturbed hundisturbed false true (by decide)).1 (by decide)
  · intro below
    cases below with
    | false => exact .inl (by decide)
    | true => exact .inr ⟨"a", by decide⟩
  · intro below below' heq
    revert below below'
    decide

end Xcplane.AcmeRecords
