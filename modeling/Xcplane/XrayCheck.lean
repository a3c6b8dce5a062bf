import Mathlib.Data.List.Count
import Xcplane.Naming
import Xcplane.Service
import Xcplane.Specimen

/-!
Checking an inbound: through a proxy of its own, several endpoints are asked for the
address that the requests come from, all at once, and the answers are compared with the IP
of the server as they arrive.
-/

namespace Xcplane.XrayCheck

open Xcplane.Lib
open Xcplane.Types
open Xcplane.Service

def ipv4Endpoints : List String :=
  ["https://api.ipify.org", "https://v4.ident.me", "https://ipv4.icanhazip.com",
    "https://whatismyip.akamai.com"]

def ipv6Endpoints : List String :=
  ["https://api6.ipify.org", "https://v6.ident.me", "https://ipv6.icanhazip.com",
    "https://whatismyip.akamai.com"]

def ipEndpoints : IpAddr → List String
  | .v4 _ => ipv4Endpoints
  | .v6 _ => ipv6Endpoints

/-- A request to an endpoint: the text it returned, or nothing for a failure, of which a
timeout is one. -/
structure IpRequest where
  endpoint : String
  fetched : Option String
  deriving DecidableEq, Repr

def requiredMatches : Nat := 2

/-- The loop over the requests in the order of their completion, with the matches so far. -/
def ipOkFrom (ipText : String) : Nat → List IpRequest → Bool
  | _, [] => false
  | found, r :: rest =>
      match r.fetched with
      -- The pattern of the loop binds a text, so that a failed request ends it.
      | none => false
      | some ip =>
          if Naming.trim ip = ipText then
            if requiredMatches ≤ found + 1 then true else ipOkFrom ipText (found + 1) rest
          else ipOkFrom ipText found rest

def ipOk (F : Forms) (s : KetServer) (completed : List IpRequest) : Bool :=
  ipOkFrom (F.ipText s.ip) 0 completed

/-- An entry of the action map that belongs to the monitor of an inbound. -/
structure XrayEntry where
  server : KetServer
  kind : SvcKind
  svcHealth : SvcHealth

/-- Servers are compared by their names. -/
def checkSuperXray (s : KetServer) (kind : SvcKind) (entries : List XrayEntry) :
    Except BoxError Unit :=
  if entries.any fun e =>
      e.kind != kind && e.server.name == s.name && e.svcHealth != .Ok then
    .error "one or more unhealthy inbounds"
  else .ok ()

/-- What a check of an inbound meets outside the daemon, and the requests in the order in
which they complete. -/
structure XrayRun where
  download : Except BoxError Unit
  spawn : Except BoxError Unit
  connects : List Bool
  client : Except BoxError Unit
  completed : List IpRequest

def proxyAttempts : Nat := 10

def checkXray (F : Forms) (s : KetServer) (kind : SvcKind) (link : Option String)
    (entries : List XrayEntry) (run : XrayRun) : Except BoxError Unit :=
  match kind with
  | .Xray inbound =>
      if inbound = SvcKind.superName then checkSuperXray s kind entries
      else
        match link with
        | some _ => do
            run.download
            run.spawn
            ensure ((run.connects.take proxyAttempts).any id)
              "The proxy couldn't be created via Xray binary, or it was unreachable."
            run.client
            ensure (ipOk F s run.completed) "The returned IP is not the same as the server IP"
        | none => .error "The link in an Xray service shouldn't be empty"
  | _ => .error "The service given is not an Xray one"

section Verdict

variable {F : Forms} {s : KetServer} {ipText : String} {completed requests : List IpRequest}

/-- The endpoint returned the address. -/
def IpRequest.matches (ipText : String) (r : IpRequest) : Bool :=
  r.fetched.any fun ip => Naming.trim ip == ipText

def IpRequest.failed (r : IpRequest) : Bool :=
  r.fetched.isNone

/-- What counts is what completed before the first failure. -/
theorem ipOkFrom_eq_true_iff {found : Nat} (hfound : found < requiredMatches) :
    ipOkFrom ipText found completed = true ↔ requiredMatches ≤ found +
      (completed.takeWhile fun r => !r.failed).countP (IpRequest.matches ipText) := by
  induction completed generalizing found with
  | nil =>
      rw [ipOkFrom, List.takeWhile_nil, List.countP_nil]
      exact iff_of_false Bool.false_ne_true (by omega)
  | cons r rest ih =>
      cases hr : r.fetched with
      | none =>
          have hfailed : (!r.failed) = false := by simp [IpRequest.failed, hr]
          simp only [ipOkFrom, hr, List.takeWhile_cons, hfailed]
          exact iff_of_false Bool.false_ne_true (by simpa using hfound)
      | some ip =>
          have hanswered : (!r.failed) = true := by simp [IpRequest.failed, hr]
          have hmatches : r.matches ipText = decide (Naming.trim ip = ipText) := by
            simp [IpRequest.matches, hr, beq_eq_decide]
          simp only [ipOkFrom, hr, List.takeWhile_cons, hanswered, if_true]
          by_cases hip : Naming.trim ip = ipText
          · rw [if_pos hip, List.countP_cons_of_pos (by simp [hmatches, hip])]
            by_cases hlast : requiredMatches ≤ found + 1
            · rw [if_pos hlast]
              exact iff_of_true rfl (by omega)
            · rw [if_neg hlast, ih (by omega)]
              omega
          · rw [if_neg hip, List.countP_cons_of_neg (by simp [hmatches, hip]), ih hfound]

theorem ipOk_eq_true_iff : ipOk F s completed = true ↔ requiredMatches ≤
    (completed.takeWhile fun r => !r.failed).countP (IpRequest.matches (F.ipText s.ip)) := by
  rw [ipOk, ipOkFrom_eq_true_iff (by decide), Nat.zero_add]

theorem takeWhile_answered (h : ∀ r ∈ completed, r.failed = false) :
    (completed.takeWhile fun r => !r.failed) = completed := by
  induction completed with
  | nil => rfl
  | cons r rest ih =>
      obtain ⟨hr, hrest⟩ := List.forall_mem_cons.mp h
      rw [List.takeWhile_cons, hr, Bool.not_false, if_pos rfl, ih hrest]

/-- A failure that completes first hides every answer. -/
theorem ipOk_failed_first {r : IpRequest} (hr : r.failed = true) :
    ipOk F s (r :: completed) = false := by
  rw [← Bool.not_eq_true, ipOk_eq_true_iff, List.takeWhile_cons, hr]
  exact Nat.not_succ_le_zero 1

/-- Once the proxy is up, the check of an inbound is the comparison of the addresses. -/
theorem checkXray_eq_ok_iff {inbound link : String} {entries : List XrayEntry} {run : XrayRun}
    (hinbound : inbound ≠ SvcKind.superName) (hdownload : run.download = .ok ())
    (hspawn : run.spawn = .ok ()) (hup : true ∈ run.connects.take proxyAttempts)
    (hclient : run.client = .ok ()) :
    checkXray F s (.Xray inbound) (some link) entries run = .ok () ↔
      ipOk F s run.completed = true := by
  have hany : (run.connects.take proxyAttempts).any id = true := by simpa using hup
  simp only [checkXray, if_neg hinbound, hdownload, hspawn, hclient, hany]
  cases ipOk F s run.completed with
  | true => exact iff_of_true rfl rfl
  | false => exact iff_of_false (by rintro ⟨⟩) Bool.false_ne_true

/-- The verdict is that of the answers, whatever the order of the completions, exactly
when no request fails or fewer answers match than are required. -/
theorem ipOk_all_orders_iff (F : Forms) (s : KetServer) (requests : List IpRequest) :
    (∀ completed : List IpRequest, completed.Perm requests → (ipOk F s completed = true ↔
        requiredMatches ≤ requests.countP (IpRequest.matches (F.ipText s.ip)))) ↔
      (∀ r ∈ requests, r.failed = false) ∨
        requests.countP (IpRequest.matches (F.ipText s.ip)) < requiredMatches := by
  constructor
  · intro h
    by_contra hnot
    obtain ⟨hfails, hmatches⟩ := not_or.mp hnot
    obtain ⟨r, hr, hfailed⟩ : ∃ r ∈ requests, r.failed = true := by
      by_contra hnone
      exact hfails fun r hr => Bool.eq_false_iff.mpr fun hfailed => hnone ⟨r, hr, hfailed⟩
    have hverdict := (h (r :: requests.erase r) (List.perm_cons_erase hr).symm).mpr
      (Nat.not_lt.mp hmatches)
    rw [ipOk_failed_first hfailed] at hverdict
    cases hverdict
  · rintro h completed hperm
    rw [ipOk_eq_true_iff, ← hperm.countP_eq]
    rcases h with hanswered | hfew
    · rw [takeWhile_answered fun r hr => hanswered r (hperm.mem_iff.mp hr)]
    · have hbefore := (List.takeWhile_sublist (fun r : IpRequest => !r.failed)
        (l := completed)).countP_le (p := IpRequest.matches (F.ipText s.ip))
      rw [← hperm.countP_eq] at hfew
      omega

end Verdict

section Instances

open Xcplane.Specimen

/-- Three endpoints return the IP of the server, but the request that completes first
fails. -/
def failedFirst : List IpRequest :=
  [⟨"https://api.ipify.org", none⟩, ⟨"https://v4.ident.me", some "1.1.1.1"⟩,
    ⟨"https://ipv4.icanhazip.com", some "1.1.1.1\n"⟩,
    ⟨"https://whatismyip.akamai.com", some "1.1.1.1"⟩]

theorem ipOk_failedFirst :
    failedFirst.map IpRequest.endpoint = ipEndpoints alpha.ip ∧
      failedFirst.countP (IpRequest.matches (forms.ipText alpha.ip)) = 3 ∧
        ipOk forms alpha failedFirst = false ∧ ipOk forms alpha failedFirst.reverse = true := by
  decide

end Instances

end Xcplane.XrayCheck
