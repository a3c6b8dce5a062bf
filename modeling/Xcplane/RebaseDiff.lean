import Xcplane.Server
import Xcplane.Lib.Enumeration
import Xcplane.Lib.Result

/-!
Comparing the current cloud with the new one before a Rebase: which inbounds a
server gains and loses and which of its hostnames become stale.
-/

namespace Xcplane.RebaseDiff

open Xcplane.Types
open Xcplane.Server
open Xcplane.Lib

structure RebaseDomain where
  zone : Option String
  dns : Option String
  ui : Option String
  sub : Option String
  deriving DecidableEq, Repr

structure RebaseData where
  addedInbounds : List Inbound
  removedInbounds : List Inbound
  rebaseDomain : RebaseDomain
  deriving DecidableEq, Repr

structure RebaseOpts where
  forced : Bool
  deriving DecidableEq, Repr

def isTls : InboundKind → Bool
  | .VlessGrpcTls => true
  | .VlessWsTls => true
  | .VlessXhttpTls => true
  | .VlessXhttpReality => false
  | .VlessTcpReality => false

/-- The inbound that a map filled through `entry(..).or_insert(..)` holds. -/
def firstInbound (s : KetServer) (name : String) : Option Inbound :=
  s.inbounds.find? fun inb => inb.name == name

/-- The order in which the names of the inbounds of two declarations of a server
are gone through. -/
structure InboundOrder where
  names : KetServer → KetServer → List String
  enumerates : ∀ curr new, Enumerates (names curr new)
    fun n => n ∈ curr.inboundNames ∨ n ∈ new.inboundNames

/-- The order in which the servers of the new cloud are gone through. -/
structure Iteration (new : Cloud) where
  names : List String
  enumerates : Enumerates names (· ∈ new.names)

def Iteration.servers {new : Cloud} (o : Iteration new) : List KetServer :=
  o.names.filterMap new.firstOf

section Comparison

variable (F : Forms) (opts : RebaseOpts)

def diffInbounds (curr new : KetServer) : List String → List Inbound → List Inbound →
    Except BoxError (List Inbound × List Inbound)
  | [], added, removed => .ok (added, removed)
  | n :: rest, added, removed =>
      match firstInbound curr n, firstInbound new n with
      | some currInb, some newInb =>
          if currInb = newInb then do
            ensure (!isTls currInb.kind || subhostname F curr == subhostname F new)
              ("Inbound '" ++ currInb.name ++ "' in server '" ++ curr.name ++
                "' is of TLS kind. Servers with TLS inbounds cannot change their domain " ++
                "or subscription subdomain, because their TLS inbounds will have to " ++
                "change, too.")
            diffInbounds curr new rest added removed
          else
            .error ("Inbounds are immutable, but server '" ++ new.name ++
              "' has modified its '" ++ newInb.name ++
              "' inbound in the new cloud. Rebase will not be performed.")
      | some currInb, none =>
          if opts.forced then
            diffInbounds curr new rest added (removed ++ [currInb])
          else
            .error ("Inbound deletion detected for server '" ++ new.name ++
              "'. Rebase must be invoked with forced (-f) flag if you really intend to " ++
              "delete an inbound.")
      | none, some newInb => diffInbounds curr new rest (added ++ [newInb]) removed
      | none, none => diffInbounds curr new rest added removed

/-- The zone of the old hostnames, needed only when one of them has changed. -/
def rebaseZone (curr : KetServer) (unchanged : Bool) : Except BoxError (Option String) :=
  if unchanged then .ok none
  else
    match curr.cfstate with
    | none => .error "Couldn't get CFState in create_rebase_data"
    | some cfstate => .ok (some cfstate.zoneName)

def rebaseDomain (curr new : KetServer) : Except BoxError RebaseDomain := do
  let domainChanged := new.domain != curr.domain
  let dns :=
    if new.dnsSubdomain != curr.dnsSubdomain || domainChanged then some (dnshostname F curr)
    else none
  let ui :=
    if new.uiSubdomain != curr.uiSubdomain || domainChanged then some (uihostname F curr)
    else none
  let sub :=
    if new.subSubdomain != curr.subSubdomain || domainChanged then some (subhostname F curr)
    else none
  let zone ← rebaseZone curr (dns.isNone && ui.isNone && sub.isNone)
  .ok { zone, dns, ui, sub }

def compareServer (ord : InboundOrder) (curr new : KetServer) : Except BoxError RebaseData := do
  let (addedInbounds, removedInbounds) ← diffInbounds F opts curr new (ord.names curr new) [] []
  let rebaseDomain ← rebaseDomain F curr new
  .ok { addedInbounds, removedInbounds, rebaseDomain }

/-- The variables declared outside the loop over the servers. -/
structure Carried where
  addedInbounds : List Inbound
  removedInbounds : List Inbound
  rebaseDomainOpt : Option RebaseDomain

def Carried.start : Carried where
  addedInbounds := []
  removedInbounds := []
  rebaseDomainOpt := none

def Carried.ofData (data : RebaseData) : Carried where
  addedInbounds := data.addedInbounds
  removedInbounds := data.removedInbounds
  rebaseDomainOpt := some data.rebaseDomain

def Carried.data (carried : Carried) : Except BoxError RebaseData :=
  match carried.rebaseDomainOpt with
  | none => .error "rebase_domain extraction must not fail."
  | some rebaseDomain =>
      .ok
        { addedInbounds := carried.addedInbounds
          removedInbounds := carried.removedInbounds
          rebaseDomain }

/-- The carried variables after one server. Only a server of the current cloud
sets them. -/
def visit (ord : InboundOrder) (currCloud : Cloud) (carried : Carried) (new : KetServer) :
    Except BoxError Carried :=
  match currCloud.firstOf new.name with
  | some curr => (compareServer F opts ord curr new).map Carried.ofData
  | none => .ok carried

def createLoop (ord : InboundOrder) (currCloud : Cloud) :
    List KetServer → Carried → List (String × RebaseData) →
      Except BoxError (List (String × RebaseData))
  | [], _, hashmap => .ok hashmap
  | new :: rest, carried, hashmap => do
      let carried ← visit F opts ord currCloud carried new
      let data ← carried.data
      createLoop ord currCloud rest carried (orInsert hashmap new.name data)

def createRebaseData (ord : InboundOrder) (currCloud newCloud : Cloud)
    (o : Iteration newCloud) : Except BoxError (List (String × RebaseData)) :=
  createLoop F opts ord currCloud o.servers Carried.start []

end Comparison

/-- The comparison of two declarations of a server refuses at this inbound name. -/
def RefusesInbound (F : Forms) (opts : RebaseOpts) (curr new : KetServer) (n : String) : Prop :=
  match firstInbound curr n, firstInbound new n with
  | some currInb, some newInb =>
      currInb ≠ newInb ∨
        isTls currInb.kind = true ∧ subhostname F curr ≠ subhostname F new
  | some _, none => opts.forced = false
  | none, _ => False

def HostnameChanged (curr new : KetServer) : Prop :=
  new.domain ≠ curr.domain ∨ new.dnsSubdomain ≠ curr.dnsSubdomain ∨
    new.uiSubdomain ≠ curr.uiSubdomain ∨ new.subSubdomain ≠ curr.subSubdomain

instance (curr new : KetServer) : Decidable (HostnameChanged curr new) :=
  inferInstanceAs (Decidable (_ ∨ _ ∨ _ ∨ _))

def Refuses (F : Forms) (opts : RebaseOpts) (curr new : KetServer) : Prop :=
  (∃ n, RefusesInbound F opts curr new n) ∨ HostnameChanged curr new ∧ curr.cfstate = none

theorem firstInbound_isSome_iff {s : KetServer} {n : String} :
    (firstInbound s n).isSome = true ↔ n ∈ s.inboundNames := by
  simp [firstInbound, KetServer.inboundNames]

section Comparison

variable {F : Forms} {opts : RebaseOpts} {curr new : KetServer}

theorem exists_diffInbounds_ok_iff {names : List String} {added removed : List Inbound} :
    (∃ d, diffInbounds F opts curr new names added removed = .ok d) ↔
      ∀ n ∈ names, ¬ RefusesInbound F opts curr new n := by
  induction names generalizing added removed with
  | nil => simp [diffInbounds]
  | cons n rest ih =>
      rw [List.forall_mem_cons, diffInbounds, RefusesInbound]
      cases hcurr : firstInbound curr n with
      | none =>
          cases hnew : firstInbound new n with
          | none => simpa using ih
          | some newInb => simpa using ih
      | some currInb =>
          cases hnew : firstInbound new n with
          | none =>
              cases hforced : opts.forced with
              | false => simp
              | true => simpa using ih
          | some newInb =>
              rcases eq_or_ne currInb newInb with heq | hne
              · simp only [heq, if_true, ensure_bind_eq_ok_iff, exists_and_left, ih]
                cases isTls newInb.kind <;> simp
              · simp [hne]

theorem exists_rebaseZone_ok_iff {unchanged : Bool} :
    (∃ zone, rebaseZone curr unchanged = .ok zone) ↔
      ¬ (unchanged = false ∧ curr.cfstate = none) := by
  unfold rebaseZone
  cases unchanged with
  | true => simp
  | false =>
      cases curr.cfstate with
      | none => simp
      | some cfstate => simp

theorem exists_rebaseDomain_ok_iff :
    (∃ d, rebaseDomain F curr new = .ok d) ↔
      ¬ (HostnameChanged curr new ∧ curr.cfstate = none) := by
  have hzone : (∃ d, rebaseDomain F curr new = .ok d) ↔
      ∃ zone, rebaseZone curr (!decide (HostnameChanged curr new)) = .ok zone := by
    unfold rebaseDomain
    simp only [bind_eq_ok_iff]
    have hunchanged : ∀ (a b : String) (x : String),
        (if a != b || new.domain != curr.domain then some x else none).isNone =
          !decide (a ≠ b ∨ new.domain ≠ curr.domain) := by
      intro a b x
      rcases eq_or_ne a b with hab | hab
      · rcases eq_or_ne new.domain curr.domain with hd | hd
        · simp [hab, hd]
        · simp [hab, hd]
      · simp [hab]
    rw [hunchanged, hunchanged, hunchanged]
    have hall : (!decide (HostnameChanged curr new)) =
        ((!decide (new.dnsSubdomain ≠ curr.dnsSubdomain ∨ new.domain ≠ curr.domain) &&
          !decide (new.uiSubdomain ≠ curr.uiSubdomain ∨ new.domain ≠ curr.domain)) &&
          !decide (new.subSubdomain ≠ curr.subSubdomain ∨ new.domain ≠ curr.domain)) := by
      rw [← Bool.not_or, ← Bool.not_or, ← Bool.decide_or, ← Bool.decide_or]
      congr 1
      apply decide_eq_decide.mpr
      unfold HostnameChanged
      tauto
    rw [← hall]
    constructor
    · rintro ⟨d, zone, hzone, _⟩
      exact ⟨zone, hzone⟩
    · rintro ⟨zone, hzone⟩
      exact ⟨_, zone, hzone, rfl⟩
  rw [hzone, exists_rebaseZone_ok_iff]
  simp

/-- A server is compared without an error unless its own declarations are a
reason to refuse. -/
theorem exists_compareServer_ok_iff {ord : InboundOrder} :
    (∃ data, compareServer F opts ord curr new = .ok data) ↔ ¬ Refuses F opts curr new := by
  have hnames : (∃ d, diffInbounds F opts curr new (ord.names curr new) [] [] = .ok d) ↔
      ∀ n, ¬ RefusesInbound F opts curr new n := by
    rw [exists_diffInbounds_ok_iff]
    constructor
    · intro h n hn
      refine h n ?_ hn
      rw [(ord.enumerates curr new).mem_iff, ← firstInbound_isSome_iff]
      left
      unfold RefusesInbound at hn
      cases hcurr : firstInbound curr n with
      | none => simp [hcurr] at hn
      | some currInb => rfl
    · intro h n _
      exact h n
  rw [Refuses, not_or, ← exists_rebaseDomain_ok_iff, not_exists, ← hnames]
  simp only [compareServer, bind_eq_ok_iff]
  constructor
  · rintro ⟨data, d, hd, domain, hdomain, _⟩
    exact ⟨⟨d, hd⟩, ⟨domain, hdomain⟩⟩
  · rintro ⟨⟨d, hd⟩, ⟨domain, hdomain⟩⟩
    exact ⟨_, d, hd, domain, hdomain, rfl⟩

end Comparison

end Xcplane.RebaseDiff
