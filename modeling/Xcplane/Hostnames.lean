import Mathlib.Data.List.Pairwise
import Xcplane.DnsRecords
import Xcplane.RebaseVerdict
import Xcplane.WellFormedConfig

/-!
The hostnames of a parsed cloud are distinct: the parser compares the domains, and within
a server the subdomains, and a subdomain has no dot.
-/

namespace Xcplane.Hostnames

open Xcplane.Types
open Xcplane.Lib
open Xcplane.Server
open Xcplane.CloudConfig
open Xcplane.WellFormedConfig
open Xcplane.DnsRecords
open Xcplane.RebaseVerdict

/-- The hostname that a check of the service goes to. SSH is checked at the IP. -/
def checkedHostname (F : Forms) (s : KetServer) : SvcKind → Option String
  | .Ssh => none
  | .Nginx => some (uihostname F s)
  | .Xray _ => some (subhostname F s)

/-- A hostname that something of the server bears: a record of its setup, a virtual server
of its Nginx, or a check of one of its services. -/
inductive Bears (F : Forms) (net : Network) (s : KetServer) (h : String) : Prop
  | record {st : CFState} {host : String} {w : Write RecordKey DnsRecord}
      (hw : w ∈ cloudflareSetup F net s st host) (hrecord : w.key.record = h)
  | serverName (hh : h ∈ [dnshostname F s, uihostname F s, subhostname F s])
  | check {kind : SvcKind} (hh : checkedHostname F s kind = some h)

section Server

variable {F : Forms} {net : Network} {inboundSet : List Inbound} {s s' : KetServer} {h : String}

theorem Bears.mem_hostnames (hb : Bears F net s h) : h ∈ hostnames F s := by
  cases hb with
  | record hw hrecord => exact hrecord ▸ (points_cloudflareSetup hw).1
  | serverName hh => exact hh
  | @check kind hh =>
      cases kind with
      | Ssh => cases hh
      | Nginx => simp [hostnames, ← Option.some.inj hh]
      | Xray inb => simp [hostnames, ← Option.some.inj hh]

theorem hostnames_eq_map : hostnames F s =
    (subdomainsOf s).reverse.map fun sd => sd ++ "." ++ F.hostText s.domain := rfl

theorem mem_hostnames_iff :
    h ∈ hostnames F s ↔ ∃ sd ∈ subdomainsOf s, sd ++ "." ++ F.hostText s.domain = h := by
  rw [hostnames_eq_map, List.mem_map]
  simp only [List.mem_reverse]

theorem hostnames_completed (hs : Completed inboundSet s s') : hostnames F s' = hostnames F s := by
  rw [hs.same]
  rfl

theorem hostnames_nodup (hs : WellFormedServer inboundSet s) : (hostnames F s).Nodup := by
  rw [hostnames_eq_map]
  apply List.Nodup.map_on _ (List.nodup_reverse.mpr hs.subdomains_nodup)
  intro sd hsd sd' hsd' heq
  rw [List.mem_reverse] at hsd hsd'
  exact ((hostname_eq_iff (dot_notMem_of_isProperSubdomain (hs.subdomains sd hsd))
    (dot_notMem_of_isProperSubdomain (hs.subdomains sd' hsd'))).mp heq).1

/-- The first dot of a hostname ends its subdomain, so that the rest is the domain. -/
theorem hostText_eq_of_shared (hs : WellFormedServer inboundSet s)
    (hs' : WellFormedServer inboundSet s') (hmem : h ∈ hostnames F s)
    (hmem' : h ∈ hostnames F s') : F.hostText s.domain = F.hostText s'.domain := by
  obtain ⟨sd, hsd, rfl⟩ := mem_hostnames_iff.mp hmem
  obtain ⟨sd', hsd', heq⟩ := mem_hostnames_iff.mp hmem'
  exact ((hostname_eq_iff (dot_notMem_of_isProperSubdomain (hs.subdomains sd hsd))
    (dot_notMem_of_isProperSubdomain (hs'.subdomains sd' hsd'))).mp heq.symm).2

end Server

section Cloud

variable {F : Forms} {draws : Nat → SecretDraw} {t : TCloud} {c : Cloud}

/-- The domains of the servers have distinct texts. -/
def TellsApart (F : Forms) (servers : List KetServer) : Prop :=
  ∀ s ∈ servers, ∀ s' ∈ servers, F.hostText s.domain = F.hostText s'.domain → s.domain = s'.domain

theorem flatMap_hostnames_nodup (ht : WellFormed t) (htext : TellsApart F t.servers) :
    (t.servers.flatMap (hostnames F)).Nodup := by
  rw [List.nodup_flatMap]
  constructor
  · intro s hs
    exact hostnames_nodup (ht.servers s hs)
  · have hdomains := List.pairwise_map.mp ht.domains
    apply hdomains.imp_of_mem
    intro s s' hs hs' hne h hmem hmem'
    apply hne
    apply htext s hs s' hs'
    exact hostText_eq_of_shared (ht.servers s hs) (ht.servers s' hs') hmem hmem'

theorem flatMap_hostnames_completed {inboundSet : List Inbound} {l l' : List KetServer}
    (h : List.Forall₂ (Completed inboundSet) l l') :
    l'.flatMap (hostnames F) = l.flatMap (hostnames F) := by
  induction h with
  | nil => rfl
  | cons hs _ ih => rw [List.flatMap_cons, List.flatMap_cons, hostnames_completed hs, ih]

/-- No two hostnames of a parsed cloud are the same, and nothing of a server bears a
hostname of another one. -/
theorem parsed_hostnames_nodup (hparse : parseCloudConfig F draws t = .ok c)
    (htext : TellsApart F t.servers) :
    (c.servers.flatMap (hostnames F)).Nodup ∧
      ∀ net, ∀ s ∈ c.servers, ∀ s' ∈ c.servers, ∀ h, Bears F net s h → h ∈ hostnames F s' →
        s = s' := by
  have hnodup : (c.servers.flatMap (hostnames F)).Nodup := by
    rw [flatMap_hostnames_completed (forall₂_completed hparse)]
    exact flatMap_hostnames_nodup (exists_parseCloudConfig_iff.mp ⟨c, hparse⟩) htext
  refine ⟨hnodup, ?_⟩
  intro net s hs s' hs' h hbears hmem'
  have hmem := hbears.mem_hostnames
  by_contra hne
  have : Std.Symm (Function.onFun List.Disjoint (hostnames F)) := ⟨fun _ _ h => h.symm⟩
  exact (List.nodup_flatMap.mp hnodup).2.forall hs hs' hne hmem hmem'

end Cloud

section Instances

open Xcplane.Specimen

/-- Two servers, one of which is below a hostname of the other. -/
def nested : TCloud :=
  declared
    [{ alpha with inbounds := [direct] },
      { beta with domain := .domain "ui.a.example.org", inbounds := [direct] }]

theorem parsed_hostnames_nodup_nested : ∃ c, parseCloudConfig forms draws nested = .ok c ∧
    (c.servers.flatMap (hostnames forms)).Nodup := by
  obtain ⟨c, hc⟩ : ∃ c, parseCloudConfig forms draws nested = .ok c := ⟨_, rfl⟩
  exact ⟨c, hc, (parsed_hostnames_nodup hc (by unfold TellsApart; decide)).1⟩

end Instances

end Xcplane.Hostnames
