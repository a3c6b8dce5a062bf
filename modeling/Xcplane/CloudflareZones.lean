import Xcplane.Cloudflare
import Xcplane.Lib.Lowercase
import Xcplane.Lib.StableSort
import Xcplane.Specimen

/-!
The zone that a domain lies in: the longest of those that Cloudflare lists, and whether the
domain is below it. The search leaves letter case out on both sides, the depth only on the
side of the domain.
-/

namespace Xcplane.CloudflareZones

open Xcplane.Types
open Xcplane.Lib
open Xcplane.Lib.Utf8
open Xcplane.Cloudflare

section Lookup

variable (T : CaseTables)

def lower (s : String) : String :=
  .ofList (toLowercase T s.toList)

def endsWith (s suffix : String) : Bool :=
  suffix.toList.isSuffixOf s.toList

def stripSuffix (s suffix : String) : Option String :=
  if endsWith s suffix then some (.ofList (s.toList.take (s.toList.length - suffix.toList.length)))
  else none

/-- The zone answers for the domain, which is in lowercase already. -/
def isWithin (domainStr : String) (zone : CFZone) : Bool :=
  let zoneName := lower T zone.name
  zoneName == domainStr || endsWith domainStr ("." ++ zoneName)

def getCfZone (fetched : Except BoxError (List CFZone)) (domain : String) :
    Except BoxError CFZone := do
  let zones ← fetched
  let domainStr := lower T domain
  okOr (maxByKey (fun zone => zone.name.utf8ByteSize) (zones.filter (isWithin T domainStr)))
    ("Domain '" ++ domainStr ++ "' is not within any Cloudflare zone. " ++
      "Have you added it to Cloudflare properly?")

def nestedSubdomains (domain zoneName : String) : Nat :=
  match (stripSuffix (lower T domain) zoneName).bind fun s => stripSuffix s "." with
  | some s => (s.toList.splitOn '.').length
  | none => 0

def tooDeep (domain zoneName : String) : Bool :=
  decide (0 < nestedSubdomains T domain zoneName)

end Lookup

section Meaning

variable (T : CaseTables)

/-- The domain is a proper subdomain of the zone, in whatever case. -/
def Below (domain : String) (zone : CFZone) : Prop :=
  ("." ++ lower T zone.name).toList <:+ (lower T domain).toList

def Encloses (domain : String) (zone : CFZone) : Prop :=
  lower T zone.name = lower T domain ∨ Below T domain zone

/-- No zone that encloses the domain has a longer name. -/
structure Longest (zones : List CFZone) (domain : String) (zone : CFZone) : Prop where
  mem : zone ∈ zones
  encloses : Encloses T domain zone
  greatest : ∀ zone' ∈ zones, Encloses T domain zone' →
    zone'.name.utf8ByteSize ≤ zone.name.utf8ByteSize

/-- Of the zones with the longest name that enclose the domain, the one listed last. -/
def Innermost (zones : List CFZone) (domain : String) (zone : CFZone) : Prop :=
  ∃ before after, zones = before ++ zone :: after ∧ Encloses T domain zone ∧
    (∀ zone' ∈ before, Encloses T domain zone' →
      zone'.name.utf8ByteSize ≤ zone.name.utf8ByteSize) ∧
    ∀ zone' ∈ after, Encloses T domain zone' →
      zone'.name.utf8ByteSize < zone.name.utf8ByteSize

/-- The zone is the longest one, there is one unless no zone encloses the domain, and the
domain is too deep when it is not the zone's own name. -/
def Answered (zones : List CFZone) (domain : String) : Prop :=
  (∀ zone, getCfZone T (.ok zones) domain = .ok zone →
    Longest T zones domain zone ∧ (tooDeep T domain zone.name = true ↔ Below T domain zone)) ∧
  ((∃ e, getCfZone T (.ok zones) domain = .error e) ↔ ∀ zone ∈ zones, ¬ Encloses T domain zone)

end Meaning

section Texts

variable {T : CaseTables} {s suffix r domain zoneName : String} {zone : CFZone}

theorem endsWith_iff : endsWith s suffix = true ↔ suffix.toList <:+ s.toList :=
  List.isSuffixOf_iff_suffix

theorem stripSuffix_eq_some_iff : stripSuffix s suffix = some r ↔ s = r ++ suffix := by
  rw [stripSuffix, ← String.toList_inj, String.toList_append]
  constructor
  · intro h
    split at h
    · rename_i hends
      obtain ⟨p, hp⟩ := endsWith_iff.mp hends
      have hr := congrArg String.toList (Option.some.inj h)
      rw [String.toList_ofList, ← hp, List.length_append, Nat.add_sub_cancel,
        List.take_left] at hr
      rw [← hr, hp]
    · cases h
  · intro h
    have hends : endsWith s suffix = true := endsWith_iff.mpr ⟨_, h.symm⟩
    rw [if_pos hends, h, List.length_append, Nat.add_sub_cancel, List.take_left,
      String.ofList_toList]

theorem toList_lower (s : String) : (lower T s).toList = toLowercase T s.toList :=
  String.toList_ofList

/-- Without the zone and the dot before it there is always a name left, if only an empty
one. -/
theorem tooDeep_iff :
    tooDeep T domain zoneName = true ↔ ("." ++ zoneName).toList <:+ (lower T domain).toList := by
  have hstripped (r : String) : ((stripSuffix (lower T domain) zoneName).bind fun s =>
      stripSuffix s ".") = some r ↔ lower T domain = r ++ ("." ++ zoneName) := by
    simp only [Option.bind_eq_some_iff, stripSuffix_eq_some_iff]
    constructor
    · rintro ⟨s, hs, rfl⟩
      rw [hs, String.append_assoc]
    · intro h
      exact ⟨r ++ ".", by rw [h, String.append_assoc], rfl⟩
  rw [tooDeep, decide_eq_true_eq, nestedSubdomains]
  constructor
  · intro h
    split at h
    · rename_i r hr
      rw [(hstripped r).mp hr]
      exact ⟨r.toList, String.toList_append.symm⟩
    · exact absurd h (Nat.lt_irrefl 0)
  · rintro ⟨p, hp⟩
    have hr : lower T domain = .ofList p ++ ("." ++ zoneName) := by
      rw [← String.toList_inj, String.toList_append, String.toList_ofList]
      exact hp.symm
    rw [(hstripped _).mpr hr]
    exact List.length_pos_iff.mpr (List.splitOn_ne_nil _ _)

theorem isWithin_iff : isWithin T (lower T domain) zone = true ↔ Encloses T domain zone := by
  simp only [isWithin, Encloses, Below, Bool.or_eq_true, beq_iff_eq, endsWith_iff]

theorem not_dot_suffix_self : ¬ ("." ++ s).toList <:+ s.toList := by
  intro h
  have hle := h.length_le
  rw [String.toList_append, List.length_append] at hle
  exact absurd hle (by simp)

/-- A name that the lowercase of a text ends with has no case to lose. -/
theorem lower_of_suffix (hT : Settling T) (h : zoneName.toList <:+ (lower T domain).toList) :
    lower T zoneName = zoneName := by
  have hsubset : zoneName.toList ⊆ toLowercase T domain.toList := by
    rw [← toList_lower]
    exact h.subset
  rw [lower, toLowercase_of_subset hT hsubset, String.ofList_toList]

/-- The depth is told right where the zone's name has no capitals, or is the whole domain. -/
theorem tooDeep_iff_below_iff (hT : Settling T) (h : Encloses T domain zone) :
    (tooDeep T domain zone.name = true ↔ Below T domain zone) ↔
      (lower T zone.name = zone.name ∨ lower T zone.name = lower T domain) := by
  have hlower (hdeep : tooDeep T domain zone.name = true) : lower T zone.name = zone.name := by
    have hsuffix := tooDeep_iff.mp hdeep
    rw [String.toList_append] at hsuffix
    exact lower_of_suffix hT ((List.suffix_append _ _).trans hsuffix)
  constructor
  · intro hiff
    rcases h with heq | hbelow
    · exact .inr heq
    · exact .inl (hlower (hiff.mpr hbelow))
  · rintro (hname | hwhole)
    · rw [tooDeep_iff, Below, hname]
    · refine iff_of_false ?_ ?_
      · intro hdeep
        have hsuffix := tooDeep_iff.mp hdeep
        rw [← hwhole, hlower hdeep] at hsuffix
        exact not_dot_suffix_self hsuffix
      · intro hbelow
        rw [Below, ← hwhole] at hbelow
        exact not_dot_suffix_self hbelow

end Texts

section Search

variable {T : CaseTables} {zones : List CFZone} {domain : String} {zone : CFZone}

theorem getCfZone_ok_iff :
    getCfZone T (.ok zones) domain = .ok zone ↔ Innermost T zones domain zone := by
  show okOr _ _ = _ ↔ _
  rw [okOr_eq_ok_iff, maxByKey_filter_eq_some_iff]
  simp only [isWithin_iff]
  rfl

theorem getCfZone_error_iff :
    (∃ e, getCfZone T (.ok zones) domain = .error e) ↔
      ∀ zone ∈ zones, ¬ Encloses T domain zone := by
  show (∃ e, okOr _ _ = .error e) ↔ _
  rw [okOr_error_iff, maxByKey_eq_none_iff, List.filter_eq_nil_iff]
  simp only [isWithin_iff]

theorem Innermost.longest (h : Innermost T zones domain zone) : Longest T zones domain zone := by
  obtain ⟨before, after, rfl, hencloses, hbefore, hafter⟩ := h
  refine ⟨by simp, hencloses, ?_⟩
  intro zone' hmem hencloses'
  rcases List.mem_append.mp hmem with hmem | hmem
  · exact hbefore zone' hmem hencloses'
  · rcases List.mem_cons.mp hmem with rfl | hmem
    · exact Nat.le_refl _
    · exact (hafter zone' hmem hencloses').le

/-- The zone and the error are right for every list and every domain, and the depth as long
as the zone found is listed in lowercase or is the domain itself. -/
theorem zone_and_depth_iff (T : CaseTables) (hT : Settling T) (zones : List CFZone)
    (domain : String) :
    Answered T zones domain ↔ ∀ zone, Innermost T zones domain zone →
      lower T zone.name = zone.name ∨ lower T zone.name = lower T domain := by
  constructor
  · rintro ⟨hfound, _⟩ zone hzone
    have hdepth := (hfound zone (getCfZone_ok_iff.mpr hzone)).2
    exact (tooDeep_iff_below_iff hT hzone.longest.encloses).mp hdepth
  · intro hcase
    refine ⟨?_, getCfZone_error_iff⟩
    intro zone hok
    have hzone := getCfZone_ok_iff.mp hok
    refine ⟨hzone.longest, ?_⟩
    exact (tooDeep_iff_below_iff hT hzone.longest.encloses).mpr (hcase zone hzone)

/-- Zones in ASCII have one that is longest, in whatever order they are listed. -/
theorem Longest.unique {zone' : CFZone}
    (hascii : ∀ zone ∈ zones, ∀ c ∈ zone.name.toList, isAsciiChar c = true)
    (hdistinct : ∀ zone ∈ zones, ∀ zone' ∈ zones, lower T zone.name = lower T zone'.name →
      zone = zone')
    (h : Longest T zones domain zone) (h' : Longest T zones domain zone') : zone = zone' := by
  apply hdistinct zone h.mem zone' h'.mem
  have hlength {zone : CFZone} (hmem : zone ∈ zones) :
      (lower T zone.name).toList.length = zone.name.utf8ByteSize := by
    rw [toList_lower, toLowercase_of_ascii (hascii zone hmem), List.length_map,
      utf8ByteSize_of_ascii (hascii zone hmem)]
  have hsuffix {zone : CFZone} (hencloses : Encloses T domain zone) :
      (lower T zone.name).toList <:+ (lower T domain).toList := by
    rcases hencloses with heq | hbelow
    · rw [heq]
    · rw [Below, String.toList_append] at hbelow
      exact (List.suffix_append _ _).trans hbelow
  have hsize : zone.name.utf8ByteSize = zone'.name.utf8ByteSize :=
    Nat.le_antisymm (h'.greatest zone h.mem h.encloses) (h.greatest zone' h'.mem h'.encloses)
  rw [← String.toList_inj]
  apply (List.suffix_of_suffix_length_le (hsuffix h.encloses) (hsuffix h'.encloses)
    (by rw [hlength h.mem, hlength h'.mem, hsize])).eq_of_length
  rw [hlength h.mem, hlength h'.mem, hsize]

end Search

section State

variable {T : CaseTables} {F : Forms} {cf : CfAnswers} {cfList : Option String} {s : KetServer}
  {st : CFState} {zones : List CFZone}

theorem lower_of_ascii {text : String} (h : ∀ c ∈ text.toList, isAsciiChar c = true) :
    lower T text = text.toLower := by
  rw [← String.toList_inj, toList_lower, toLowercase_of_ascii h]
  exact String.toList_map.symm

theorem tooDeep_eq_of_ascii {domain zoneName : String}
    (h : ∀ c ∈ domain.toList, isAsciiChar c = true) :
    Cloudflare.tooDeep domain zoneName = tooDeep T domain zoneName := by
  rw [Bool.eq_iff_iff, tooDeep_iff, lower_of_ascii h, String.toList_append]
  simp only [Cloudflare.tooDeep, Bool.and_eq_true, beq_iff_eq, List.isSuffixOf_iff_suffix]
  constructor
  · rintro ⟨⟨p, hp⟩, hlast⟩
    rw [← hp, List.length_append, Nat.add_sub_cancel, List.take_left] at hlast
    obtain ⟨q, rfl⟩ := List.getLast?_eq_some_iff.mp hlast
    exact ⟨q, by rw [← hp, List.append_assoc]; rfl⟩
  · rintro ⟨q, hq⟩
    have hsplit : q ++ ['.'] ++ zoneName.toList = domain.toLower.toList := by
      rw [← hq, List.append_assoc]
      rfl
    refine ⟨⟨_, hsplit⟩, ?_⟩
    rw [← hsplit, List.length_append, Nat.add_sub_cancel, List.take_left, List.getLast?_concat]

/-- What is stored of the zone that Cloudflare lists. -/
theorem setCfState_zone (hdomain : ∀ c ∈ (F.hostText s.domain).toList, isAsciiChar c = true)
    (hcf : cf.zone s = getCfZone T (.ok zones) (F.hostText s.domain))
    (h : setCfState F cf cfList s = .ok st) : ∃ zone,
      getCfZone T (.ok zones) (F.hostText s.domain) = .ok zone ∧ st.zoneName = zone.name ∧
        st.zoneId = zone.id ∧ st.tooDeep = tooDeep T (F.hostText s.domain) zone.name := by
  obtain ⟨zone, hzone, h⟩ := bind_eq_ok_iff.mp h
  obtain ⟨listData, _, h⟩ := bind_eq_ok_iff.mp h
  cases h
  exact ⟨zone, hcf.symm.trans hzone, rfl, rfl, tooDeep_eq_of_ascii hdomain⟩

end State

section Instances

def capitalZone : CFZone :=
  { id := "z1", name := "Example.org", accountId := "a1", accountName := "account" }

/-- A subdomain of a zone that is listed with a capital. -/
theorem subdomain_not_deep : ¬ ∀ zones domain, Answered asciiTables zones domain := by
  intro h
  have hok : getCfZone asciiTables (.ok [capitalZone]) "a.example.org" = .ok capitalZone := by
    decide +kernel
  have hbelow : Below asciiTables "a.example.org" capitalZone := by
    rw [Below]
    decide +kernel
  have hdeep := (((h [capitalZone] "a.example.org").1 _ hok).2).mpr hbelow
  exact absurd hdeep (by decide +kernel)

def nestedZones : List CFZone :=
  [{ capitalZone with name := "sub.example.org" }, { capitalZone with name := "example.org" }]

def nestedServer : KetServer :=
  { Specimen.alpha with domain := .domain "A.Sub.example.org" }

/-- Cloudflare where its list holds the two zones. -/
def nestedAnswers : CfAnswers :=
  { Specimen.cf with
    zone := fun s => getCfZone asciiTables (.ok nestedZones) (Specimen.forms.hostText s.domain) }

/-- The domain lies below both zones. The server is recorded below the inner one. -/
theorem zone_and_depth_nested :
    Settling asciiTables ∧ Answered asciiTables nestedZones "A.Sub.example.org" ∧
      ∃ st, setCfState Specimen.forms nestedAnswers none nestedServer = .ok st ∧
        st.zoneName = "sub.example.org" ∧ st.tooDeep = true := by
  have hlower : ∀ zone ∈ nestedZones, lower asciiTables zone.name = zone.name := by
    decide +kernel
  have hanswered : Answered asciiTables nestedZones "A.Sub.example.org" := by
    apply (zone_and_depth_iff asciiTables settling_asciiTables _ _).mpr
    intro zone hzone
    exact .inl (hlower zone hzone.longest.mem)
  have hfound : getCfZone asciiTables (.ok nestedZones) "A.Sub.example.org" =
      .ok { capitalZone with name := "sub.example.org" } := by
    decide +kernel
  have hbelow : Below asciiTables "A.Sub.example.org"
      { capitalZone with name := "sub.example.org" } := by
    rw [Below]
    decide +kernel
  have hzone : nestedAnswers.zone nestedServer =
      .ok { capitalZone with name := "sub.example.org" } := hfound
  obtain ⟨st, hst⟩ : ∃ st, setCfState Specimen.forms nestedAnswers none nestedServer = .ok st := by
    rw [setCfState, hzone]
    exact ⟨_, rfl⟩
  have hascii : ∀ c ∈ "A.Sub.example.org".toList, isAsciiChar c = true := by
    simp [isAsciiChar]
  obtain ⟨zone, hlisted, hname, -, hdeep⟩ := setCfState_zone hascii rfl hst
  obtain rfl := Except.ok.inj (hfound.symm.trans hlisted)
  refine ⟨settling_asciiTables, hanswered, st, hst, hname, ?_⟩
  rw [hdeep]
  exact (hanswered.1 _ hfound).2.mpr hbelow

end Instances

end Xcplane.CloudflareZones
