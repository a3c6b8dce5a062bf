import Xcplane.ServicePorts
import Xcplane.Lib.Regex
import Xcplane.Lib.Utf8

/-!
The names and subdomains that a run checks again when it loads its variables: the regular
expressions of the checks accept what the recognizers of the controller accept.
-/

namespace Xcplane.VarLoading

open Xcplane.Types
open Xcplane.Server
open Xcplane.CloudConfig
open Xcplane.WellFormedConfig
open Xcplane.Naming
open Xcplane.Lib
open Xcplane.Lib.Utf8

section Checks

def alphanumRanges : List (Char × Char) := [('a', 'z'), ('A', 'Z'), ('0', '9')]

def wordRanges : List (Char × Char) := [('a', 'z'), ('A', 'Z'), ('0', '9'), ('_', '_')]

def lowerRanges : List (Char × Char) := [('a', 'z'), ('0', '9')]

def hyphenRanges : List (Char × Char) := [('a', 'z'), ('0', '9'), ('-', '-')]

/-- `^[a-zA-Z0-9](?:[a-zA-Z0-9_]*[a-zA-Z0-9])?$` -/
def nameRegex : Regex :=
  .seq .start (.seq (.framed alphanumRanges wordRanges) .stop)

/-- `^(?=.{1,63}$)[a-z0-9](?:[a-z0-9-]*[a-z0-9])?$` -/
def subdomainRegex : Regex :=
  .seq .start (.seq (.ahead (.seq (.repeated .any 1 (some 63)) .stop))
    (.seq (.framed lowerRanges hyphenRanges) .stop))

/-- What Python takes for whitespace: the Unicode property and four separators. -/
def isPythonSpace (c : Char) : Bool :=
  isWhitespace c || (0x1C ≤ c.toNat && c.toNat ≤ 0x1F)

/-- The `trim` of the templates. -/
def jinjaTrim (s : String) : String :=
  String.ofList ((s.toList.dropWhile isPythonSpace).reverse.dropWhile isPythonSpace).reverse

/-- The names among the variables of a run. -/
structure NameVars where
  nodeName : String
  dnsSubdomain : String
  uiSubdomain : String
  subSubdomain : String
  inboundNames : List String

/-- As `write_ansible_vars` sets them: the supervisor is no inbound of a run. -/
def nameVars (s : KetServer) : NameVars where
  nodeName := s.name
  dnsSubdomain := s.dnsSubdomain
  uiSubdomain := s.uiSubdomain
  subSubdomain := s.subSubdomain
  inboundNames := (Cloudflare.declaredInbounds s).map Inbound.name

def NameCheck (name : String) : Prop :=
  0 < (jinjaTrim name).length ∧ nameRegex.Matches name.toList

def SubdomainCheck (subdomain : String) : Prop :=
  0 < (jinjaTrim subdomain).length ∧ subdomainRegex.Matches (jinjaTrim subdomain).toList

/-- What `var_loading.yaml` asserts of the names. It compares the number of the inbounds with that
of their different names. -/
structure VarChecks (vars : NameVars) : Prop where
  nodeName : NameCheck vars.nodeName
  dnsSubdomain : SubdomainCheck vars.dnsSubdomain
  uiSubdomain : SubdomainCheck vars.uiSubdomain
  subSubdomain : SubdomainCheck vars.subSubdomain
  inboundNames : ∀ name ∈ vars.inboundNames, NameCheck name
  unique : vars.inboundNames.dedup.length = vars.inboundNames.length

end Checks

section Classes

theorem inRanges_lower (c : Char) : Regex.inRanges lowerRanges c = isAsciiLowerOrDigit c := by
  rw [lowerRanges, Regex.inRanges, List.any_cons, List.any_cons, List.any_nil, Bool.or_false]
  rfl

theorem inRanges_hyphen (c : Char) :
    Regex.inRanges hyphenRanges c = (isAsciiLowerOrDigit c || c == '-') := by
  rw [← inRanges_lower, ← Regex.inRanges_single, ← Regex.inRanges_append]
  rfl

theorem inRanges_alphanum (c : Char) : Regex.inRanges alphanumRanges c = c.isAlphanum := by
  have hupper : (decide ('A'.val ≤ c.val) && decide (c.val ≤ 'Z'.val)) = c.isUpper :=
    (Bool.decide_and _ _).symm
  rw [alphanumRanges, Regex.inRanges, List.any_cons, List.any_cons, List.any_cons, List.any_nil,
    Bool.or_false, hupper, Bool.or_left_comm, ← Bool.or_assoc]
  rfl

theorem inRanges_word (c : Char) :
    Regex.inRanges wordRanges c = (c.isAlphanum || c == '_') := by
  rw [← inRanges_alphanum, ← Regex.inRanges_single, ← Regex.inRanges_append]
  rfl

theorem toNat_of_hyphenRanges {c : Char} (h : (isAsciiLowerOrDigit c || c == '-') = true) :
    45 ≤ c.toNat ∧ c.toNat ≤ 122 := by
  rcases Bool.or_eq_true_iff.mp h with h | h
  · have halnum : c.isAlphanum = true := by
      rcases Bool.or_eq_true_iff.mp h with hlower | hdigit
      · exact Bool.or_eq_true_iff.mpr (Or.inl (Bool.or_eq_true_iff.mpr (Or.inr hlower)))
      · exact Bool.or_eq_true_iff.mpr (Or.inr hdigit)
    have := toNat_of_isAlphanum halnum
    omega
  · rw [beq_iff_eq.mp h]
    decide

end Classes

section Expressions

/-- An anchored expression matches the whole text. -/
theorem matches_anchored {r : Regex} {text : List Char} :
    (Regex.seq .start (.seq r .stop)).Matches text ↔ r.Match text text [] := by
  constructor
  · rintro ⟨rest, u, ⟨_, rfl⟩, v, hr, rfl, _⟩
    exact hr
  · intro hr
    exact ⟨[], text, ⟨rfl, rfl⟩, [], hr, rfl, rfl⟩

theorem isProper_iff_matches (name : String) :
    isProper name = true ↔ nameRegex.Matches name.toList := by
  have hsub : ∀ c, Regex.inRanges alphanumRanges c = true →
      Regex.inRanges wordRanges c = true := by
    intro c hc
    rw [inRanges_word, ← inRanges_alphanum, hc, Bool.true_or]
  rw [isProper_iff, nameRegex, matches_anchored, Regex.match_framed_iff hsub]
  simp only [funext inRanges_alphanum, funext inRanges_word]

theorem isProperSubdomain_iff_matches (name : String) :
    isProperSubdomain name = true ↔ subdomainRegex.Matches name.toList := by
  have hsub : ∀ c, Regex.inRanges lowerRanges c = true →
      Regex.inRanges hyphenRanges c = true := by
    intro c hc
    rw [inRanges_hyphen, ← inRanges_lower, hc, Bool.true_or]
  have hahead : subdomainRegex.Matches name.toList ↔
      (1 ≤ name.toList.length ∧ name.toList.length ≤ 63 ∧ '\n' ∉ name.toList) ∧
        (Regex.framed lowerRanges hyphenRanges).Match name.toList name.toList [] := by
    constructor
    · rintro ⟨rest, u, ⟨_, rfl⟩, v, hv, w, hw, rfl, _⟩
      obtain ⟨rfl, hlength⟩ := Regex.match_ahead_length.mp hv
      exact ⟨hlength, hw⟩
    · rintro ⟨hlength, hframed⟩
      exact ⟨[], _, ⟨rfl, rfl⟩, _, Regex.match_ahead_length.mpr ⟨rfl, hlength⟩, [], hframed,
        rfl, rfl⟩
  rw [hahead, Regex.match_framed_iff hsub]
  simp only [funext inRanges_lower, funext inRanges_hyphen, isProperSubdomain,
    Bool.and_eq_true, List.all_eq_true, decide_eq_true_eq]
  constructor
  · rintro ⟨⟨⟨⟨hne, hsize⟩, hhead⟩, hlast⟩, hall⟩
    have hascii : ∀ c ∈ name.toList, isAsciiChar c = true := fun c hc =>
      decide_eq_true ((toNat_of_hyphenRanges (hall c hc)).2.trans_lt (by decide))
    rw [utf8ByteSize_of_ascii hascii] at hsize
    refine ⟨⟨?_, hsize, ?_⟩, hhead, hlast, hall⟩
    · cases hcs : name.toList with
      | nil => rw [hcs] at hhead; cases hhead
      | cons c cs => exact Nat.succ_pos _
    · intro hfeed
      exact absurd (toNat_of_hyphenRanges (hall _ hfeed)).1 (by decide)
  · rintro ⟨⟨_, hsize, _⟩, hhead, hlast, hall⟩
    have hascii : ∀ c ∈ name.toList, isAsciiChar c = true := fun c hc =>
      decide_eq_true ((toNat_of_hyphenRanges (hall c hc)).2.trans_lt (by decide))
    rw [utf8ByteSize_of_ascii hascii]
    exact ⟨⟨⟨⟨not_isEmpty_of_head hhead, hsize⟩, hhead⟩, hlast⟩, hall⟩

end Expressions

section Accepted

theorem jinjaTrim_of_visible {s : String} (h : ∀ c ∈ s.toList, isPythonSpace c = false) :
    jinjaTrim s = s := by
  rw [jinjaTrim, dropWhile_of_none h,
    dropWhile_of_none fun c hc => h c (List.mem_reverse.mp hc), List.reverse_reverse,
    String.ofList_toList]

theorem isPythonSpace_of_range {c : Char} (hlo : 45 ≤ c.toNat) (hhi : c.toNat ≤ 122) :
    isPythonSpace c = false := by
  simp only [isPythonSpace, isWhitespace, Bool.or_eq_false_iff, Bool.and_eq_false_iff,
    decide_eq_false_iff_not, beq_eq_false_iff_ne]
  omega

theorem length_pos_of_head {name : String} {p : Char → Bool}
    (h : name.toList.head?.any p = true) : 0 < name.length := by
  rw [← String.length_toList]
  cases hcs : name.toList with
  | nil => rw [hcs] at h; cases h
  | cons c cs => exact Nat.succ_pos _

theorem nameCheck_of_isProper {name : String} (h : isProper name = true) : NameCheck name := by
  have hmatch := (isProper_iff_matches name).mp h
  obtain ⟨hhead, _, hall⟩ := (isProper_iff name).mp h
  have htrim : jinjaTrim name = name := by
    apply jinjaTrim_of_visible
    intro c hc
    have hrange := toNat_of_word (hall c hc)
    exact isPythonSpace_of_range (by omega) hrange.2
  refine ⟨?_, hmatch⟩
  rw [htrim]
  exact length_pos_of_head hhead

theorem subdomainCheck_of_isProperSubdomain {sd : String} (h : isProperSubdomain sd = true) :
    SubdomainCheck sd := by
  have hmatch := (isProperSubdomain_iff_matches sd).mp h
  simp only [isProperSubdomain, Bool.and_eq_true, List.all_eq_true] at h
  have htrim : jinjaTrim sd = sd := by
    apply jinjaTrim_of_visible
    intro c hc
    have hrange := toNat_of_hyphenRanges (h.2 c hc)
    exact isPythonSpace_of_range hrange.1 hrange.2
  rw [SubdomainCheck, htrim]
  exact ⟨length_pos_of_head h.1.1.2, hmatch⟩

variable {F : Forms} {draws : Nat → SecretDraw} {t : TCloud} {c : Cloud} {s : KetServer}

theorem isProper_of_covered {settings : CloudSettings} (ht : WellFormedSet settings.inboundSet)
    (hs : Sound settings s) {inb : Inbound} (hinb : inb ∈ s.inbounds) :
    isProper inb.name = true := by
  obtain ⟨set, hset, hname, _⟩ := hs.covered inb hinb
  rw [← hname]
  exact ht.proper set hset

theorem varChecks_of_parse (h : parseCloudConfig F draws t = .ok c) (hs : s ∈ c.servers) :
    VarChecks (nameVars s) := by
  have hset := (exists_parseCloudConfig_iff.mp ⟨c, h⟩).inboundSet
  obtain ⟨p, rfl, hsound⟩ := sound_of_parse h hs
  have hsubdomains := hsound.subdomains
  simp only [subdomainsOf, List.forall_mem_cons] at hsubdomains
  obtain ⟨hsub, hui, hdns, _⟩ := hsubdomains
  exact
    { nodeName := nameCheck_of_isProper hsound.name
      dnsSubdomain := subdomainCheck_of_isProperSubdomain hdns
      uiSubdomain := subdomainCheck_of_isProperSubdomain hui
      subSubdomain := subdomainCheck_of_isProperSubdomain hsub
      inboundNames := by
        intro name hname
        obtain ⟨inb, hinb, rfl⟩ := List.mem_map.mp hname
        have hmem := (ServicePorts.declaredInbounds_sublist p).subset hinb
        exact nameCheck_of_isProper (isProper_of_covered hset hsound hmem)
      unique := by
        have hnodup : (nameVars (withSuper p)).inboundNames.Nodup :=
          (parseCloudConfig_inboundNames h hs).sublist (List.filter_sublist.map Inbound.name)
        rw [hnodup.dedup] }

end Accepted

/-- The expressions of `var_loading.yaml` describe what the controller accepts, and nothing
it accepted fails there. -/
theorem recognizers_match_expressions :
    (∀ name, isProper name = true ↔ nameRegex.Matches name.toList) ∧
      (∀ name, isProperSubdomain name = true ↔ subdomainRegex.Matches name.toList) ∧
        ∀ F draws t c, parseCloudConfig F draws t = .ok c →
          ∀ s ∈ c.servers, VarChecks (nameVars s) :=
  ⟨isProper_iff_matches, isProperSubdomain_iff_matches,
    fun _ _ _ _ h _ hs => varChecks_of_parse h hs⟩

section Instances

open Xcplane.Specimen

theorem recognizers_match_expressions_declared :
    ∃ c, parseCloudConfig forms draws (declared [{ alpha with inbounds := [direct] }]) = .ok c ∧
      ∀ s ∈ c.servers, VarChecks (nameVars s) := by
  obtain ⟨c, hc⟩ : ∃ c, parseCloudConfig forms draws
      (declared [{ alpha with inbounds := [direct] }]) = .ok c := ⟨_, rfl⟩
  exact ⟨c, hc, recognizers_match_expressions.2.2 forms draws
    (declared [{ alpha with inbounds := [direct] }]) c hc⟩

end Instances

end Xcplane.VarLoading
