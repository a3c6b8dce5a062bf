import Xcplane.Connections
import Xcplane.GeoIp
import Xcplane.PlaybookVars
import Xcplane.Stamps
import Xcplane.WellFormedConfig
import Xcplane.Lib.Occurrence

/-!
The texts of the nftables rules. They are joined from lists that a configuration may leave
empty, and port 0 stands for the super inbound.
-/

namespace Xcplane.NftRules

open Xcplane.Types
open Xcplane.Lib
open Xcplane.Server
open Xcplane.CloudConfig
open Xcplane.GeoIp
open Xcplane.PlaybookVars
open Xcplane.Stamps
open Xcplane.WellFormedConfig

section Texts

/-- `slice::join`. -/
def join (sep : String) (l : List String) : String :=
  .ofList (sep.toList.intercalate (l.map String.toList))

def setName : NftSet → String
  | .SshPre => "sshpre"
  | .SshPost => "sshpost"
  | .Inbound => "inbound"
  | .OutBlocked4 => "outblocked4"
  | .OutBlocked6 => "outblocked6"
  | .Cloudflare4 => "cloudflare4"
  | .Cloudflare6 => "cloudflare6"

/-- The two operations for SSH are about the set of one name. -/
def ruleName : NftOp → String
  | .ssh _ => "ssh"
  | .inbound _ => setName .Inbound
  | .addresses set _ => setName set

def elements : NftOp → String
  | .ssh ports => join "," (ports.map toString)
  | .inbound ports => join "," (ports.map toString)
  | .addresses _ ranges => join ",\n    " ranges

/-- A rule up to its braces. -/
def setRuleHead (now ruleName : String) : String :=
  "#!/usr/sbin/nft -f\n\n# Generated by xcplane\n# Set: " ++ ruleName ++ "\n# Updated: " ++ now ++
    "\n\nflush set inet xcplane " ++ ruleName ++ "\n\nadd element inet xcplane " ++ ruleName

def setRuleGen (now ruleName elements : String) : String :=
  setRuleHead now ruleName ++ (" \x7b\n    " ++ (elements ++ "\n\x7d"))

/-- The text that is written for a set. -/
def ruleText (now : Stamp) (source : RangeSource) (server : KetServer) (set : NftSet) :
    Except BoxError String := do
  let op ← writeRule source server set
  .ok (setRuleGen now.text (ruleName op) (elements op))

/-- The table that is read for a set. -/
def tableOf (tables : GeoTables) : NftSet → List GeoRow
  | .OutBlocked6 => tables.geoip6
  | _ => tables.geoip4

/-- The ranges of the countries in the table of the set. -/
def selected (F : Forms) (tables : GeoTables) (set : NftSet) (countries : List CountryCode) :
    List String :=
  let rows := (tableOf tables set).filter fun r => (countries.map F.alpha2).contains r.country
  rows.map fun r => r.start ++ "-" ++ r.finish

/-- The blocked ranges are read from these tables, in some order. -/
def ReadsFrom (F : Forms) (source : RangeSource) (tables : GeoTables) : Prop :=
  ∀ set countries, ∃ ranges, source.blocked set countries = .ok ranges ∧
    ranges.Perm (selected F tables set countries)

end Texts

section Reading

def insideBraces (text : String) : List Char :=
  ((text.toList.dropWhile fun c => c != '\x7b').drop 1).takeWhile fun c => c != '\x7d'

/-- The elements between the braces. -/
def elementList (text : String) : List String :=
  ((insideBraces text).splitOn ',').map fun e => .ofList (Naming.trimChars e)

/-- The lines between the line that opens the braces and the one that closes them. -/
def innerLines (text : String) : List (List Char) :=
  ((insideBraces text).splitOn '\n').tail.dropLast

def Blank (line : List Char) : Prop :=
  ∀ c ∈ line, Naming.isWhitespace c = true

/-- The set has elements, none of them empty, and no line between its braces is blank. -/
structure Loads (text : String) : Prop where
  element : ∀ e ∈ elementList text, e ≠ ""
  line : ∀ line ∈ innerLines text, ¬ Blank line

def declaredPorts (s : KetServer) : List UInt16 :=
  (s.inbounds.filter fun inb => inb.name != SvcKind.superName).map Inbound.port

def rulesOf : List NftSet :=
  [.SshPre, .SshPost, .Inbound, .OutBlocked4, .OutBlocked6]

/-- The rules of a server load, and that of its inbounds has all their ports. -/
structure RulesHold (now : Stamp) (source : RangeSource) (s : KetServer) : Prop where
  loads : ∀ set ∈ rulesOf, ∃ text, ruleText now source s set = .ok text ∧ Loads text
  ports : ∃ text, ruleText now source s .Inbound = .ok text ∧
    elementList text = (declaredPorts s).map toString

end Reading

section Lists

/-- The characters of ports and of address ranges. -/
def isPlain (c : Char) : Bool :=
  c.isAlphanum || c == '.' || c == ':' || c == '-'

theorem not_isWhitespace_of_isPlain {c : Char} (h : isPlain c = true) :
    Naming.isWhitespace c = false := by
  simp only [isPlain, Bool.or_eq_true, beq_iff_eq] at h
  obtain ((halnum | rfl) | rfl) | rfl := h
  · have hrange := Naming.toNat_of_isAlphanum halnum
    simp only [Naming.isWhitespace, Bool.or_eq_false_iff, Bool.and_eq_false_iff,
      decide_eq_false_iff_not, beq_eq_false_iff_ne]
    omega
  · rfl
  · rfl
  · rfl

section Padding

variable {w w' e : List Char}

theorem dropWhile_padding (hw : Blank w) : (w ++ e).dropWhile Naming.isWhitespace =
    e.dropWhile Naming.isWhitespace :=
  List.dropWhile_append_of_pos hw

theorem dropWhile_visible (hne : e ≠ []) (he : ∀ c ∈ e, Naming.isWhitespace c = false)
    (l : List Char) : (e ++ l).dropWhile Naming.isWhitespace = e ++ l := by
  cases e with
  | nil => exact absurd rfl hne
  | cons c e =>
      rw [List.cons_append, List.dropWhile_cons, he c List.mem_cons_self,
        if_neg Bool.false_ne_true]

/-- Trimming takes the white space around an element away. -/
theorem trimChars_padding (hw : Blank w) (hw' : Blank w') (hne : e ≠ [])
    (he : ∀ c ∈ e, Naming.isWhitespace c = false) : Naming.trimChars (w ++ e ++ w') = e := by
  have hreverse : Blank w'.reverse := by
    intro c hc
    exact hw' c (List.mem_reverse.mp hc)
  have he' : ∀ c ∈ e.reverse, Naming.isWhitespace c = false := by
    intro c hc
    exact he c (List.mem_reverse.mp hc)
  have hlast := dropWhile_visible (by simpa using hne) he' []
  rw [List.append_nil] at hlast
  rw [Naming.trimChars, List.append_assoc, dropWhile_padding hw, dropWhile_visible hne he,
    List.reverse_append, dropWhile_padding hreverse, hlast, List.reverse_reverse]

end Padding

section Splitting

variable {w w' ws : List Char} {es : List (List Char)}

def PlainChars (e : List Char) : Prop :=
  e ≠ [] ∧ ∀ c ∈ e, isPlain c = true

theorem comma_notMem (hw : Blank w) : ',' ∉ w := by
  intro hmem
  exact absurd (hw ',' hmem) (by decide)

theorem notMem_of_plain {e : List Char} (he : PlainChars e) {d : Char} (hd : isPlain d = false) :
    d ∉ e := by
  intro hmem
  rw [he.2 d hmem] at hd
  cases hd

theorem trimChars_plain {e : List Char} (hw : Blank w) (hw' : Blank w') (he : PlainChars e) :
    Naming.trimChars (w ++ e ++ w') = e :=
  trimChars_padding hw hw' he.1 fun c hc => not_isWhitespace_of_isPlain (he.2 c hc)

/-- Elements joined by a comma and white space are what lies between the commas. -/
theorem split_elements (hes : ∀ e ∈ es, PlainChars e) (hne : es ≠ []) (hw : Blank w)
    (hws : Blank ws) (hw' : Blank w') :
    ((w ++ (',' :: ws).intercalate es ++ w').splitOn ',').map Naming.trimChars = es := by
  induction es generalizing w with
  | nil => exact absurd rfl hne
  | cons e rest ih =>
      obtain ⟨he, hrest⟩ := List.forall_mem_cons.mp hes
      have hfirst : ',' ∉ w ++ e := by
        rw [List.mem_append, not_or]
        exact ⟨comma_notMem hw, notMem_of_plain he (by decide)⟩
      cases rest with
      | nil =>
          have hall : ',' ∉ w ++ e ++ w' := by
            rw [List.mem_append, not_or]
            exact ⟨hfirst, comma_notMem hw'⟩
          rw [List.intercalate_singleton, List.splitOn_eq_singleton hall, List.map_singleton,
            trimChars_plain hw hw' he]
      | cons e' rest =>
          have hnil : Blank [] := fun c hc => absurd hc List.not_mem_nil
          have htrim := trimChars_plain hw hnil he
          rw [List.append_nil] at htrim
          rw [List.intercalate_cons_cons, ← List.append_assoc, ← List.append_assoc,
            List.append_assoc (w ++ e), List.append_assoc (w ++ e), List.cons_append,
            List.cons_append, List.splitOn_append_cons_self_of_not_mem hfirst, List.map_cons, htrim,
            ih hrest (List.cons_ne_nil _ _) hws]

theorem not_blank_of_plain {e : List Char} (he : PlainChars e) : ¬ Blank (w ++ e ++ w') := by
  intro hblank
  obtain ⟨c, hc⟩ := List.exists_mem_of_ne_nil e he.1
  have hwhite := hblank c (List.mem_append_left w' (List.mem_append_right w hc))
  rw [not_isWhitespace_of_isPlain (he.2 c hc)] at hwhite
  cases hwhite

theorem split_last_line {line : List Char} (hline : '\n' ∉ line) :
    ((line ++ ['\n']).splitOn '\n').dropLast = [line] := by
  rw [List.splitOn_append_cons_self_of_not_mem hline]
  rfl

/-- Where each element has a line of its own, no line lacks one. -/
theorem lines_elements (hes : ∀ e ∈ es, PlainChars e) (hne : es ≠ []) (hw : '\n' ∉ w) :
    ∀ line ∈ ((w ++ (',' :: '\n' :: w).intercalate es ++ ['\n']).splitOn '\n').dropLast,
      ¬ Blank line := by
  induction es with
  | nil => exact absurd rfl hne
  | cons e rest ih =>
      obtain ⟨he, hrest⟩ := List.forall_mem_cons.mp hes
      have hfirst : '\n' ∉ w ++ e := by
        rw [List.mem_append, not_or]
        exact ⟨hw, notMem_of_plain he (by decide)⟩
      cases rest with
      | nil =>
          rw [List.intercalate_singleton, split_last_line hfirst, List.forall_mem_singleton,
            ← List.append_nil (w ++ e)]
          exact not_blank_of_plain he
      | cons e' rest =>
          have hline : '\n' ∉ w ++ e ++ [','] := by
            rw [List.mem_append, not_or]
            exact ⟨hfirst, by decide⟩
          have hsplit : w ++ (',' :: '\n' :: w).intercalate (e :: e' :: rest) ++ ['\n'] =
              w ++ e ++ [','] ++ '\n' ::
                (w ++ (',' :: '\n' :: w).intercalate (e' :: rest) ++ ['\n']) := by
            rw [List.intercalate_cons_cons]
            simp only [List.append_assoc, List.cons_append, List.nil_append]
          rw [hsplit, List.splitOn_append_cons_self_of_not_mem hline,
            List.dropLast_cons_of_ne_nil (List.splitOn_ne_nil _ _), List.forall_mem_cons]
          exact ⟨not_blank_of_plain he, ih hrest (List.cons_ne_nil _ _)⟩

theorem notMem_intercalate {sep : List Char} {d : Char} (hsep : d ∉ sep)
    (hes : ∀ e ∈ es, d ∉ e) : d ∉ sep.intercalate es := by
  induction es with
  | nil => exact List.not_mem_nil
  | cons e rest ih =>
      obtain ⟨he, hrest⟩ := List.forall_mem_cons.mp hes
      cases rest with
      | nil => rwa [List.intercalate_singleton]
      | cons e' rest =>
          rw [List.intercalate_cons_cons, List.mem_append, List.mem_append, not_or, not_or]
          exact ⟨⟨he, hsep⟩, ih hrest⟩

/-- All the elements are on one line. -/
theorem lines_joined (hes : ∀ e ∈ es, PlainChars e) (hne : es ≠ []) (hw : '\n' ∉ w) :
    ∀ line ∈ ((w ++ [','].intercalate es ++ ['\n']).splitOn '\n').dropLast, ¬ Blank line := by
  have hline : '\n' ∉ w ++ [','].intercalate es := by
    rw [List.mem_append, not_or]
    exact ⟨hw, notMem_intercalate (by decide) fun e he => notMem_of_plain (hes e he) (by decide)⟩
  rw [split_last_line hline, List.forall_mem_singleton]
  cases es with
  | nil => exact absurd rfl hne
  | cons e rest =>
      obtain ⟨he, _⟩ := List.forall_mem_cons.mp hes
      obtain ⟨tail, htail⟩ : ∃ tail, [','].intercalate (e :: rest) = e ++ tail := by
        cases rest with
        | nil => exact ⟨[], by rw [List.intercalate_singleton, List.append_nil]⟩
        | cons e' rest => exact ⟨_, by rw [List.intercalate_cons_cons, List.append_assoc]⟩
      rw [htail, ← List.append_assoc]
      exact not_blank_of_plain he

end Splitting

end Lists

section Rules

variable (now : Stamp) {name : String} {es : List String}

def indent : List Char := [' ', ' ', ' ', ' ']

theorem brace_notMem_head (hname : '\x7b' ∉ name.toList) :
    '\x7b' ∉ (setRuleHead now.text name).toList := by
  have hnow : '\x7b' ∉ now.text.toList := by
    rw [Stamp.text, String.toList_ofList]
    intro hmem
    exact absurd (Stamp.mem_chars hmem) (by decide)
  have happend : ∀ s t : String, '\x7b' ∉ s.toList → '\x7b' ∉ t.toList →
      '\x7b' ∉ (s ++ t).toList := by
    intro s t hs ht
    rw [String.toList_append, List.mem_append, not_or]
    exact ⟨hs, ht⟩
  unfold setRuleHead
  refine happend _ _ (happend _ _ (happend _ _ (happend _ _ (happend _ _ (happend _ _ (happend _ _
    ?_ hname) ?_) hnow) ?_) hname) ?_) hname
  all_goals decide +kernel

theorem insideBraces_setRuleGen (hname : '\x7b' ∉ name.toList) {l : List Char}
    (hl : '\x7d' ∉ l) : insideBraces (setRuleGen now.text name (.ofList l)) =
      '\n' :: (indent ++ l ++ ['\n']) := by
  have hopen : (" \x7b\n    ").toList = [' '] ++ '\x7b' :: '\n' :: indent := rfl
  have hclose : ("\n\x7d").toList = ['\n', '\x7d'] := rfl
  have htext : (setRuleGen now.text name (.ofList l)).toList =
      ((setRuleHead now.text name).toList ++ [' ']) ++
        '\x7b' :: ('\n' :: (indent ++ l ++ ['\n']) ++ '\x7d' :: []) := by
    rw [setRuleGen, String.toList_append, String.toList_append, String.toList_append,
      hopen, hclose, String.toList_ofList]
    simp
  have hpre : '\x7b' ∉ (setRuleHead now.text name).toList ++ [' '] := by
    rw [List.mem_append, not_or]
    exact ⟨brace_notMem_head now hname, by decide⟩
  have hinside : '\x7d' ∉ '\n' :: (indent ++ l ++ ['\n']) := by
    simp only [List.mem_cons, List.mem_append, not_or]
    exact ⟨by decide, ⟨by decide, hl⟩, by decide, by simp⟩
  rw [insideBraces, htext, dropWhile_until hpre, List.drop_one, List.tail_cons,
    takeWhile_until hinside]

theorem innerLines_of_inside {text : String} {rest : List Char}
    (h : insideBraces text = '\n' :: rest) : innerLines text = (rest.splitOn '\n').dropLast := by
  rw [innerLines, h, ← List.nil_append ('\n' :: rest),
    List.splitOn_append_cons_self_of_not_mem List.not_mem_nil]
  rfl

theorem blank_indent : Blank indent :=
  List.all_eq_true.mp rfl

/-- The separators of ports and of ranges. -/
def Separates (sep : List Char) : Prop :=
  sep = [','] ∨ sep = ',' :: '\n' :: indent

/-- The elements of a rule, all of them on one line or each on its own. -/
theorem elementList_setRuleGen (hname : '\x7b' ∉ name.toList) (sep : String)
    (hsep : Separates sep.toList) (hes : ∀ e ∈ es, PlainChars e.toList) (hne : es ≠ []) :
    elementList (setRuleGen now.text name (join sep es)) = es ∧
      Loads (setRuleGen now.text name (join sep es)) := by
  have hchars : ∀ e ∈ es.map String.toList, PlainChars e := List.forall_mem_map.mpr hes
  have hcharsNe : es.map String.toList ≠ [] := by simpa using hne
  have hbrace : '\x7d' ∉ sep.toList := by
    rcases hsep with h | h
    · rw [h]
      decide
    · rw [h]
      decide
  have hinside := insideBraces_setRuleGen now hname
    (notMem_intercalate hbrace fun e he => notMem_of_plain (hchars e he) (by decide))
  rw [← join] at hinside
  have hblank : Blank ('\n' :: indent) := List.forall_mem_cons.mpr ⟨by decide, blank_indent⟩
  have helements : elementList (setRuleGen now.text name (join sep es)) = es := by
    have hsplit : ∃ ws, sep.toList = ',' :: ws ∧ Blank ws := by
      rcases hsep with h | h
      · exact ⟨[], h, by simp [Blank]⟩
      · exact ⟨_, h, hblank⟩
    obtain ⟨ws, hws, hwsBlank⟩ := hsplit
    have hnewline : Blank ['\n'] := List.forall_mem_singleton.mpr (by decide)
    have hall := congrArg (List.map String.ofList)
      (split_elements hchars hcharsNe hblank hwsBlank hnewline)
    rw [List.map_map, List.map_map] at hall
    rw [elementList, hinside, hws, ← List.cons_append, ← List.cons_append]
    exact hall.trans (by simp [Function.comp_def])
  refine ⟨helements, ?_, ?_⟩
  · rw [helements]
    rintro e he rfl
    exact (hes "" he).1 rfl
  · rw [innerLines_of_inside hinside]
    rcases hsep with h | h
    · rw [h]
      exact lines_joined hchars hcharsNe (by decide)
    · rw [h]
      exact lines_elements hchars hcharsNe (by decide)

/-- Without elements there is one empty element. -/
theorem not_loads_nil (hname : '\x7b' ∉ name.toList) (sep : String) :
    elementList (setRuleGen now.text name (join sep [])) = [""] ∧
      ¬ Loads (setRuleGen now.text name (join sep [])) := by
  have hinside := insideBraces_setRuleGen now hname (List.not_mem_nil (a := '\x7d'))
  have hempty : elementList (setRuleGen now.text name (.ofList [])) = [""] := by
    rw [elementList, hinside]
    rfl
  refine ⟨hempty, ?_⟩
  intro h
  exact h.element "" (hempty ▸ List.mem_cons_self) rfl

end Rules

section Elements

variable {F : Forms} {steps : GeoSteps} {tables : GeoTables} {source : RangeSource}
  (now : Stamp) {s : KetServer}

theorem brace_notMem_setName (set : NftSet) : '\x7b' ∉ (setName set).toList := by
  cases set <;> decide

theorem brace_notMem_inbound : '\x7b' ∉ "inbound".toList :=
  brace_notMem_setName .Inbound

theorem plain_port (p : UInt16) : PlainChars (toString p).toList := by
  have hdigits : (toString p).toList = Nat.toDigits 10 p.toNat := by
    show p.toNat.repr.toList = _
    rw [Nat.repr_eq_ofList_toDigits, String.toList_ofList]
  rw [hdigits]
  refine ⟨Nat.toDigits_ne_nil, ?_⟩
  intro c hc
  have hdigit := Nat.isDigit_of_mem_toDigits (by decide) (by decide) hc
  simp [isPlain, Char.isAlphanum, hdigit]

theorem plain_ports (ports : List UInt16) :
    ∀ e ∈ ports.map (fun p => toString p), PlainChars e.toList := by
  rw [List.forall_mem_map]
  exact fun p _ => plain_port p

/-- A rule of ports loads exactly when there is one. -/
theorem rule_ports {name : String} (hname : '\x7b' ∉ name.toList) (ports : List UInt16) :
    (Loads (setRuleGen now.text name (join "," (ports.map toString))) ↔ ports ≠ []) ∧
      (ports ≠ [] → elementList (setRuleGen now.text name (join "," (ports.map toString))) =
        ports.map toString) := by
  by_cases hne : ports = []
  · subst hne
    exact ⟨iff_of_false (not_loads_nil now hname ",").2 (by simp), by simp⟩
  · obtain ⟨helements, hloads⟩ := elementList_setRuleGen now hname "," (.inl rfl)
      (plain_ports ports) (by simpa using hne)
    exact ⟨iff_of_true hloads hne, fun _ => helements⟩

/-- A parsed address has the characters of one. -/
def AddressTexts (F : Forms) : Prop :=
  ∀ text ip, F.ipParse text = some ip →
    text ≠ "" ∧ ∀ c ∈ text.toList, c.isAlphanum = true ∨ c = '.' ∨ c = ':'

theorem plain_of_parsed (hF : AddressTexts F) {text : String} {ip : IpAddr}
    (h : F.ipParse text = some ip) : PlainChars text.toList := by
  obtain ⟨hne, hchars⟩ := hF text ip h
  refine ⟨by simpa using hne, ?_⟩
  intro c hc
  obtain halnum | rfl | rfl := hchars c hc
  · simp [isPlain, halnum]
  · rfl
  · rfl

theorem plain_range {a b : String} (ha : PlainChars a.toList) (hb : PlainChars b.toList) :
    PlainChars (a ++ "-" ++ b).toList := by
  rw [String.toList_append, String.toList_append]
  refine ⟨by simp [ha.1], ?_⟩
  intro c hc
  rw [List.mem_append, List.mem_append] at hc
  obtain (hc | hc) | hc := hc
  · exact ha.2 c hc
  · obtain rfl : c = '-' := List.mem_singleton.mp hc
    rfl
  · exact hb.2 c hc

theorem plain_selected (hF : AddressTexts F) (htables : tables.Parsed F) (set : NftSet)
    (countries : List CountryCode) :
    ∀ e ∈ selected F tables set countries, PlainChars e.toList := by
  have hrow : ∀ r : GeoRow, r ∈ tables.geoip4 ∨ r ∈ tables.geoip6 →
      PlainChars (r.start ++ "-" ++ r.finish).toList := by
    rintro r (hr | hr)
    · obtain ⟨a, b, hstart, hfinish⟩ := htables.geoip4 r hr
      exact plain_range (plain_of_parsed hF hstart) (plain_of_parsed hF hfinish)
    · obtain ⟨a, b, hstart, hfinish⟩ := htables.geoip6 r hr
      exact plain_range (plain_of_parsed hF hstart) (plain_of_parsed hF hfinish)
  rw [selected, List.forall_mem_map]
  intro r hr
  have hmem : r ∈ tableOf tables set := List.mem_of_mem_filter hr
  rw [tableOf.eq_def] at hmem
  split at hmem
  · exact hrow r (.inr hmem)
  · exact hrow r (.inl hmem)

/-- Both tables have a range for every country. -/
structure Covers (F : Forms) (tables : GeoTables) (countries : List CountryCode) : Prop where
  geoip4 : ∀ c ∈ countries, ∃ r ∈ tables.geoip4, r.country = F.alpha2 c
  geoip6 : ∀ c ∈ countries, ∃ r ∈ tables.geoip6, r.country = F.alpha2 c

theorem selected_eq_nil_iff {countries : List CountryCode} (h : Covers F tables countries)
    (set : NftSet) : selected F tables set countries = [] ↔ countries = [] := by
  cases countries with
  | nil => simp [selected]
  | cons c rest =>
      refine iff_of_false ?_ (by simp)
      rw [selected, List.map_eq_nil_iff, List.filter_eq_nil_iff]
      intro hnone
      have hrow : ∃ r ∈ tableOf tables set, r.country = F.alpha2 c := by
        rw [tableOf.eq_def]
        split
        · exact h.geoip6 c List.mem_cons_self
        · exact h.geoip4 c List.mem_cons_self
      obtain ⟨r, hr, hcountry⟩ := hrow
      exact hnone r hr (by simp [hcountry])

/-- A rule of blocked ranges loads exactly when a country is to be blocked. -/
theorem rule_blocked (hF : AddressTexts F) (htables : tables.Parsed F)
    (hreads : ReadsFrom F source tables) (hcovers : Covers F tables s.outboundBlock)
    (set : NftSet) (hset : set = .OutBlocked4 ∨ set = .OutBlocked6) :
    (∃ text, ruleText now source s set = .ok text ∧ Loads text) ↔ s.outboundBlock ≠ [] := by
  obtain ⟨ranges, hranges, hperm⟩ := hreads set s.outboundBlock
  have hplain : ∀ e ∈ ranges, PlainChars e.toList := fun e he =>
    plain_selected hF htables set s.outboundBlock e (hperm.mem_iff.mp he)
  have hname := brace_notMem_setName set
  have htext : ruleText now source s set =
      .ok (setRuleGen now.text (setName set) (join ",\n    " ranges)) := by
    rcases hset with rfl | rfl
    · rw [ruleText, writeRule, hranges]
      rfl
    · rw [ruleText, writeRule, hranges]
      rfl
  have hnil : ranges = [] ↔ s.outboundBlock = [] := by
    rw [← selected_eq_nil_iff hcovers set]
    exact ⟨fun h => (h ▸ hperm).nil_eq.symm, fun h => (h ▸ hperm).eq_nil⟩
  simp only [htext, Except.ok.injEq, exists_eq_left']
  by_cases hne : ranges = []
  · refine iff_of_false ?_ (not_not.mpr (hnil.mp hne))
    rw [hne]
    exact (not_loads_nil now hname _).2
  · refine iff_of_true ?_ (mt hnil.mpr hne)
    exact (elementList_setRuleGen now hname _ (.inr rfl) hplain hne).2

/-- An SSH port is always there. -/
theorem rule_ssh {conn : AnsibleConn} {p : UInt16} (hconn : s.ansibleConn = some conn)
    (hport : conn.ansiblePort = some p) {set : NftSet} (hset : set = .SshPre ∨ set = .SshPost) :
    ∃ text, ruleText now source s set = .ok text ∧ Loads text := by
  obtain ⟨ports, hports, hne⟩ : ∃ ports, writeRule source s set = .ok (.ssh ports) ∧
      ports ≠ [] := by
    rcases hset with rfl | rfl
    · simp only [writeRule, generateSshRule, hconn, hport, okOr, bind, Except.bind]
      split
      · exact ⟨_, rfl, List.cons_ne_nil _ _⟩
      · exact ⟨_, rfl, List.cons_ne_nil _ _⟩
    · exact ⟨_, rfl, List.cons_ne_nil _ _⟩
  refine ⟨setRuleGen now.text "ssh" (join "," (ports.map toString)), ?_, ?_⟩
  · rw [ruleText, hports]
    rfl
  · exact (rule_ports now (by decide) ports).1.mpr hne

/-- What the parser leaves on a server for its rules. -/
structure Prepared (s : KetServer) : Prop where
  conn : ∃ conn p, s.ansibleConn = some conn ∧ conn.ansiblePort = some p
  inbounds : ∃ l, l ≠ [] ∧ SvcKind.superName ∉ l.map Inbound.name ∧
    s.inbounds = l ++ [Inbound.superInbound]

theorem prepared_of_parse {draws : Nat → SecretDraw} {t : TCloud} {c : Cloud}
    (h : parseCloudConfig F draws t = .ok c) (hs : s ∈ c.servers) : Prepared s where
  conn := by
    obtain ⟨conn, hconn, _, hport⟩ := Connections.parseCloudConfig_reaches h s hs
    exact ⟨conn, _, hconn, hport⟩
  inbounds := inbounds_of_parse h hs

theorem filterMap_ports (l : List Inbound) :
    (l.filterMap fun inb => if inb.port = 0 then none else some inb.port) =
      (l.map Inbound.port).filter fun p => p ≠ 0 := by
  induction l with
  | nil => rfl
  | cons inb rest ih =>
      rw [List.filterMap_cons, List.map_cons, List.filter_cons, ih]
      by_cases hport : inb.port = 0
      · simp [hport]
      · simp [hport]

theorem ports_of_prepared (h : Prepared s) : declaredPorts s ≠ [] ∧
    inboundPorts s = (declaredPorts s).filter fun p => p ≠ 0 := by
  obtain ⟨l, hne, hsuper, hinbounds⟩ := h.inbounds
  have hkeep : l.filter (fun inb => inb.name != SvcKind.superName) = l := by
    rw [List.filter_eq_self]
    intro inb hinb
    rw [bne_iff_ne]
    intro heq
    exact hsuper (heq ▸ List.mem_map_of_mem hinb)
  have hdeclared : declaredPorts s = l.map Inbound.port := by
    rw [declaredPorts, hinbounds, List.filter_append, hkeep]
    simp
  refine ⟨by simpa [hdeclared] using hne, ?_⟩
  have hport : Inbound.superInbound.port = 0 := rfl
  rw [inboundPorts, filterMap_ports, hdeclared, hinbounds, List.map_append, List.filter_append]
  simp [hport]

/-- The rule of the inbounds leaves out those of port 0. -/
theorem rule_inbound (source : RangeSource) (h : Prepared s) :
    (∃ text, ruleText now source s .Inbound = .ok text ∧ Loads text ∧
      elementList text = (declaredPorts s).map toString) ↔ ∀ p ∈ declaredPorts s, p ≠ 0 := by
  obtain ⟨hne, hports⟩ := ports_of_prepared h
  have htext : ruleText now source s .Inbound =
      .ok (setRuleGen now.text "inbound" (join "," ((inboundPorts s).map toString))) := rfl
  obtain ⟨hloads, helements⟩ := rule_ports now brace_notMem_inbound (inboundPorts s)
  simp only [htext, Except.ok.injEq, exists_eq_left', hloads]
  constructor
  · rintro ⟨hsome, hall⟩
    rw [helements hsome] at hall
    have hlength := congrArg List.length hall
    rw [List.length_map, List.length_map, hports, List.length_filter_eq_length_iff] at hlength
    simpa using hlength
  · intro hall
    have hsame : inboundPorts s = declaredPorts s := by
      rw [hports, List.filter_eq_self]
      simpa using hall
    rw [hsame] at helements ⊢
    exact ⟨hne, helements hne⟩

/-- The rules of an accepted server load, with every port, exactly when it blocks a country
and none of its inbounds has port 0. -/
theorem rulesHold_iff (F : Forms) (draws : Nat → SecretDraw) (t : TCloud) (c : Cloud)
    (steps : GeoSteps) (rows : List (Except BoxError GeoRow)) (tables : GeoTables)
    (source : RangeSource) (now : Stamp) (s : KetServer)
    (hparse : parseCloudConfig F draws t = .ok c) (hs : s ∈ c.servers) (hF : AddressTexts F)
    (htables : populate F steps rows = .ok tables) (hreads : ReadsFrom F source tables)
    (hcovers : Covers F tables s.outboundBlock) :
    RulesHold now source s ↔ s.outboundBlock ≠ [] ∧
      ∀ inb ∈ s.inbounds, inb.name ≠ SvcKind.superName → inb.port ≠ 0 := by
  have hparsed := parsed_populate htables
  have hprepared := prepared_of_parse hparse hs
  have hblocked := rule_blocked now hF hparsed hreads hcovers
  have hinbound := rule_inbound now source hprepared
  have hports : (∀ p ∈ declaredPorts s, p ≠ 0) ↔
      ∀ inb ∈ s.inbounds, inb.name ≠ SvcKind.superName → inb.port ≠ 0 := by
    simp only [declaredPorts, List.forall_mem_map, List.mem_filter, bne_iff_ne, and_imp]
  rw [← hports]
  constructor
  · rintro ⟨hloads, text, htext, helements⟩
    refine ⟨(hblocked .OutBlocked4 (.inl rfl)).mp (hloads _ (by decide)), hinbound.mp ?_⟩
    obtain ⟨text', htext', hloads'⟩ := hloads .Inbound (by decide)
    obtain rfl : text' = text := Except.ok.inj (htext'.symm.trans htext)
    exact ⟨text', htext', hloads', helements⟩
  · rintro ⟨hcountry, hall⟩
    obtain ⟨conn, p, hconn, hport⟩ := hprepared.conn
    obtain ⟨text, htext, hloads, helements⟩ := hinbound.mpr hall
    refine ⟨?_, text, htext, helements⟩
    simp only [rulesOf, List.forall_mem_cons]
    exact ⟨rule_ssh now hconn hport (.inl rfl), rule_ssh now hconn hport (.inr rfl),
      ⟨text, htext, hloads⟩,
      (hblocked .OutBlocked4 (.inl rfl)).mpr hcountry,
      (hblocked .OutBlocked6 (.inr rfl)).mpr hcountry, List.forall_mem_nil _⟩

end Elements

section Instances

open Xcplane.Specimen

/-- The forms, with a parser that knows two more addresses. -/
def rangeForms : Forms :=
  { forms with
    ipParse := fun text =>
      if text = "2a01::" then some (.v6 0x2a010000000000000000000000000000#128)
      else if text = "2a01::ff" then some (.v6 0x2a0100000000000000000000000000ff#128)
      else forms.ipParse text }

def iranTables : GeoTables where
  geoip4 := [iranRow]
  geoip6 := [⟨"2a01::", "2a01::ff", "IR"⟩]

def iranSource : RangeSource where
  cloudflare _ := .ok []
  blocked set countries := .ok (selected rangeForms iranTables set countries)

def evening : Stamp :=
  ⟨2026, 9, 2, 19, 5, 0, by decide, by decide, by decide, by decide, by decide, by decide⟩

/-- A server as it is declared, without the super inbound. -/
def plainAlpha : KetServer :=
  { alpha with inbounds := [direct] }

theorem addressTexts_rangeForms : AddressTexts rangeForms := by
  have hchars : (["2a01::", "2a01::ff", "1.1.1.1", "8.8.8.8", "9.9.9.9"].all fun text =>
      text != "" && text.toList.all fun c => c.isAlphanum || c == '.' || c == ':') = true := by
    decide +kernel
  intro text ip h
  have hmem : text ∈ ["2a01::", "2a01::ff", "1.1.1.1", "8.8.8.8", "9.9.9.9"] := by
    simp only [rangeForms, forms] at h
    grind
  have htext := List.all_eq_true.mp hchars text hmem
  simpa [or_assoc] using htext

theorem populate_iranTables : populate rangeForms smooth
    [.ok iranRow, .ok ⟨"2a01::", "2a01::ff", "IR"⟩] = .ok iranTables := rfl

theorem covers_iranTables : Covers rangeForms iranTables blocked where
  geoip4 := by simp [blocked, iranTables, iranRow, rangeForms, forms, Specimen.alpha2]
  geoip6 := by simp [blocked, iranTables, rangeForms, forms, Specimen.alpha2]

theorem rulesHold_iff_alpha :
    ∃ c, parseCloudConfig rangeForms draws (declared [plainAlpha]) = .ok c ∧
      ∃ s ∈ c.servers, RulesHold evening iranSource s := by
  obtain ⟨c, hc, hservers⟩ : ∃ c,
      parseCloudConfig rangeForms draws (declared [plainAlpha]) = .ok c ∧
        c.servers = [withSuper (prepareServer rangeForms settings (draws 0) plainAlpha)] :=
    ⟨_, rfl, rfl⟩
  have hs : withSuper (prepareServer rangeForms settings (draws 0) plainAlpha) ∈ c.servers := by
    rw [hservers]
    exact List.mem_cons_self
  refine ⟨c, hc, _, hs, ?_⟩
  refine (rulesHold_iff rangeForms draws _ c smooth _ iranTables iranSource evening _ hc hs
    addressTexts_rangeForms populate_iranTables (fun _ _ => ⟨_, rfl, .refl _⟩)
    covers_iranTables).mpr ⟨?_, ?_⟩
  · decide
  · decide

theorem not_rulesHold_of_empty {s : KetServer} (set : NftSet) {text : String}
    (hset : set ∈ rulesOf) (htext : ruleText evening iranSource s set = .ok text)
    (helements : elementList text = [""]) : ¬ RulesHold evening iranSource s := by
  intro h
  obtain ⟨text', htext', hloads⟩ := h.loads set hset
  obtain rfl : text' = text := Except.ok.inj (htext'.symm.trans htext)
  exact hloads.element "" (helements ▸ List.mem_cons_self) rfl

theorem not_rulesHold_of_ports {s : KetServer} {text : String}
    (htext : ruleText evening iranSource s .Inbound = .ok text)
    (hports : elementList text ≠ (declaredPorts s).map toString) :
    ¬ RulesHold evening iranSource s := by
  intro h
  obtain ⟨text', htext', helements⟩ := h.ports
  obtain rfl : text' = text := Except.ok.inj (htext'.symm.trans htext)
  exact hports helements

/-- Two declarations that are accepted: one blocks no country, and its set is without an
element; the other has an inbound of port 0, which its rule leaves out. -/
theorem rulesHold_accepted_broken : AddressTexts rangeForms ∧
    populate rangeForms smooth [.ok iranRow, .ok ⟨"2a01::", "2a01::ff", "IR"⟩] = .ok iranTables ∧
    ReadsFrom rangeForms iranSource iranTables ∧
    (∃ c, parseCloudConfig rangeForms draws
        (declared [{ plainAlpha with outboundBlock := [] }]) = .ok c ∧
      ∃ s ∈ c.servers, Covers rangeForms iranTables s.outboundBlock ∧
        (∃ text, ruleText evening iranSource s .OutBlocked4 = .ok text ∧
          elementList text = [""]) ∧ ¬ RulesHold evening iranSource s) ∧
    ∃ c, parseCloudConfig rangeForms draws
        { servers := [{ plainAlpha with inbounds := [] }]
          settings := { settings with inboundSet := [direct, { proxied with port := 0 }] } } =
          .ok c ∧
      ∃ s ∈ c.servers, Covers rangeForms iranTables s.outboundBlock ∧
        (∃ text, ruleText evening iranSource s .Inbound = .ok text ∧
          elementList text = ["8080"] ∧ (declaredPorts s).map toString = ["8080", "0"]) ∧
        ¬ RulesHold evening iranSource s := by
  refine ⟨addressTexts_rangeForms, populate_iranTables, fun _ _ => ⟨_, rfl, .refl _⟩, ?_, ?_⟩
  · have hnone : Covers rangeForms iranTables [] := ⟨by simp, by simp⟩
    have hempty := (not_loads_nil evening (brace_notMem_setName .OutBlocked4) ",\n    ").1
    exact ⟨_, rfl, _, List.mem_cons_self, hnone, ⟨_, rfl, hempty⟩,
      not_rulesHold_of_empty .OutBlocked4 (by decide) rfl hempty⟩
  · have hports := (rule_ports evening brace_notMem_inbound [8080]).2 (by decide)
    have hdeclared : ["8080"] ≠ ["8080", "0"] := by decide
    exact ⟨_, rfl, _, List.mem_cons_self, covers_iranTables, ⟨_, rfl, hports, rfl⟩,
      not_rulesHold_of_ports rfl (hports ▸ hdeclared)⟩

end Instances

end Xcplane.NftRules
