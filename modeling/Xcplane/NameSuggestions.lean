import Xcplane.WellFormedConfig

/-!
The name that a rejection suggests: it is proper, and adopting it gives an accepted
configuration unless the name is taken.
-/

namespace Xcplane.NameSuggestions

open Xcplane.Types
open Xcplane.Server
open Xcplane.CloudConfig
open Xcplane.WellFormedConfig
open Xcplane.Naming
open Xcplane.Lib

section Slugs

variable {sl p : Nat} {first last : Bool} {c : Char} {cs : List Char}

def widths (cs : List Char) : Nat :=
  (cs.map Char.utf8Size).sum

theorem widths_cons : widths (c :: cs) = c.utf8Size + widths cs :=
  List.sum_cons

theorem slugChar_alphanum (h : c.isAlphanum = true) : slugChar first last c = c := by
  unfold slugChar
  rw [h]

theorem slugChar_end (h : first = true ∨ last = true) :
    (slugChar first last c).isAlphanum = true := by
  cases hc : c.isAlphanum with
  | true => rw [slugChar_alphanum hc, hc]
  | false =>
      unfold slugChar
      rw [hc]
      rcases h with rfl | rfl
      · cases last <;> rfl
      · cases first <;> rfl

theorem slugChar_middle (h : c.isAlphanum = false) : slugChar false false c = '_' := by
  unfold slugChar
  rw [h]

theorem slugChar_word :
    ((slugChar first last c).isAlphanum || slugChar first last c == '_') = true := by
  by_cases hend : first = true ∨ last = true
  · rw [slugChar_end hend, Bool.true_or]
  · obtain ⟨hfirst, hlast⟩ := not_or.mp hend
    rw [Bool.eq_false_of_not_eq_true hfirst, Bool.eq_false_of_not_eq_true hlast]
    cases hc : c.isAlphanum with
    | true => rw [slugChar_alphanum hc, hc, Bool.true_or]
    | false => rw [slugChar_middle hc]; rfl

theorem slugFrom_word : ∀ d ∈ slugFrom sl p cs, (d.isAlphanum || d == '_') = true := by
  induction cs generalizing p with
  | nil => exact List.forall_mem_nil _
  | cons c rest ih => exact List.forall_mem_cons.mpr ⟨slugChar_word, ih⟩

/-- The last character is known by the width of those before it. -/
theorem slugFrom_getLast (hne : cs ≠ []) (hsl : p + widths cs = sl) :
    (slugFrom sl p cs).getLast?.any Char.isAlphanum = true := by
  induction cs generalizing p with
  | nil => exact absurd rfl hne
  | cons c rest ih =>
      rw [widths_cons, ← Nat.add_assoc] at hsl
      cases rest with
      | nil =>
          have hlast : (p + c.utf8Size == sl) = true := beq_iff_eq.mpr hsl
          exact slugChar_end (Or.inr hlast)
      | cons d rest =>
          rw [slugFrom, slugFrom, List.getLast?_cons_cons, ← slugFrom]
          exact ih (List.cons_ne_nil d rest) hsl

/-- Of a proper name no character is replaced: those that would be are neither the first
nor the last. -/
theorem slugFrom_of_proper (hall : ∀ d ∈ cs, (d.isAlphanum || d == '_') = true)
    (hlast : cs.getLast?.all Char.isAlphanum = true) (hsl : p + widths cs = sl)
    (hfirst : p = 0 → cs.head?.all Char.isAlphanum = true) : slugFrom sl p cs = cs := by
  induction cs generalizing p with
  | nil => rfl
  | cons c rest ih =>
      have hpos := Char.utf8Size_pos c
      rw [widths_cons, ← Nat.add_assoc] at hsl
      obtain ⟨hc, hrest⟩ := List.forall_mem_cons.mp hall
      have hchar : slugChar (p == 0) (p + c.utf8Size == sl) c = c := by
        cases halnum : c.isAlphanum with
        | true => exact slugChar_alphanum halnum
        | false =>
            have hc' : c = '_' := by
              rw [halnum, Bool.false_or] at hc
              exact beq_iff_eq.mp hc
            have hp : (p == 0) = false := by
              rw [beq_eq_false_iff_ne]
              intro hp
              exact absurd ((hfirst hp).symm.trans halnum) Bool.noConfusion
            have hend : (p + c.utf8Size == sl) = false := by
              rw [beq_eq_false_iff_ne]
              intro hend
              cases rest with
              | nil => exact absurd (hlast.symm.trans halnum) Bool.noConfusion
              | cons d rest =>
                  have := Char.utf8Size_pos d
                  rw [widths_cons] at hsl
                  omega
            rw [hp, hend, slugChar_middle halnum, hc']
      have htail : slugFrom sl (p + c.utf8Size) rest = rest := by
        apply ih hrest ?_ hsl (fun h => by omega)
        cases rest with
        | nil => rfl
        | cons d rest => exact hlast
      rw [slugFrom, hchar, htail]

theorem trim_of_proper {name : String} (h : isProper name = true) : trim name = name := by
  obtain ⟨_, _, hall⟩ := (isProper_iff name).mp h
  have hvisible : ∀ d ∈ name.toList, isWhitespace d = false := by
    intro d hd
    have hrange := toNat_of_word (hall d hd)
    simp only [isWhitespace, Bool.or_eq_false_iff, Bool.and_eq_false_iff,
      decide_eq_false_iff_not, beq_eq_false_iff_ne]
    omega
  rw [trim, trimChars, dropWhile_of_none hvisible,
    dropWhile_of_none fun d hd => hvisible d (List.mem_reverse.mp hd), List.reverse_reverse,
    String.ofList_toList]

theorem slug_eq {s : String} (h : (trim s).toList = c :: cs) :
    slug s = String.ofList (slugFrom (widths (c :: cs)) 0 (c :: cs)) := by
  rw [slug, h]
  rfl

theorem isProper_slug (s : String) : isProper (slug s) = true := by
  cases h : (trim s).toList with
  | nil =>
      have hdefault : slug s = "good_nickname1" := by rw [slug, h]
      rw [hdefault]
      decide
  | cons c cs =>
      rw [slug_eq h, isProper_iff, String.toList_ofList]
      refine ⟨slugChar_end (Or.inl rfl), slugFrom_getLast (List.cons_ne_nil c cs) ?_,
        slugFrom_word⟩
      exact Nat.zero_add _

theorem slug_of_proper {s : String} (h : isProper s = true) : slug s = s := by
  obtain ⟨hhead, hlast, hall⟩ := (isProper_iff s).mp h
  cases hcs : s.toList with
  | nil => rw [hcs] at hhead; cases hhead
  | cons c cs =>
      rw [hcs] at hhead hlast hall
      have htrim : (trim s).toList = c :: cs := by rw [trim_of_proper h, hcs]
      rw [slug_eq htrim, slugFrom_of_proper hall ?_ (Nat.zero_add _) fun _ => hhead, ← hcs,
        String.ofList_toList]
      cases hd : (c :: cs).getLast? with
      | none => rfl
      | some d => rw [hd] at hlast; exact hlast

end Slugs

section Adopting

variable {F : Forms} {draws : Nat → SecretDraw} {t : TCloud} {s : KetServer}

def Accepted (F : Forms) (draws : Nat → SecretDraw) (t : TCloud) : Prop :=
  ∃ c, parseCloudConfig F draws t = .ok c

/-- The configuration with one of its servers given another name. -/
def withServer (t : TCloud) (before : List KetServer) (s : KetServer) (name : String)
    (after : List KetServer) : TCloud :=
  { t with servers := before ++ { s with name := name } :: after }

theorem wellFormedServer_named {inboundSet : List Inbound} {name name' : String}
    (h : WellFormedServer inboundSet { s with name := name }) (hname' : isProper name' = true) :
    WellFormedServer inboundSet { s with name := name' } where
  name := hname'
  ip := h.ip
  subdomains := h.subdomains
  subdomains_nodup := h.subdomains_nodup
  inbounds := h.inbounds
  covered := h.covered

theorem names_withServer (before after : List KetServer) (name : String) :
    ((withServer t before s name after).servers.map KetServer.name).Nodup ↔
      name ∉ (before ++ after).map KetServer.name ∧
        ((before ++ after).map KetServer.name).Nodup := by
  rw [withServer, List.map_append, List.map_cons, List.nodup_middle, List.nodup_cons,
    ← List.map_append]

/-- One name can be put for another that is accepted, if it is proper and not taken. -/
theorem accepted_withServer {before after : List KetServer} {name name' : String}
    (h : Accepted F draws (withServer t before s name after)) (hproper : isProper name' = true)
    (hfree : name' ∉ (before ++ after).map KetServer.name) :
    Accepted F draws (withServer t before s name' after) := by
  have hwell := exists_parseCloudConfig_iff.mp h
  apply exists_parseCloudConfig_iff.mpr
  have hservers := hwell.servers
  have hdomains := hwell.domains
  have hips := hwell.ips
  simp only [withServer, List.forall_mem_append, List.forall_mem_cons, List.map_append,
    List.map_cons] at hservers hdomains hips
  obtain ⟨hbefore, hs, hafter⟩ := hservers
  refine ⟨hwell.inboundSet, ?_, ?_, ?_, ?_⟩
  · simp only [withServer, List.forall_mem_append, List.forall_mem_cons]
    exact ⟨hbefore, wellFormedServer_named hs hproper, hafter⟩
  · exact (names_withServer before after name').mpr
      ⟨hfree, ((names_withServer before after name).mp hwell.names).2⟩
  · simpa only [withServer, List.map_append, List.map_cons] using hdomains
  · simpa only [withServer, List.map_append, List.map_cons] using hips

theorem accepted_suggested_server_iff (before after : List KetServer) :
    Accepted F draws (withServer t before s (slug s.name) after) ↔
      (∃ name, Accepted F draws (withServer t before s name after)) ∧
        slug s.name ∉ (before ++ after).map KetServer.name := by
  constructor
  · intro h
    have hnames := (exists_parseCloudConfig_iff.mp h).names
    exact ⟨⟨_, h⟩, ((names_withServer before after _).mp hnames).1⟩
  · rintro ⟨⟨name, h⟩, hfree⟩
    exact accepted_withServer h (isProper_slug s.name) hfree

end Adopting

section AdoptingInbounds

variable {F : Forms} {draws : Nat → SecretDraw} {t : TCloud} {old new : String}

def renamed (old new : String) (inb : Inbound) : Inbound :=
  if inb.name = old then { inb with name := new } else inb

/-- The configuration with an inbound given another name wherever it is used. -/
def withInbound (t : TCloud) (old new : String) : TCloud where
  servers := t.servers.map fun s => { s with inbounds := s.inbounds.map (renamed old new) }
  settings := { t.settings with
    inboundSet := t.settings.inboundSet.map (renamed old new) }

def usedNames (t : TCloud) : List String :=
  t.settings.inboundSet.map Inbound.name ++ t.servers.flatMap KetServer.inboundNames

/-- The names that the other inbounds of the set have. -/
def otherNames (t : TCloud) (old : String) : List String :=
  (t.settings.inboundSet.map Inbound.name).filter (· ≠ old)

theorem renamed_name (inb : Inbound) :
    (renamed old new inb).name = if inb.name = old then new else inb.name := by
  rw [renamed]
  split <;> rfl

theorem renamed_port (inb : Inbound) : (renamed old new inb).port = inb.port := by
  rw [renamed]
  split <;> rfl

theorem map_renamed_port (l : List Inbound) :
    (l.map (renamed old new)).map Inbound.port = l.map Inbound.port := by
  rw [List.map_map]
  exact List.map_congr_left fun inb _ => renamed_port inb

/-- Renaming once more leads from the first name to the last. -/
theorem renamed_renamed {via : String} {inb : Inbound} (hunused : inb.name ≠ via) :
    renamed via new (renamed old via inb) = renamed old new inb := by
  by_cases hold : inb.name = old
  · simp [renamed, hold]
  · simp [renamed, hold, hunused]

theorem map_renamed_name (l : List Inbound) :
    (l.map (renamed old new)).map Inbound.name =
      (l.map Inbound.name).map fun name => if name = old then new else name := by
  rw [List.map_map, List.map_map]
  exact List.map_congr_left fun inb _ => renamed_name inb

theorem unambiguous_renamed {l : List Inbound} (h : Unambiguous l)
    (hsuper : new ≠ SvcKind.superName) (hfree : ∀ name ∈ l.map Inbound.name,
      name ≠ old → name ≠ new) : Unambiguous (l.map (renamed old new)) where
  names := by
    rw [map_renamed_name]
    apply h.names.map_on
    intro x hx y hy hxy
    by_cases hxold : x = old <;> by_cases hyold : y = old
    · rw [hxold, hyold]
    · rw [if_pos hxold, if_neg hyold] at hxy
      exact absurd hxy.symm (hfree y hy hyold)
    · rw [if_neg hxold, if_pos hyold] at hxy
      exact absurd hxy (hfree x hx hxold)
    · rwa [if_neg hxold, if_neg hyold] at hxy
  notSuper := by
    rw [map_renamed_name]
    intro hmem
    obtain ⟨name, hname, heq⟩ := List.mem_map.mp hmem
    split at heq
    · exact hsuper heq
    · exact h.notSuper (heq ▸ hname)
  ports := by
    rw [map_renamed_port]
    exact h.ports
  unreserved p hp := by
    rw [map_renamed_port]
    exact h.unreserved p hp

theorem inboundsOf_renamed (inboundSet : List Inbound) (s : KetServer) :
    inboundsOf (inboundSet.map (renamed old new))
        { s with inbounds := s.inbounds.map (renamed old new) } =
      (inboundsOf inboundSet s).map (renamed old new) := by
  cases h : s.inbounds with
  | nil => simp [inboundsOf, h]
  | cons inb rest => simp [inboundsOf, h]

theorem wellFormed_withInbound (h : WellFormed t) (hproper : isProper new = true)
    (hsuper : new ≠ SvcKind.superName) (hfree : new ∉ otherNames t old) :
    WellFormed (withInbound t old new) := by
  have hset : ∀ name ∈ t.settings.inboundSet.map Inbound.name, name ≠ old → name ≠ new := by
    rintro name hname hold rfl
    exact hfree (List.mem_filter.mpr ⟨hname, decide_eq_true hold⟩)
  refine ⟨⟨unambiguous_renamed h.inboundSet.toUnambiguous hsuper hset, ?_, ?_⟩, ?_, ?_, ?_, ?_⟩
  · simpa [withInbound] using h.inboundSet.nonempty
  · intro inb hinb
    obtain ⟨declared, hdeclared, rfl⟩ := List.mem_map.mp hinb
    rw [renamed_name]
    split
    · exact hproper
    · exact h.inboundSet.proper declared hdeclared
  · intro s hs
    obtain ⟨declared, hdeclared, rfl⟩ := List.mem_map.mp hs
    have hserver := h.servers declared hdeclared
    have hcovered : ∀ name ∈ (inboundsOf t.settings.inboundSet declared).map Inbound.name,
        name ≠ old → name ≠ new := by
      intro name hname
      obtain ⟨inb, hinb, rfl⟩ := List.mem_map.mp hname
      obtain ⟨set, hmem, hsame, _⟩ := hserver.covered inb hinb
      exact hset _ (hsame ▸ List.mem_map_of_mem hmem)
    refine ⟨hserver.name, hserver.ip, hserver.subdomains, hserver.subdomains_nodup, ?_, ?_⟩
    · rw [withInbound, inboundsOf_renamed]
      exact unambiguous_renamed hserver.inbounds hsuper hcovered
    · rw [withInbound, inboundsOf_renamed]
      intro inb hinb
      obtain ⟨inb, hdeclared', rfl⟩ := List.mem_map.mp hinb
      obtain ⟨set, hmem, hname, hport⟩ := hserver.covered inb hdeclared'
      refine ⟨renamed old new set, List.mem_map_of_mem hmem, ?_, ?_⟩
      · rw [renamed_name, renamed_name, hname]
      · rw [renamed_port, renamed_port, hport]
  · simpa [withInbound, Function.comp_def] using h.names
  · simpa [withInbound, Function.comp_def] using h.domains
  · simpa [withInbound, Function.comp_def] using h.ips

variable {via : String}

theorem ne_via_of_mem (hvia : via ∉ usedNames t) {inb : Inbound}
    (hinb : inb ∈ t.settings.inboundSet ∨ ∃ s ∈ t.servers, inb ∈ s.inbounds) :
    inb.name ≠ via := by
  rintro rfl
  apply hvia
  rcases hinb with hinb | ⟨s, hs, hinb⟩
  · exact List.mem_append_left _ (List.mem_map_of_mem hinb)
  · exact List.mem_append_right _
      (List.mem_flatMap.mpr ⟨s, hs, List.mem_map_of_mem hinb⟩)

theorem withInbound_withInbound (hvia : via ∉ usedNames t) :
    withInbound (withInbound t old via) via new = withInbound t old new := by
  have hset : (t.settings.inboundSet.map (renamed old via)).map (renamed via new) =
      t.settings.inboundSet.map (renamed old new) := by
    rw [List.map_map]
    exact List.map_congr_left fun inb hinb => renamed_renamed (ne_via_of_mem hvia (Or.inl hinb))
  have hservers : (t.servers.map fun s =>
      { s with inbounds := s.inbounds.map (renamed old via) }).map (fun s =>
        { s with inbounds := s.inbounds.map (renamed via new) }) =
      t.servers.map fun s => { s with inbounds := s.inbounds.map (renamed old new) } := by
    rw [List.map_map]
    apply List.map_congr_left
    intro s hs
    have hinbounds : (s.inbounds.map (renamed old via)).map (renamed via new) =
        s.inbounds.map (renamed old new) := by
      rw [List.map_map]
      exact List.map_congr_left fun inb hinb =>
        renamed_renamed (ne_via_of_mem hvia (Or.inr ⟨s, hs, hinb⟩))
    rw [Function.comp_apply, hinbounds]
  rw [withInbound, withInbound, withInbound, hset, hservers]

theorem otherNames_withInbound :
    otherNames (withInbound t old via) via ⊆ otherNames t old := by
  intro name hname
  obtain ⟨hmem, hne⟩ := List.mem_filter.mp hname
  rw [withInbound, map_renamed_name] at hmem
  obtain ⟨declared, hdeclared, rfl⟩ := List.mem_map.mp hmem
  by_cases hold : declared = old
  · rw [if_pos hold] at hne
    exact absurd rfl (of_decide_eq_true hne)
  · rw [if_neg hold]
    exact List.mem_filter.mpr ⟨hdeclared, decide_eq_true hold⟩

/-- The suggested name of an inbound is accepted if any unused one is, and it is neither
reserved nor the name of another inbound. -/
theorem accepted_suggested_inbound_iff (hold : old ∈ t.settings.inboundSet.map Inbound.name)
    (hvia : via ∉ usedNames t) (h : Accepted F draws (withInbound t old via)) :
    Accepted F draws (withInbound t old (slug old)) ↔
      slug old ≠ SvcKind.superName ∧ slug old ∉ otherNames t old := by
  constructor
  · intro hslug
    have hset := (exists_parseCloudConfig_iff.mp hslug).inboundSet
    have hnames := hset.names
    have hnotSuper := hset.notSuper
    rw [withInbound, map_renamed_name] at hnames hnotSuper
    refine ⟨?_, ?_⟩
    · intro heq
      exact hnotSuper (List.mem_map.mpr ⟨old, hold, by rw [if_pos rfl, heq]⟩)
    · intro hmem
      obtain ⟨hmem, hne⟩ := List.mem_filter.mp hmem
      have hne : slug old ≠ old := of_decide_eq_true hne
      have hsame := List.inj_on_of_nodup_map hnames hmem hold
      rw [if_neg hne, if_pos rfl] at hsame
      exact hne (hsame rfl)
  · rintro ⟨hsuper, hfree⟩
    have hwell := exists_parseCloudConfig_iff.mp h
    apply exists_parseCloudConfig_iff.mpr
    rw [← withInbound_withInbound hvia]
    apply wellFormed_withInbound hwell (isProper_slug old) hsuper
    intro hmem
    exact hfree (otherNames_withInbound hmem)

end AdoptingInbounds

/-- A suggestion is proper, is the name itself if that is proper, and is accepted where
some name is, unless it is taken or reserved. -/
theorem suggestions_proper_and_accepted :
    (∀ s, isProper (slug s) = true) ∧ (∀ s, isProper s = true → slug s = s) ∧
      (∀ s, slug (slug s) = slug s) ∧
      (∀ F draws t s before after,
        Accepted F draws (withServer t before s (slug s.name) after) ↔
          (∃ name, Accepted F draws (withServer t before s name after)) ∧
            slug s.name ∉ (before ++ after).map KetServer.name) ∧
      ∀ F draws t old via, old ∈ t.settings.inboundSet.map Inbound.name →
        via ∉ usedNames t → Accepted F draws (withInbound t old via) →
          (Accepted F draws (withInbound t old (slug old)) ↔
            slug old ≠ SvcKind.superName ∧ slug old ∉ otherNames t old) := by
  refine ⟨isProper_slug, fun s => slug_of_proper, fun s => slug_of_proper (isProper_slug s),
    ?_, ?_⟩
  · intro F draws t s before after
    exact accepted_suggested_server_iff before after
  · intro F draws t old via hold hvia h
    exact accepted_suggested_inbound_iff hold hvia h

section Instances

open Xcplane.Specimen

/-- The name of the only inbound is the reserved one but for a space. -/
def spaced : TCloud :=
  { declared [] with settings := { settings with
      inboundSet := [{ direct with name := " super" }] } }

/-- The suggestion for that name is refused when it is adopted. -/
theorem suggestion_refused :
    parseCloudConfig forms draws spaced =
        .error ("[ Cloud Config ] The inbound-set name ' super' is not a proper name. " ++
          "A valid name can be 'super'") ∧
      parseCloudConfig forms draws (withInbound spaced " super" "super") =
        .error ("[ Cloud Config ] The cloud inbound-set names have 'super' which is a " ++
          "reserved keyword.") := by
  decide +kernel

/-- The name of the only inbound has a hyphen. -/
def hyphened : TCloud :=
  { declared [] with settings := { settings with
      inboundSet := [{ direct with name := "my-node" }] } }

theorem suggestions_proper_and_accepted_hyphened :
    Accepted forms draws (withInbound hyphened "my-node" (slug "my-node")) :=
  (suggestions_proper_and_accepted.2.2.2.2 forms draws hyphened "my-node" "direct"
    (by decide) (by decide) ⟨_, rfl⟩).mpr (by decide)

end Instances

end Xcplane.NameSuggestions
