import Xcplane.RebaseDiff
import Xcplane.Specimen

/-!
Whether the rebase data of a cloud depends on the order in which its servers are
gone through. The variables that the loop carries from one server to the next
leak into a server that only the new cloud has.
-/

namespace Xcplane.RebaseOrder

open Xcplane.Types
open Xcplane.Server
open Xcplane.Lib
open Xcplane.RebaseDiff

/-- Both refused, or both accepted with maps that answer every lookup alike. -/
def SameVerdict (x y : Except BoxError (List (String × RebaseData))) : Prop :=
  match x, y with
  | .ok m, .ok m' => ∀ k, m.lookup k = m'.lookup k
  | .error _, .error _ => True
  | _, _ => False

def Accepted (x : Except BoxError (List (String × RebaseData))) : Prop :=
  ∃ m, x = .ok m

def without (c : Cloud) (gone : String → Bool) : Cloud :=
  { c with servers := c.servers.filter fun s => !gone s.name }

def hostnames (d : RebaseDomain) : List String :=
  d.dns.toList ++ d.ui.toList ++ d.sub.toList

section Loop

variable {F : Forms} {opts : RebaseOpts} {ord : InboundOrder} {currCloud : Cloud}

theorem createLoop_cons_common {new curr : KetServer} (h : currCloud.firstOf new.name = some curr)
    (rest : List KetServer) (carried : Carried) (m : List (String × RebaseData)) :
    createLoop F opts ord currCloud (new :: rest) carried m =
      compareServer F opts ord curr new >>= fun data =>
        createLoop F opts ord currCloud rest (.ofData data) (orInsert m new.name data) := by
  rw [createLoop, visit, h]
  cases hdata : compareServer F opts ord curr new with
  | error e => simp [hdata, Except.map, bind, Except.bind]
  | ok data => simp [hdata, Except.map, bind, Except.bind, Carried.data, Carried.ofData]

theorem createLoop_cons_newOnly {new : KetServer} (h : currCloud.firstOf new.name = none)
    (rest : List KetServer) (carried : Carried) (m : List (String × RebaseData)) :
    createLoop F opts ord currCloud (new :: rest) carried m =
      carried.data >>= fun data =>
        createLoop F opts ord currCloud rest carried (orInsert m new.name data) := by
  rw [createLoop, visit, h]
  rfl

theorem createLoop_refused {servers : List KetServer} {new curr : KetServer}
    (hmem : new ∈ servers) (hcurr : currCloud.firstOf new.name = some curr)
    (hrefuses : Refuses F opts curr new) (carried : Carried) (m : List (String × RebaseData)) :
    ¬ Accepted (createLoop F opts ord currCloud servers carried m) := by
  induction servers generalizing carried m with
  | nil => simp at hmem
  | cons s rest ih =>
      rintro ⟨m', hm'⟩
      rcases List.mem_cons.mp hmem with rfl | hrest
      · rw [createLoop_cons_common hcurr] at hm'
        obtain ⟨data, hdata, _⟩ := bind_eq_ok_iff.mp hm'
        exact exists_compareServer_ok_iff.mp ⟨data, hdata⟩ hrefuses
      · cases hs : currCloud.firstOf s.name with
        | none =>
            rw [createLoop_cons_newOnly hs] at hm'
            obtain ⟨data, _, hm'⟩ := bind_eq_ok_iff.mp hm'
            exact ih hrest _ _ ⟨m', hm'⟩
        | some c =>
            rw [createLoop_cons_common hs] at hm'
            obtain ⟨data, _, hm'⟩ := bind_eq_ok_iff.mp hm'
            exact ih hrest _ _ ⟨m', hm'⟩

theorem createLoop_accepted {servers : List KetServer}
    (h : ∀ new ∈ servers, ∃ curr, currCloud.firstOf new.name = some curr ∧
      ¬ Refuses F opts curr new) (carried : Carried) (m : List (String × RebaseData)) :
    Accepted (createLoop F opts ord currCloud servers carried m) := by
  induction servers generalizing carried m with
  | nil => exact ⟨m, rfl⟩
  | cons s rest ih =>
      obtain ⟨curr, hcurr, hs⟩ := h s List.mem_cons_self
      obtain ⟨data, hdata⟩ := exists_compareServer_ok_iff.mpr hs
      rw [createLoop_cons_common hcurr, hdata]
      exact ih (fun new hnew => h new (List.mem_cons_of_mem s hnew)) _ _

theorem createLoop_lookup_of_notMem {servers : List KetServer} {carried : Carried}
    {m m' : List (String × RebaseData)} {n : String}
    (h : createLoop F opts ord currCloud servers carried m = .ok m')
    (hn : ∀ s ∈ servers, s.name ≠ n) : m'.lookup n = m.lookup n := by
  induction servers generalizing carried m with
  | nil =>
      rw [createLoop] at h
      cases h
      rfl
  | cons s rest ih =>
      have hne : n ≠ s.name := (hn s List.mem_cons_self).symm
      have hrest : ∀ x ∈ rest, x.name ≠ n := fun x hx => hn x (List.mem_cons_of_mem s hx)
      rw [createLoop] at h
      obtain ⟨carried', _, h⟩ := bind_eq_ok_iff.mp h
      obtain ⟨data, _, h⟩ := bind_eq_ok_iff.mp h
      rw [ih h hrest, lookup_orInsert, if_neg hne, Option.or_none]

/-- In an accepted comparison, the entry of a server of both clouds is the
comparison of its own two declarations. -/
theorem createLoop_lookup_common {servers : List KetServer} {carried : Carried}
    {m m' : List (String × RebaseData)} {new curr : KetServer}
    (h : createLoop F opts ord currCloud servers carried m = .ok m')
    (hnodup : (servers.map KetServer.name).Nodup) (hmem : new ∈ servers)
    (hcurr : currCloud.firstOf new.name = some curr) (hm : m.lookup new.name = none) :
    ∃ data, compareServer F opts ord curr new = .ok data ∧ m'.lookup new.name = some data := by
  induction servers generalizing carried m with
  | nil => simp at hmem
  | cons s rest ih =>
      obtain ⟨hfresh, hnodup⟩ := List.nodup_cons.mp hnodup
      rcases List.mem_cons.mp hmem with rfl | hrest
      · rw [createLoop_cons_common hcurr] at h
        obtain ⟨data, hdata, h⟩ := bind_eq_ok_iff.mp h
        refine ⟨data, hdata, ?_⟩
        have hothers : ∀ x ∈ rest, x.name ≠ new.name := by
          intro x hx heq
          exact hfresh (heq ▸ List.mem_map_of_mem hx)
        rw [createLoop_lookup_of_notMem h hothers, lookup_orInsert, hm]
        simp
      · have hne : new.name ≠ s.name := by
          intro heq
          exact hfresh (heq ▸ List.mem_map_of_mem hrest)
        rw [createLoop] at h
        obtain ⟨carried', _, h⟩ := bind_eq_ok_iff.mp h
        obtain ⟨data, _, h⟩ := bind_eq_ok_iff.mp h
        refine ih h hnodup hrest ?_
        rw [lookup_orInsert, hm, if_neg hne]
        rfl

end Loop

section Iteration

variable {newCloud : Cloud}

theorem mem_servers_iff {o : Iteration newCloud} {s : KetServer} :
    s ∈ o.servers ↔ newCloud.firstOf s.name = some s := by
  rw [Iteration.servers, List.mem_filterMap]
  constructor
  · rintro ⟨n, _, hn⟩
    rwa [(Cloud.firstOf_eq_some hn).2]
  · intro h
    exact ⟨s.name, (o.enumerates.mem_iff _).mpr (Cloud.mem_names_of_firstOf h), h⟩

theorem map_name_filterMap_firstOf {names : List String} (h : ∀ n ∈ names, n ∈ newCloud.names) :
    (names.filterMap newCloud.firstOf).map KetServer.name = names := by
  induction names with
  | nil => rfl
  | cons n rest ih =>
      obtain ⟨s, hs⟩ := Cloud.exists_firstOf (h n List.mem_cons_self)
      rw [List.filterMap_cons, hs, List.map_cons, (Cloud.firstOf_eq_some hs).2,
        ih fun x hx => h x (List.mem_cons_of_mem n hx)]

theorem servers_names (o : Iteration newCloud) : o.servers.map KetServer.name = o.names :=
  map_name_filterMap_firstOf fun n hn => (o.enumerates.mem_iff n).mp hn

theorem servers_nodup (o : Iteration newCloud) : (o.servers.map KetServer.name).Nodup := by
  rw [servers_names]
  exact o.enumerates.nodup

theorem mem_servers_of_firstOf {o : Iteration newCloud} {n : String} {s : KetServer}
    (h : newCloud.firstOf n = some s) : s ∈ o.servers := by
  rw [mem_servers_iff, (Cloud.firstOf_eq_some h).2]
  exact h

theorem firstOf_without {gone : String → Bool} {n : String} (hn : gone n = false) :
    (without newCloud gone).firstOf n = newCloud.firstOf n := by
  rw [Cloud.firstOf, without, List.find?_filter]
  unfold Cloud.firstOf
  congr 1
  funext s
  rcases eq_or_ne s.name n with heq | hne
  · simp [heq, hn]
  · simp [hne]

end Iteration

section OrderFree

variable (F : Forms) (opts : RebaseOpts) (ord : InboundOrder) (currCloud newCloud : Cloud)

/-- The verdict and the map do not depend on the order, the entry of each server
is made from its own declarations, and a server that only the new cloud has is
never a reason to refuse. -/
structure OrderFree : Prop where
  verdict : ∀ o₁ o₂ : Iteration newCloud,
    SameVerdict (createRebaseData F opts ord currCloud newCloud o₁)
      (createRebaseData F opts ord currCloud newCloud o₂)
  own : ∀ (currCloud' newCloud' : Cloud) (o : Iteration newCloud) (o' : Iteration newCloud')
    (m m' : List (String × RebaseData)) (n : String),
    createRebaseData F opts ord currCloud newCloud o = .ok m →
    createRebaseData F opts ord currCloud' newCloud' o' = .ok m' →
    currCloud.firstOf n = currCloud'.firstOf n → newCloud.firstOf n = newCloud'.firstOf n →
    m.lookup n = m'.lookup n
  newOnly : ∀ (o : Iteration newCloud) (m : List (String × RebaseData)) (s : KetServer)
    (data : RebaseData), createRebaseData F opts ord currCloud newCloud o = .ok m →
    newCloud.firstOf s.name = some s → currCloud.firstOf s.name = none →
    m.lookup s.name = some data →
    (∀ inb ∈ data.addedInbounds ++ data.removedInbounds, inb ∈ s.inbounds) ∧
      ∀ host ∈ hostnames data.rebaseDomain,
        host ∈ [dnshostname F s, uihostname F s, subhostname F s]
  presence : ∀ gone : String → Bool, (∀ n, gone n = true → n ∉ currCloud.names) →
    ∀ (o : Iteration newCloud) (o' : Iteration (without newCloud gone)),
    Accepted (createRebaseData F opts ord currCloud (without newCloud gone) o') →
    Accepted (createRebaseData F opts ord currCloud newCloud o)

def SomeRefused : Prop :=
  ∃ curr new, currCloud.firstOf new.name = some curr ∧ newCloud.firstOf new.name = some new ∧
    Refuses F opts curr new

variable {F opts ord currCloud newCloud}

theorem not_accepted_of_refused (h : SomeRefused F opts currCloud newCloud)
    (o : Iteration newCloud) :
    ¬ Accepted (createRebaseData F opts ord currCloud newCloud o) := by
  obtain ⟨curr, new, hcurr, hnew, hrefuses⟩ := h
  exact createLoop_refused (mem_servers_iff.mpr hnew) hcurr hrefuses _ _

theorem accepted_of_common (hcommon : ∀ n ∈ newCloud.names, n ∈ currCloud.names)
    (h : ¬ SomeRefused F opts currCloud newCloud) (o : Iteration newCloud) :
    Accepted (createRebaseData F opts ord currCloud newCloud o) := by
  refine createLoop_accepted ?_ _ _
  intro new hnew
  have hfirst := mem_servers_iff.mp hnew
  obtain ⟨curr, hcurr⟩ :=
    Cloud.exists_firstOf (hcommon new.name (Cloud.mem_names_of_firstOf hfirst))
  exact ⟨curr, hcurr, fun hrefuses => h ⟨curr, new, hcurr, hfirst, hrefuses⟩⟩

theorem lookup_of_accepted {o : Iteration newCloud} {m : List (String × RebaseData)} {n : String}
    (h : createRebaseData F opts ord currCloud newCloud o = .ok m)
    (hn : n ∈ newCloud.names → n ∈ currCloud.names) :
    m.lookup n =
      (currCloud.firstOf n).bind fun curr => (newCloud.firstOf n).bind fun new =>
        (compareServer F opts ord curr new).toOption := by
  cases hnew : newCloud.firstOf n with
  | none =>
      have hmissing : ∀ s ∈ o.servers, s.name ≠ n := by
        rintro s hs rfl
        rw [mem_servers_iff.mp hs] at hnew
        cases hnew
      rw [createLoop_lookup_of_notMem h hmissing]
      cases currCloud.firstOf n with
      | none => rfl
      | some curr => rfl
  | some new =>
      have hname := (Cloud.firstOf_eq_some hnew).2
      obtain ⟨curr, hcurr⟩ := Cloud.exists_firstOf (hn (Cloud.mem_names_of_firstOf hnew))
      subst hname
      obtain ⟨data, hdata, hm⟩ :=
        createLoop_lookup_common h (servers_nodup o) (mem_servers_of_firstOf hnew) hcurr rfl
      simp [hcurr, hm, hdata, Except.toOption]

theorem orderFree_of_refused (h : SomeRefused F opts currCloud newCloud) :
    OrderFree F opts ord currCloud newCloud where
  verdict o₁ o₂ := by
    cases h₁ : createRebaseData F opts ord currCloud newCloud o₁ with
    | ok m => exact absurd ⟨m, h₁⟩ (not_accepted_of_refused h o₁)
    | error e =>
        cases h₂ : createRebaseData F opts ord currCloud newCloud o₂ with
        | ok m => exact absurd ⟨m, h₂⟩ (not_accepted_of_refused h o₂)
        | error e' => trivial
  own _ _ o _ m _ _ hm := absurd ⟨m, hm⟩ (not_accepted_of_refused h o)
  newOnly o m _ _ hm := absurd ⟨m, hm⟩ (not_accepted_of_refused h o)
  presence gone hgone o o' haccepted := by
    obtain ⟨curr, new, hcurr, hnew, hrefuses⟩ := h
    have hkept : gone new.name = false := by
      rw [← Bool.not_eq_true]
      intro hnewGone
      exact hgone _ hnewGone (Cloud.mem_names_of_firstOf hcurr)
    have hrefused : SomeRefused F opts currCloud (without newCloud gone) :=
      ⟨curr, new, hcurr, by rw [firstOf_without hkept, hnew], hrefuses⟩
    exact absurd haccepted (not_accepted_of_refused hrefused o')

theorem orderFree_of_common (hcommon : ∀ n ∈ newCloud.names, n ∈ currCloud.names)
    (h : ¬ SomeRefused F opts currCloud newCloud) :
    OrderFree F opts ord currCloud newCloud where
  verdict o₁ o₂ := by
    obtain ⟨m₁, h₁⟩ : Accepted (createRebaseData F opts ord currCloud newCloud o₁) :=
      accepted_of_common hcommon h o₁
    obtain ⟨m₂, h₂⟩ : Accepted (createRebaseData F opts ord currCloud newCloud o₂) :=
      accepted_of_common hcommon h o₂
    rw [h₁, h₂]
    intro k
    rw [lookup_of_accepted h₁ (hcommon k), lookup_of_accepted h₂ (hcommon k)]
  own currCloud' newCloud' o o' m m' n hm hm' hcurr hnew := by
    have hn' : n ∈ newCloud'.names → n ∈ currCloud'.names := by
      rw [← Cloud.firstOf_isSome_iff, ← Cloud.firstOf_isSome_iff, ← hcurr, ← hnew,
        Cloud.firstOf_isSome_iff, Cloud.firstOf_isSome_iff]
      exact hcommon n
    rw [lookup_of_accepted hm (hcommon n), lookup_of_accepted hm' hn', hcurr, hnew]
  newOnly o m s data _ hs hcurr := by
    have hmem := hcommon s.name (Cloud.mem_names_of_firstOf hs)
    rw [← Cloud.firstOf_isSome_iff, hcurr] at hmem
    simp at hmem
  presence _ _ o _ _ := accepted_of_common hcommon h o

theorem not_accepted_of_newOnly_first {o : Iteration newCloud} {n : String} {rest : List String}
    (ho : o.names = n :: rest) (hn : n ∉ currCloud.names) :
    ¬ Accepted (createRebaseData F opts ord currCloud newCloud o) := by
  have hnew : n ∈ newCloud.names :=
    (o.enumerates.mem_iff n).mp (by rw [ho]; exact List.mem_cons_self)
  obtain ⟨s, hs⟩ := Cloud.exists_firstOf hnew
  obtain rfl := (Cloud.firstOf_eq_some hs).2
  have hcurr : currCloud.firstOf s.name = none := by
    cases hfirst : currCloud.firstOf s.name with
    | none => rfl
    | some curr => exact absurd (Cloud.mem_names_of_firstOf hfirst) hn
  rintro ⟨m, hm⟩
  rw [createRebaseData, Iteration.servers, ho, List.filterMap_cons, hs,
    createLoop_cons_newOnly hcurr] at hm
  obtain ⟨data, hdata, _⟩ := bind_eq_ok_iff.mp hm
  cases hdata

/-- The comparison is independent of the order exactly when no server is new, or
when some server is refused in every order. -/
theorem createRebaseData_orderFree_iff :
    OrderFree F opts ord currCloud newCloud ↔
      (∀ n ∈ newCloud.names, n ∈ currCloud.names) ∨
        SomeRefused F opts currCloud newCloud := by
  constructor
  · intro h
    rw [or_iff_not_imp_right]
    intro hrefused n hn
    refine Decidable.byContradiction ?_
    intro hnewOnly
    let gone : String → Bool := fun k => !decide (k ∈ currCloud.names)
    have hkept : ∀ k ∈ (without newCloud gone).names, k ∈ currCloud.names := by
      intro k hk
      obtain ⟨s, hs, rfl⟩ := List.mem_map.mp hk
      simpa [gone] using (List.mem_filter.mp hs).2
    have hrefused' : ¬ SomeRefused F opts currCloud (without newCloud gone) := by
      rintro ⟨curr, new, hcurr, hnew, hrefuses⟩
      have hgone : gone new.name = false := by
        simpa [gone] using Cloud.mem_names_of_firstOf hcurr
      exact hrefused ⟨curr, new, hcurr, by rwa [firstOf_without hgone] at hnew, hrefuses⟩
    obtain ⟨rest, hrest⟩ := (Enumerates.dedup newCloud.names).exists_cons hn
    let first : Iteration newCloud := ⟨n :: rest, hrest⟩
    let kept : Iteration (without newCloud gone) := ⟨_, Enumerates.dedup _⟩
    have haccepted := h.presence gone (by intro k hk; simpa [gone] using hk) first kept
      (accepted_of_common hkept hrefused' kept)
    exact not_accepted_of_newOnly_first rfl hnewOnly haccepted
  · rintro (hcommon | hrefused)
    · rcases Classical.em (SomeRefused F opts currCloud newCloud) with hrefused | hrefused
      · exact orderFree_of_refused hrefused
      · exact orderFree_of_common hcommon hrefused
    · exact orderFree_of_refused hrefused

end OrderFree

section Leak

def movedPanel : Cloud :=
  Specimen.cloud [{ Specimen.alpha with uiSubdomain := "panel" }, Specimen.beta]

def alphaFirst : Iteration movedPanel where
  names := ["alpha", "beta"]
  enumerates :=
    { nodup := by decide
      mem_iff := by intro n; exact Iff.rfl }

def betaFirst : Iteration movedPanel where
  names := ["beta", "alpha"]
  enumerates :=
    { nodup := by decide
      mem_iff := by intro n; exact (List.Perm.swap "alpha" "beta" []).mem_iff }

/-- Server `beta` is new. Gone through second it is recorded with a hostname of
server `alpha`, gone through first it stops the Rebase. -/
theorem createRebaseData_leaks :
    ¬ OrderFree Specimen.forms ⟨false⟩ Specimen.inboundOrder (Specimen.cloud [Specimen.alpha])
      movedPanel := by
  intro h
  have hfirst : createRebaseData Specimen.forms ⟨false⟩ Specimen.inboundOrder
      (Specimen.cloud [Specimen.alpha]) movedPanel alphaFirst =
        .ok
          [("alpha", ⟨[], [], ⟨some "example.org", none, some "ui.a.example.org", none⟩⟩),
            ("beta", ⟨[], [], ⟨some "example.org", none, some "ui.a.example.org", none⟩⟩)] :=
    rfl
  have hsecond : createRebaseData Specimen.forms ⟨false⟩ Specimen.inboundOrder
      (Specimen.cloud [Specimen.alpha]) movedPanel betaFirst =
        .error "rebase_domain extraction must not fail." := rfl
  have hverdict := h.verdict alphaFirst betaFirst
  rw [hfirst, hsecond] at hverdict
  exact hverdict

end Leak

end Xcplane.RebaseOrder
