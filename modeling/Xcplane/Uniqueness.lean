import Xcplane.ReconcileSpec
import Xcplane.Specimen

/-!
Whether the servers of a reconciled cloud still differ in their domains and IPs.
The merge compares an added server with the old cloud, but never a server that
keeps its old declaration with one that takes its new one.
-/

namespace Xcplane.Uniqueness

open Xcplane.Types
open Xcplane.Lib
open Xcplane.Merge
open Xcplane.Reconcile
open Xcplane.ReconcileSpec

variable {δ : Type}

def Keeps (mode : ReconMode) (old new : Cloud) (n : String) (o : KetServer) : Prop :=
  old.collected n = some o ∧ ∃ s, new.collected n = some s ∧ keepsOld mode o s = true

def Takes (mode : ReconMode) (old new : Cloud) (n : String) (s : KetServer) : Prop :=
  new.collected n = some s ∧ ∃ o, old.collected n = some o ∧ keepsOld mode o s = false

/-- A server that keeps its old declaration and one that takes its new one have
the same domain or IP. -/
def Clash (mode : ReconMode) (old new : Cloud) : Prop :=
  ∃ n n' o s, Keeps mode old new n o ∧ Takes mode old new n' s ∧
    (o.domain = s.domain ∨ o.ip = s.ip)

section Round

variable {mode : ReconMode} {old new : Cloud}

theorem mergeRound_avoids {names : List String} {taken : Taken}
    {result : List KetServer × List (KetServer × KetServer)}
    (h : mergeRound mode old new names taken = .ok result) {n : String} {s : KetServer}
    (hn : n ∈ names) (hold : old.collected n = none) (hnew : new.collected n = some s) :
    s.domain ∉ taken.domains ∧ s.ip ∉ taken.ips := by
  induction names generalizing taken result with
  | nil => simp at hn
  | cons k rest ih =>
      rw [mergeRound] at h
      rcases List.mem_cons.mp hn with rfl | hrest
      · simp only [hold, hnew, ensure_bind_eq_ok_iff] at h
        exact ⟨by simpa using h.1, by simpa using h.2.1⟩
      · cases hk : old.collected k with
        | none =>
            cases hk' : new.collected k with
            | none =>
                rw [hk, hk'] at h
                cases h
            | some t =>
                simp only [hk, hk', ensure_bind_eq_ok_iff] at h
                obtain ⟨_, _, h⟩ := h
                obtain ⟨result', hresult', _⟩ := bind_eq_ok_iff.mp h
                obtain ⟨hdomain, hip⟩ := ih hresult' hrest
                exact ⟨fun hmem => hdomain (List.mem_cons_of_mem _ hmem),
                  fun hmem => hip (List.mem_cons_of_mem _ hmem)⟩
        | some o =>
            cases hk' : new.collected k with
            | none =>
                rw [hk, hk'] at h
                exact ih h hrest
            | some t =>
                simp only [hk, hk'] at h
                obtain ⟨m, _, h⟩ := bind_eq_ok_iff.mp h
                obtain ⟨result', hresult', _⟩ := bind_eq_ok_iff.mp h
                exact ih hresult' hrest

theorem mem_takenAfterDeletion (names : List String) (taken : Taken) {x : KetServer}
    (hx : ∀ n s, old.collected n = some s → new.collected n = none →
      x.domain ≠ s.domain ∧ x.ip ≠ s.ip)
    (hdomain : x.domain ∈ taken.domains) (hip : x.ip ∈ taken.ips) :
    x.domain ∈ (takenAfterDeletion old new names taken).domains ∧
      x.ip ∈ (takenAfterDeletion old new names taken).ips := by
  induction names generalizing taken with
  | nil => exact ⟨hdomain, hip⟩
  | cons n rest ih =>
      rw [takenAfterDeletion]
      cases hold : old.collected n with
      | none => exact ih _ hdomain hip
      | some s =>
          cases hnew : new.collected n with
          | some t => exact ih _ hdomain hip
          | none =>
              obtain ⟨hd, hi⟩ := hx n s hold hnew
              apply ih
              · rw [List.mem_filter]
                exact ⟨hdomain, by simpa using hd⟩
              · rw [List.mem_filter]
                exact ⟨hip, by simpa using hi⟩

theorem address_ne {c : Cloud} (h : c.Distinct) {n n' : String} {s s' : KetServer}
    (hs : c.collected n = some s) (hs' : c.collected n' = some s') (hne : n ≠ n') :
    s.domain ≠ s'.domain ∧ s.ip ≠ s'.ip := by
  obtain ⟨hmem, hname⟩ := Cloud.collected_eq_some hs
  obtain ⟨hmem', hname'⟩ := Cloud.collected_eq_some hs'
  have hdiff : s ≠ s' := by
    intro heq
    exact hne (by rw [← hname, ← hname', heq])
  constructor
  · intro heq
    exact hdiff (List.inj_on_of_nodup_map h.domains hmem hmem' heq)
  · intro heq
    exact hdiff (List.inj_on_of_nodup_map h.ips hmem hmem' heq)

theorem added_avoids {env : ReconEnv δ} {c : Cloud}
    {rebaseData : Option (List (String × RebaseDiff.RebaseData))} {ord : MergeOrder old new}
    {dirs : Dirs δ} (hdistinct : old.Distinct)
    (h : (reconcileCloud env old new mode rebaseData ord dirs).result = .ok c)
    {n n' : String} {s o t : KetServer} (hold : old.collected n = none)
    (hnew : new.collected n = some s) (hold' : old.collected n' = some o)
    (hnew' : new.collected n' = some t) : o.domain ≠ s.domain ∧ o.ip ≠ s.ip := by
  obtain ⟨homem, honame⟩ := Cloud.collected_eq_some hold'
  cases reconcileCloud_proceeded h with
  | first hempty _ =>
      rw [List.isEmpty_iff.mp hempty] at homem
      cases homem
  | merged servers pairs dirs' _ hmerge _ _ =>
      have hn : n ∈ ord.names := by
        rw [ord.enumerates.mem_iff]
        exact .inr (Cloud.collected_isSome_iff.mp (by rw [hnew]; rfl))
      obtain ⟨hdomain, hip⟩ := mergeRound_avoids hmerge hn hold hnew
      have hstays : ∀ k d, old.collected k = some d → new.collected k = none →
          o.domain ≠ d.domain ∧ o.ip ≠ d.ip := by
        intro k d hd hgone
        refine address_ne hdistinct hold' hd ?_
        rintro rfl
        rw [hnew'] at hgone
        cases hgone
      obtain ⟨hodomain, hoip⟩ := mem_takenAfterDeletion ord.names (takenBy old) hstays
        (List.mem_map_of_mem homem) (List.mem_map_of_mem homem)
      exact ⟨fun heq => hdomain (heq ▸ hodomain), fun heq => hip (heq ▸ hoip)⟩

end Round

section Address

variable {mode : ReconMode} {old new : Cloud}

theorem entry_address {n : String} {m : KetServer} (h : Entry mode old new n m) :
    (∃ o, Keeps mode old new n o ∧ m.domain = o.domain ∧ m.ip = o.ip) ∨
      ∃ s, (Takes mode old new n s ∨ old.collected n = none ∧ new.collected n = some s) ∧
        m.domain = s.domain ∧ m.ip = s.ip := by
  cases h with
  | added _ hold hnew => exact .inr ⟨m, .inr ⟨hold, hnew⟩, rfl, rfl⟩
  | common o s _ hold hnew hmerged =>
      obtain ⟨hdomain, hip⟩ := hmerged.address
      cases hkeeps : keepsOld mode o s with
      | true =>
          rw [hkeeps, if_pos rfl] at hdomain hip
          exact .inl ⟨o, ⟨hold, s, hnew, hkeeps⟩, hdomain, hip⟩
      | false =>
          rw [hkeeps, if_neg Bool.false_ne_true] at hdomain hip
          exact .inr ⟨s, .inl ⟨hnew, o, hold, hkeeps⟩, hdomain, hip⟩

theorem entry_address_of_keeps {n : String} {m o : KetServer} (h : Entry mode old new n m)
    (hkeeps : Keeps mode old new n o) : m.domain = o.domain ∧ m.ip = o.ip := by
  obtain ⟨hold, s, hnew, hk⟩ := hkeeps
  have haddress := (h.merged hold hnew).address
  rwa [hk, if_pos rfl] at haddress

theorem entry_address_of_takes {n : String} {m s : KetServer} (h : Entry mode old new n m)
    (htakes : Takes mode old new n s) : m.domain = s.domain ∧ m.ip = s.ip := by
  obtain ⟨hnew, o, hold, hk⟩ := htakes
  have haddress := (h.merged hold hnew).address
  rwa [hk, if_neg Bool.false_ne_true] at haddress

theorem new_of_takes_or_added {n : String} {s : KetServer}
    (h : Takes mode old new n s ∨ old.collected n = none ∧ new.collected n = some s) :
    new.collected n = some s := by
  rcases h with htakes | hadded
  · exact htakes.1
  · exact hadded.2

/-- Without a clash, two servers returned under different names have different
addresses. -/
theorem entries_address_ne {env : ReconEnv δ} {c : Cloud}
    {rebaseData : Option (List (String × RebaseDiff.RebaseData))} {ord : MergeOrder old new}
    {dirs : Dirs δ} (hdistinct : old.Distinct) (hdistinct' : new.Distinct)
    (h : (reconcileCloud env old new mode rebaseData ord dirs).result = .ok c)
    (hclash : ¬ Clash mode old new) {n n' : String} {m m' : KetServer}
    (hm : Entry mode old new n m) (hm' : Entry mode old new n' m') (hne : n ≠ n') :
    m.domain ≠ m'.domain ∧ m.ip ≠ m'.ip := by
  have hmixed : ∀ {k k' : String} {o s : KetServer}, Keeps mode old new k o →
      (Takes mode old new k' s ∨ old.collected k' = none ∧ new.collected k' = some s) →
      o.domain ≠ s.domain ∧ o.ip ≠ s.ip := by
    intro k k' o s hkeeps hs
    rcases hs with htakes | ⟨hold, hnew⟩
    · constructor
      · intro heq
        exact hclash ⟨k, k', o, s, hkeeps, htakes, .inl heq⟩
      · intro heq
        exact hclash ⟨k, k', o, s, hkeeps, htakes, .inr heq⟩
    · obtain ⟨hkold, t, hknew, _⟩ := hkeeps
      exact added_avoids hdistinct h hold hnew hkold hknew
  rcases entry_address hm with ⟨o, ho, hd, hi⟩ | ⟨s, hs, hd, hi⟩
  · rcases entry_address hm' with ⟨o', ho', hd', hi'⟩ | ⟨s', hs', hd', hi'⟩
    · rw [hd, hi, hd', hi']
      exact address_ne hdistinct ho.1 ho'.1 hne
    · rw [hd, hi, hd', hi']
      exact hmixed ho hs'
  · rcases entry_address hm' with ⟨o', ho', hd', hi'⟩ | ⟨s', hs', hd', hi'⟩
    · rw [hd, hi, hd', hi']
      obtain ⟨hdomain, hip⟩ := hmixed ho' hs
      exact ⟨hdomain.symm, hip.symm⟩
    · rw [hd, hi, hd', hi']
      exact address_ne hdistinct' (new_of_takes_or_added hs) (new_of_takes_or_added hs') hne

theorem exists_returned {env : ReconEnv δ} {c : Cloud}
    {rebaseData : Option (List (String × RebaseDiff.RebaseData))} {ord : MergeOrder old new}
    {dirs : Dirs δ} (hnew : new.Distinct)
    (h : (reconcileCloud env old new mode rebaseData ord dirs).result = .ok c) {n : String}
    {s : KetServer} (hs : new.collected n = some s) :
    ∃ s' ∈ c.servers, s'.name = n ∧ ∃ m, Entry mode old new n m ∧ Final m s' := by
  have hrec := reconcileCloud_ok hnew.names h
  have hn : n ∈ c.names := by
    rw [hrec.mem_names, ← Cloud.collected_isSome_iff, hs]
    rfl
  obtain ⟨s', hs', rfl⟩ := List.mem_map.mp hn
  obtain ⟨m, hm, hms'⟩ := hrec.servers s' hs'
  exact ⟨s', hs', rfl, m, hm, hms'⟩

/-- The servers of a clash are both returned, with the same address. -/
theorem not_distinct_of_clash {env : ReconEnv δ} {c : Cloud}
    {rebaseData : Option (List (String × RebaseDiff.RebaseData))} {ord : MergeOrder old new}
    {dirs : Dirs δ} (hnew : new.Distinct)
    (h : (reconcileCloud env old new mode rebaseData ord dirs).result = .ok c)
    (hclash : Clash mode old new) : ¬ c.Distinct := by
  intro hc
  obtain ⟨n, n', o, s, hkeeps, htakes, haddress⟩ := hclash
  obtain ⟨hkold, t, hknew, hk⟩ := hkeeps
  obtain ⟨x, hx, hxname, m, hm, hmx⟩ := exists_returned hnew h hknew
  obtain ⟨y, hy, hyname, m', hm', hmy⟩ := exists_returned hnew h htakes.1
  obtain ⟨hd, hi⟩ := entry_address_of_keeps hm ⟨hkold, t, hknew, hk⟩
  obtain ⟨hd', hi'⟩ := entry_address_of_takes hm' htakes
  have hxy : x = y := by
    rcases haddress with hdomain | hip
    · refine List.inj_on_of_nodup_map hc.domains hx hy ?_
      rw [hmx.domain, hmy.domain, hd, hd', hdomain]
    · refine List.inj_on_of_nodup_map hc.ips hx hy ?_
      rw [hmx.ip, hmy.ip, hi, hi', hip]
  have hnn' : n = n' := by rw [← hxname, ← hyname, hxy]
  subst hnn'
  obtain ⟨htnew, o', htold, hk'⟩ := htakes
  rw [hkold] at htold
  rw [hknew] at htnew
  cases htold
  cases htnew
  rw [hk] at hk'
  cases hk'

/-- A successful reconciliation of two clouds with distinct servers returns
distinct servers exactly when no server that keeps its old declaration has an
address of one that takes its new one. -/
theorem reconcileCloud_distinct_iff {env : ReconEnv δ} {c : Cloud}
    {rebaseData : Option (List (String × RebaseDiff.RebaseData))} {ord : MergeOrder old new}
    {dirs : Dirs δ} (hold : old.Distinct) (hnew : new.Distinct)
    (h : (reconcileCloud env old new mode rebaseData ord dirs).result = .ok c) :
    c.Distinct ↔ ¬ Clash mode old new := by
  constructor
  · intro hc hclash
    exact not_distinct_of_clash hnew h hclash hc
  · intro hclash
    have hrec := reconcileCloud_ok hnew.names h
    have hnodup : c.servers.Nodup := hrec.names_nodup.of_map
    have hne : ∀ x ∈ c.servers, ∀ y ∈ c.servers, x ≠ y → x.domain ≠ y.domain ∧ x.ip ≠ y.ip := by
      intro x hx y hy hxy
      obtain ⟨m, hm, hmx⟩ := hrec.servers x hx
      obtain ⟨m', hm', hmy⟩ := hrec.servers y hy
      have hnames : x.name ≠ y.name := by
        intro heq
        exact hxy (List.inj_on_of_nodup_map hrec.names_nodup hx hy heq)
      rw [hmx.domain, hmx.ip, hmy.domain, hmy.ip]
      exact entries_address_ne hold hnew h hclash hm hm' hnames
    refine ⟨hrec.names_nodup, hnodup.map_on ?_, hnodup.map_on ?_⟩
    · intro x hx y hy heq
      exact not_not.mp fun hxy => (hne x hx y hy hxy).1 heq
    · intro x hx y hy heq
      exact not_not.mp fun hxy => (hne x hx y hy hxy).2 heq

end Address

section Instances

open Xcplane.Specimen

theorem reconcileCloud_distinct_iff_unchanged :
    ∃ c, (reconcileCloud env (cloud [alpha, beta]) (cloud [alpha, beta]) .Reload none
        (order _ _) dirs).result = .ok c ∧
      (c.Distinct ↔ ¬ Clash .Reload (cloud [alpha, beta]) (cloud [alpha, beta])) := by
  have hdistinct : (cloud [alpha, beta]).Distinct := cloud_distinct (by decide)
  obtain ⟨c, hc⟩ : ∃ c, (reconcileCloud env (cloud [alpha, beta]) (cloud [alpha, beta]) .Reload
      none (order _ _) dirs).result = .ok c := ⟨_, rfl⟩
  exact ⟨c, hc, reconcileCloud_distinct_iff hdistinct hdistinct hc⟩

def swapped : Cloud :=
  cloud [{ alpha with domain := beta.domain }, { beta with domain := alpha.domain }]

/-- After a Reload with swapped domains, the production server `alpha` keeps its
domain and the other one takes it too. -/
theorem reconcileCloud_swapped_not_distinct :
    (cloud [alpha, beta]).Distinct ∧ swapped.Distinct ∧
      ∃ c, (reconcileCloud env (cloud [alpha, beta]) swapped .Reload none
          (order _ _) dirs).result = .ok c ∧ ¬ c.Distinct := by
  refine ⟨cloud_distinct (by decide), cloud_distinct (by decide), _, rfl, ?_⟩
  intro h
  exact absurd h.domains (by decide)

end Instances

end Xcplane.Uniqueness
