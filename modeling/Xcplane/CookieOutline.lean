import Xcplane.CookieSessions

/-!
The proof outline of the cookie calls: what each call knows at each of its points, what
holds of the struct, the gate and the log, and that every step keeps it.
-/

namespace Xcplane.CookieSessions

open Xcplane.Lib

section Assertions

variable {ι : Type}

def count (s : Shared ι) : Nat := (s.structs 0).cookieCount.toNat

def session (s : Shared ι) : Nat := (s.structs 0).session

/-- The duty is none, or its rejected session is older than `n`. -/
def Duty.Below (n : Nat) : Duty → Prop
  | .first => True
  | .again rejected => rejected < n

/-- The first request of the call was rejected. -/
structure Refused (i : ι) (s : Shared ι) (before : UInt64) (rejected : Nat) : Prop where
  visible : s.xui = some 0
  logged : .rejected i rejected ∈ s.log
  before_count : before.toNat ≤ count s
  before_rejected : before.toNat ≤ rejected
  rejected_session : rejected ≤ session s
  newer : rejected ≤ before.toNat ∨ rejected < session s

def LoginFacts (i : ι) (s : Shared ι) (duty : Duty) : LoginPoint → Prop
  | .load =>
      match duty with
      | .first => s.xui = none
      | .again rejected =>
          s.xui = some 0 ∧ .rejected i rejected ∈ s.log ∧ rejected = session s
  | .create => duty = .first ∧ s.xui = none
  | .reload => s.xui = some 0 ∧ duty.Below (session s + 1)
  | .base cred => cred = 0 ∧ s.xui = some 0 ∧ duty.Below (session s + 1)
  | .csrf cred => cred = 0 ∧ s.xui = some 0 ∧ duty.Below (session s + 1)
  | .login cred => cred = 0 ∧ s.xui = some 0 ∧ duty.Below (session s + 1)
  | .fetchAdd cred => cred = 0 ∧ s.xui = some 0 ∧ duty.Below (session s)
  | .store cred => cred = 0 ∧ s.xui = some 0 ∧ duty.Below (session s)

/-- What a call knows at a point of the struct, of its variables and of the log. -/
def Facts (i : ι) (s : Shared ι) : Point → Prop
  | .login duty point => LoginFacts i s duty point
  | .fresh duty => s.xui = some 0 ∧ duty.Below (session s)
  | .initialized cred => cred = 0 ∧ s.xui = some 0
  | .countBefore cred => cred = 0 ∧ s.xui = some 0
  | .send cred before => cred = 0 ∧ s.xui = some 0 ∧ before.toNat ≤ count s
  | .sent before sent =>
      s.xui = some 0 ∧ before.toNat ≤ count s ∧ before.toNat ≤ sent ∧ sent ≤ session s
  | .reload before rejected => Refused i s before rejected
  | .countAfter cred before rejected => cred = 0 ∧ Refused i s before rejected
  | .waitGate before rejected => Refused i s before rejected
  | .locked before rejected => Refused i s before rejected
  | .countLocked cred before rejected => cred = 0 ∧ Refused i s before rejected
  | .resend cred rejected _ => cred = 0 ∧ s.xui = some 0 ∧ rejected < session s
  | _ => True

/-- By how much the counter is behind the sessions while the call is at the point. -/
def lag : Point → Nat
  | .login _ (.fetchAdd _) => 1
  | _ => 0

/-- The assertion of one call. -/
structure At (i : ι) (s : Shared ι) (point : Point) : Prop where
  gate : s.loginGate = some i ↔ holdsGate point = true
  level : holdsGate point = true → session s = count s + lag point
  facts : Facts i s point

/-- Every retry has a newer session, and every login is needed. -/
structure Noted (log : List (Event ι)) : Prop where
  newer : ∀ i rejected session, .retried i rejected session ∈ log → rejected < session
  needed : ∀ i existing, .began i existing ∈ log →
    existing = none ∨ ∃ session, existing = some session ∧ .rejected i session ∈ log

/-- The invariant of what the calls share. -/
structure Inv (s : Shared ι) : Prop where
  one : (s.xui = none ∧ s.built = 0 ∧ count s = 0 ∧ session s = 0) ∨ s.xui = some 0
  level : s.loginGate = none → session s = count s
  bounded : count s ≤ session s
  loginOnce : (loginCounts s.log).Nodup
  loginBelow : ∀ v ∈ loginCounts s.log, v.toNat < session s
  raisedOnce : (raisedCounts s.log).Nodup
  raisedBelow : ∀ v ∈ raisedCounts s.log, v.toNat < count s
  noted : Noted s.log

/-- What holds afterwards of everything that was known, whoever took the step. -/
structure Later (s s' : Shared ι) : Prop where
  visible : s.xui = some 0 → s'.xui = some 0
  count : count s ≤ count s'
  session : session s ≤ session s'
  log : ∀ e ∈ s.log, e ∈ s'.log

/-- What the step of one call guarantees to the others: it takes or gives back only its
own guard, and without the guard it does not touch the struct. -/
structure Guarantee (i : ι) (s s' : Shared ι) : Prop extends Later s s' where
  gate : ∀ j, j ≠ i → (s'.loginGate = some j ↔ s.loginGate = some j)
  frozen : s.loginGate ≠ some i → s'.xui = s.xui ∧ s'.structs = s.structs

end Assertions

section Stability

variable {ι : Type} {i j : ι} {s s' : Shared ι} {before : UInt64} {rejected n m : Nat}
  {duty : Duty} {point : Point} {loginPoint : LoginPoint}

theorem Duty.Below.mono (h : duty.Below n) (hnm : n ≤ m) : duty.Below m := by
  induction duty with
  | first => trivial
  | again rejected => exact Nat.lt_of_lt_of_le h hnm

theorem Later.refl : Later s s where
  visible h := h
  count := Nat.le_refl _
  session := Nat.le_refl _
  log _ h := h

theorem Refused.mono (h : Refused i s before rejected) (hlater : Later s s') :
    Refused i s' before rejected where
  visible := hlater.visible h.visible
  logged := hlater.log _ h.logged
  before_count := Nat.le_trans h.before_count hlater.count
  before_rejected := h.before_rejected
  rejected_session := Nat.le_trans h.rejected_session hlater.session
  newer := by
    have hsession := hlater.session
    have hnewer := h.newer
    omega

theorem LoginFacts.mono (h : LoginFacts i s duty loginPoint) (hlater : Later s s')
    (hxui : s'.xui = s.xui) (hsession : session s' = session s) :
    LoginFacts i s' duty loginPoint := by
  induction loginPoint with
  | load =>
      induction duty with
      | first => exact hxui.trans h
      | again rejected =>
          exact ⟨hxui.trans h.1, hlater.log _ h.2.1, h.2.2.trans hsession.symm⟩
  | create => exact ⟨h.1, hxui.trans h.2⟩
  | reload => exact ⟨hxui.trans h.1, hsession ▸ h.2⟩
  | base cred => exact ⟨h.1, hxui.trans h.2.1, hsession ▸ h.2.2⟩
  | csrf cred => exact ⟨h.1, hxui.trans h.2.1, hsession ▸ h.2.2⟩
  | login cred => exact ⟨h.1, hxui.trans h.2.1, hsession ▸ h.2.2⟩
  | fetchAdd cred => exact ⟨h.1, hxui.trans h.2.1, hsession ▸ h.2.2⟩
  | store cred => exact ⟨h.1, hxui.trans h.2.1, hsession ▸ h.2.2⟩

/-- What is known at a point stays known; in a login the struct has to stay as it is. -/
theorem Facts.mono (h : Facts i s point) (hlater : Later s s')
    (hheld : holdsGate point = true → s'.xui = s.xui ∧ session s' = session s) :
    Facts i s' point := by
  have hsession := hlater.session
  have hcount := hlater.count
  induction point with
  | login duty loginPoint =>
      exact LoginFacts.mono h hlater (hheld rfl).1 (hheld rfl).2
  | fresh duty => exact ⟨hlater.visible h.1, h.2.mono hsession⟩
  | initialized cred => exact ⟨h.1, hlater.visible h.2⟩
  | countBefore cred => exact ⟨h.1, hlater.visible h.2⟩
  | send cred before => exact ⟨h.1, hlater.visible h.2.1, Nat.le_trans h.2.2 hcount⟩
  | sent before sent =>
      exact ⟨hlater.visible h.1, Nat.le_trans h.2.1 hcount, h.2.2.1,
        Nat.le_trans h.2.2.2 hsession⟩
  | reload before rejected => exact Refused.mono h hlater
  | countAfter cred before rejected => exact ⟨h.1, h.2.mono hlater⟩
  | waitGate before rejected => exact Refused.mono h hlater
  | locked before rejected => exact Refused.mono h hlater
  | countLocked cred before rejected => exact ⟨h.1, h.2.mono hlater⟩
  | resend cred rejected gated =>
      exact ⟨h.1, hlater.visible h.2.1, Nat.lt_of_lt_of_le h.2.2 hsession⟩
  | enter => trivial
  | waitFirst => trivial
  | recheck => trivial
  | resent gated => trivial
  | ended => trivial

theorem At.stable (h : At j s point) (hne : j ≠ i) (hguarantee : Guarantee i s s') :
    At j s' point := by
  have hfrozen : holdsGate point = true → s'.xui = s.xui ∧ s'.structs = s.structs := by
    intro hholds
    apply hguarantee.frozen
    rw [h.gate.mpr hholds]
    intro hsame
    exact hne (Option.some.inj hsame)
  refine ⟨(hguarantee.gate j hne).trans h.gate, ?_, ?_⟩
  · intro hholds
    have hlevel := h.level hholds
    rw [session, count, (hfrozen hholds).2]
    exact hlevel
  · apply h.facts.mono hguarantee.toLater
    intro hholds
    rw [session, session, (hfrozen hholds).2]
    exact ⟨(hfrozen hholds).1, rfl⟩

end Stability

/-- What the step of a call has to keep, with the state and the point it leads to. -/
structure Kept {ι : Type} (i : ι) (s : Shared ι) (out : Shared ι × Point) : Prop where
  inv : Inv out.1
  own : At i out.1 out.2
  guarantee : Guarantee i s out.1

section Moves

variable {ι : Type} {i j : ι} {s s' : Shared ι} {point point' : Point} {e : Event ι}

theorem Guarantee.refl : Guarantee i s s where
  toLater := Later.refl
  gate _ _ := Iff.rfl
  frozen _ := ⟨rfl, rfl⟩

/-- The call goes on to another point and leaves what is shared as it is. -/
theorem kept_move (hs : Inv s) (h : At i s point) (hholds : holdsGate point' = holdsGate point)
    (hlag : lag point' = lag point) (hfacts : Facts i s point') : Kept i s (s, point') := by
  refine ⟨hs, ⟨?_, ?_, hfacts⟩, Guarantee.refl⟩
  · rw [hholds]
    exact h.gate
  · rw [hholds, hlag]
    exact h.level

theorem Noted.cons {log : List (Event ι)} (h : Noted log)
    (hnewer : ∀ i rejected session, e = .retried i rejected session → rejected < session)
    (hneeded : ∀ i existing, e = .began i existing →
      existing = none ∨ ∃ session, existing = some session ∧ .rejected i session ∈ log) :
    Noted (e :: log) where
  newer i rejected session hmem := by
    rcases List.mem_cons.mp hmem with he | hmem
    · exact hnewer i rejected session he.symm
    · exact h.newer i rejected session hmem
  needed i existing hmem := by
    have hold : existing = none ∨
        ∃ session, existing = some session ∧ .rejected i session ∈ log := by
      rcases List.mem_cons.mp hmem with he | hmem
      · exact hneeded i existing he.symm
      · exact h.needed i existing hmem
    rcases hold with hnone | ⟨session, hsome, hlogged⟩
    · exact .inl hnone
    · exact .inr ⟨session, hsome, List.mem_cons_of_mem _ hlogged⟩

theorem later_record : Later s (record e s) where
  visible h := h
  count := Nat.le_refl _
  session := Nat.le_refl _
  log _ h := List.mem_cons_of_mem _ h

theorem Inv.record (h : Inv s) (hlogin : loginAt? e = none) (hraised : raisedAt? e = none)
    (hnoted : Noted (e :: s.log)) : Inv (record e s) where
  one := h.one
  level := h.level
  bounded := h.bounded
  loginOnce := by
    show (loginCounts (e :: s.log)).Nodup
    rw [loginCounts, List.filterMap_cons_none hlogin]
    exact h.loginOnce
  loginBelow := by
    show ∀ v ∈ loginCounts (e :: s.log), v.toNat < session s
    rw [loginCounts, List.filterMap_cons_none hlogin]
    exact h.loginBelow
  raisedOnce := by
    show (raisedCounts (e :: s.log)).Nodup
    rw [raisedCounts, List.filterMap_cons_none hraised]
    exact h.raisedOnce
  raisedBelow := by
    show ∀ v ∈ raisedCounts (e :: s.log), v.toNat < count s
    rw [raisedCounts, List.filterMap_cons_none hraised]
    exact h.raisedBelow
  noted := hnoted

/-- The call goes on to another point and leaves a mark in the log. -/
theorem kept_record (hs : Inv (record e s)) (h : At i s point)
    (hholds : holdsGate point' = holdsGate point) (hlag : lag point' = lag point)
    (hfacts : Facts i (record e s) point') : Kept i s (record e s, point') := by
  refine ⟨hs, ⟨?_, ?_, hfacts⟩, ⟨later_record, fun _ _ => Iff.rfl, fun _ => ⟨rfl, rfl⟩⟩⟩
  · rw [hholds]
    exact h.gate
  · rw [hholds, hlag]
    exact h.level

theorem later_gate (gate : Option ι) : Later s { s with loginGate := gate } where
  visible h := h
  count := Nat.le_refl _
  session := Nat.le_refl _
  log _ h := h

theorem Inv.setGate (h : Inv s) {gate : Option ι} (hlevel : gate = none → session s = count s) :
    Inv { s with loginGate := gate } :=
  { h with level := hlevel }

theorem Facts.setGate (h : Facts i s point) (gate : Option ι) :
    Facts i { s with loginGate := gate } point :=
  h.mono (later_gate gate) fun _ => ⟨rfl, rfl⟩

/-- The gate is free and the call takes it. -/
theorem kept_acquire (hs : Inv s) (hfree : s.loginGate = none) (hholds : holdsGate point' = true)
    (hlag : lag point' = 0) (hfacts : Facts i s point') :
    Kept i s ({ s with loginGate := some i }, point') := by
  refine ⟨hs.setGate ?_, ⟨?_, ?_, hfacts.setGate _⟩, ⟨later_gate _, ?_, fun _ => ⟨rfl, rfl⟩⟩⟩
  · intro hnone
    cases hnone
  · exact iff_of_true rfl hholds
  · intro _
    rw [hlag]
    exact hs.level hfree
  · intro j hne
    show some i = some j ↔ s.loginGate = some j
    rw [hfree]
    constructor
    · intro hsame
      exact absurd (Option.some.inj hsame).symm hne
    · intro hnone
      cases hnone

/-- The call gives its guard back. -/
theorem kept_release (hs : Inv s) (h : At i s point) (hholds : holdsGate point = true)
    (hlag : lag point = 0) (hfree : holdsGate point' = false) (hfacts : Facts i s point') :
    Kept i s ({ s with loginGate := none }, point') := by
  have hlevel : session s = count s := by
    have hbehind := h.level hholds
    rwa [hlag] at hbehind
  refine ⟨hs.setGate fun _ => hlevel, ⟨?_, ?_, hfacts.setGate _⟩,
    ⟨later_gate _, ?_, fun _ => ⟨rfl, rfl⟩⟩⟩
  · rw [hfree]
    exact iff_of_false (fun hnone => nomatch hnone) Bool.false_ne_true
  · intro hcontra
    rw [hfree] at hcontra
    cases hcontra
  · intro j hne
    show none = some j ↔ s.loginGate = some j
    rw [h.gate.mpr hholds]
    constructor
    · intro hnone
      cases hnone
    · intro hsame
      exact absurd (Option.some.inj hsame).symm hne

theorem kept_leave (hs : Inv s) (h : At i s point) (hlag : lag point = 0) :
    Kept i s (leave s point) := by
  rw [leave]
  split
  · rename_i hholds
    exact kept_release hs h hholds hlag rfl trivial
  · rename_i hholds
    rw [Bool.not_eq_true] at hholds
    exact kept_move hs h hholds.symm hlag.symm trivial

end Moves

section Struct

variable {ι : Type} {i : ι} {s s' : Shared ι} {point point' : Point}

/-- The call that holds the guard changes the struct. -/
theorem kept_of_holder (h : At i s point) (hholds : holdsGate point = true)
    (hholds' : holdsGate point' = true) (hgate : s'.loginGate = s.loginGate)
    (hlater : Later s s') (hinv : Inv s') (hlevel : session s' = count s' + lag point')
    (hfacts : Facts i s' point') : Kept i s (s', point') := by
  have hmine := h.gate.mpr hholds
  refine ⟨hinv, ⟨?_, fun _ => hlevel, hfacts⟩, ⟨hlater, ?_, ?_⟩⟩
  · exact iff_of_true (hgate.trans hmine) hholds'
  · intro j _
    rw [hgate]
  · intro hother
    exact absurd hmine hother

theorem Inv.unset (h : Inv s) (hnone : s.xui = none) :
    s.built = 0 ∧ count s = 0 ∧ session s = 0 := by
  rcases h.one with ⟨_, hunset⟩ | hsome
  · exact hunset
  · rw [hnone] at hsome
    cases hsome

theorem structs_newXuiClient (hbuilt : s.built = 0) :
    (newXuiClient s).structs 0 = { cookieCount := 0, session := 0 } := by
  show Function.update s.structs s.built _ 0 = _
  rw [hbuilt, Function.update_self]

theorem count_newXuiClient (hbuilt : s.built = 0) : count (newXuiClient s) = 0 := by
  rw [count, structs_newXuiClient hbuilt]
  rfl

theorem session_newXuiClient (hbuilt : s.built = 0) : session (newXuiClient s) = 0 := by
  rw [session, structs_newXuiClient hbuilt]

theorem xui_newXuiClient (hbuilt : s.built = 0) : (newXuiClient s).xui = some 0 := by
  rw [newXuiClient, hbuilt]

theorem later_newXuiClient (h : Inv s) (hnone : s.xui = none) : Later s (newXuiClient s) := by
  obtain ⟨hbuilt, hcount, hsession⟩ := h.unset hnone
  refine ⟨fun _ => xui_newXuiClient hbuilt, ?_, ?_, fun _ he => he⟩
  · rw [hcount]
    exact Nat.zero_le _
  · rw [hsession]
    exact Nat.zero_le _

/-- The first struct is the only one. -/
theorem Inv.create (h : Inv s) (hnone : s.xui = none) : Inv (newXuiClient s) := by
  obtain ⟨hbuilt, hcount, hsession⟩ := h.unset hnone
  have hcount' := count_newXuiClient hbuilt
  have hsession' := session_newXuiClient hbuilt
  exact
    { one := .inr (xui_newXuiClient hbuilt)
      level := fun _ => hsession'.trans hcount'.symm
      bounded := Nat.le_of_eq (hcount'.trans hsession'.symm)
      loginOnce := h.loginOnce
      loginBelow := by
        rw [hsession', ← hsession]
        exact h.loginBelow
      raisedOnce := h.raisedOnce
      raisedBelow := by
        rw [hcount', ← hcount]
        exact h.raisedBelow
      noted := h.noted }

/-- The state after the panel accepted a login. -/
def loggedIn (i : ι) (s : Shared ι) : Shared ι :=
  record (.loggedIn i (s.structs 0).cookieCount)
    (modifyStruct 0 (fun x => { x with session := x.session + 1 }) s)

/-- The state after the counter was raised. -/
def raised (i : ι) (s : Shared ι) : Shared ι :=
  record (.raised i (s.structs 0).cookieCount)
    (modifyStruct 0 (fun x => { x with cookieCount := x.cookieCount + 1 }) s)

@[simp]
theorem count_loggedIn : count (loggedIn i s) = count s :=
  rfl

@[simp]
theorem session_loggedIn : session (loggedIn i s) = session s + 1 :=
  rfl

@[simp]
theorem session_raised : session (raised i s) = session s :=
  rfl

theorem count_raised (h : count s + 1 < 2 ^ 64) : count (raised i s) = count s + 1 := by
  show ((s.structs 0).cookieCount + 1).toNat = _
  rw [UInt64.toNat_add]
  exact Nat.mod_eq_of_lt h

theorem later_loggedIn : Later s (loggedIn i s) where
  visible h := h
  count := Nat.le_refl _
  session := Nat.le_succ _
  log _ h := List.mem_cons_of_mem _ h

theorem later_raised (h : count s + 1 < 2 ^ 64) : Later s (raised i s) where
  visible h := h
  count := by
    rw [count_raised h]
    exact Nat.le_succ _
  session := Nat.le_refl _
  log _ h := List.mem_cons_of_mem _ h

/-- No login was accepted at the present value of the counter. -/
theorem Inv.loggedIn (h : Inv s) (hvisible : s.xui = some 0) (hgate : s.loginGate = some i)
    (hlevel : session s = count s) : Inv (loggedIn i s) where
  one := .inr hvisible
  level hfree := by
    have hcontra : (none : Option ι) = some i := hfree.symm.trans hgate
    cases hcontra
  bounded := Nat.le_succ_of_le h.bounded
  loginOnce := by
    show ((s.structs 0).cookieCount :: loginCounts s.log).Nodup
    rw [List.nodup_cons]
    refine ⟨?_, h.loginOnce⟩
    intro hmem
    have hbelow := h.loginBelow _ hmem
    rw [hlevel] at hbelow
    exact Nat.lt_irrefl _ hbelow
  loginBelow v hv := by
    rw [session_loggedIn]
    rcases List.mem_cons.mp hv with rfl | hv
    · rw [hlevel]
      exact Nat.lt_succ_self _
    · exact Nat.lt_succ_of_lt (h.loginBelow v hv)
  raisedOnce := h.raisedOnce
  raisedBelow := h.raisedBelow
  noted := h.noted.cons (fun _ _ _ he => nomatch he) fun _ _ he => nomatch he

/-- The counter was not raised from its present value. -/
theorem Inv.raised (h : Inv s) (hvisible : s.xui = some 0) (hgate : s.loginGate = some i)
    (hlevel : session s = count s + 1) (hbound : count s + 1 < 2 ^ 64) : Inv (raised i s) where
  one := .inr hvisible
  level hfree := by
    have hcontra : (none : Option ι) = some i := hfree.symm.trans hgate
    cases hcontra
  bounded := by
    rw [count_raised hbound, session_raised]
    exact Nat.le_of_eq hlevel.symm
  loginOnce := h.loginOnce
  loginBelow := h.loginBelow
  raisedOnce := by
    show ((s.structs 0).cookieCount :: raisedCounts s.log).Nodup
    rw [List.nodup_cons]
    refine ⟨?_, h.raisedOnce⟩
    intro hmem
    exact Nat.lt_irrefl _ (h.raisedBelow _ hmem)
  raisedBelow v hv := by
    rw [count_raised hbound]
    rcases List.mem_cons.mp hv with rfl | hv
    · exact Nat.lt_succ_self _
    · exact Nat.lt_succ_of_lt (h.raisedBelow v hv)
  noted := h.noted.cons (fun _ _ _ he => nomatch he) fun _ _ he => nomatch he

end Struct

section Calls

variable {ι : Type} {i : ι} {s : Shared ι} {point : Point} {answer : Answer}

variable {duty : Duty}

/-- The login begins where there is no struct, or with the session that was rejected. -/
theorem kept_load (hs : Inv s) (h : At i s (.login duty .load)) :
    Kept i s (xuiGetCallCookie i answer s (.login duty .load)) := by
  induction duty with
  | first =>
      have hnone : s.xui = none := h.facts
      simp only [xuiGetCallCookie, xuiLogin, hnone]
      have hnoted : Noted (.began i none :: s.log) :=
        hs.noted.cons (fun _ _ _ he => nomatch he) fun _ _ he => by
          cases he
          exact .inl rfl
      exact kept_record (hs.record rfl rfl hnoted) h rfl rfl ⟨rfl, hnone⟩
  | again rejected =>
      obtain ⟨hvisible, hlogged, hsame⟩ := h.facts
      simp only [xuiGetCallCookie, xuiLogin, hvisible]
      have hnoted : Noted (.began i (some (s.structs 0).session) :: s.log) :=
        hs.noted.cons (fun _ _ _ he => nomatch he) fun _ _ he => by
          cases he
          exact .inr ⟨rejected, congrArg some hsame.symm, hlogged⟩
      refine kept_record (hs.record rfl rfl hnoted) h rfl rfl ⟨rfl, hvisible, ?_⟩
      exact Nat.lt_succ_of_le (Nat.le_of_eq hsame)

theorem kept_create (hs : Inv s) (h : At i s (.login duty .create)) :
    Kept i s (xuiGetCallCookie i answer s (.login duty .create)) := by
  obtain ⟨rfl, hnone⟩ := h.facts
  obtain ⟨hbuilt, -, -⟩ := hs.unset hnone
  have hmade : Kept i s (newXuiClient s, .login .first .reload) := by
    refine kept_of_holder h rfl rfl rfl (later_newXuiClient hs hnone) (hs.create hnone) ?_ ?_
    · rw [session_newXuiClient hbuilt, count_newXuiClient hbuilt]
      rfl
    · exact ⟨xui_newXuiClient hbuilt, trivial⟩
  induction answer with
  | accepted => exact hmade
  | rejected => exact hmade
  | failed => exact kept_leave hs h rfl

/-- A step of the login. The guard is held throughout, so the struct is as the call left
it, and the counter is behind only before it is raised. -/
theorem kept_login (hs : Inv s) {loginPoint : LoginPoint} (h : At i s (.login duty loginPoint))
    (hadmits : AdmitsAt answer s (.login duty loginPoint)) :
    Kept i s (xuiGetCallCookie i answer s (.login duty loginPoint)) := by
  have hgate := h.gate.mpr rfl
  have hlevel := h.level rfl
  induction loginPoint with
  | load => exact kept_load hs h
  | create => exact kept_create hs h
  | reload =>
      obtain ⟨hvisible, hbelow⟩ := h.facts
      simp only [xuiGetCallCookie, xuiLogin, hvisible]
      exact kept_move hs h rfl rfl ⟨rfl, hvisible, hbelow⟩
  | base cred =>
      induction answer with
      | accepted => exact kept_move hs h rfl rfl h.facts
      | rejected => exact kept_leave hs h rfl
      | failed => exact kept_leave hs h rfl
  | csrf cred =>
      induction answer with
      | accepted => exact kept_move hs h rfl rfl h.facts
      | rejected => exact kept_leave hs h rfl
      | failed => exact kept_leave hs h rfl
  | login cred =>
      obtain ⟨rfl, hvisible, hbelow⟩ := h.facts
      induction answer with
      | accepted =>
          show Kept i s (loggedIn i s, .login duty (.fetchAdd 0))
          have hinv := hs.loggedIn hvisible hgate hlevel
          refine kept_of_holder h rfl rfl rfl later_loggedIn hinv ?_ ?_
          · rw [session_loggedIn, count_loggedIn, hlevel]
            rfl
          · exact ⟨rfl, hvisible, hbelow⟩
      | rejected => exact kept_leave hs h rfl
      | failed => exact kept_leave hs h rfl
  | fetchAdd cred =>
      obtain ⟨rfl, hvisible, hbelow⟩ := h.facts
      show Kept i s (raised i s, .login duty (.store 0))
      have hinv := hs.raised hvisible hgate hlevel hadmits
      refine kept_of_holder h rfl rfl rfl (later_raised hadmits) hinv ?_ ?_
      · rw [session_raised, count_raised hadmits, hlevel]
        rfl
      · exact ⟨rfl, hvisible, hbelow⟩
  | store cred =>
      obtain ⟨rfl, hvisible, hbelow⟩ := h.facts
      have hsame : { s with xui := some 0 } = s := by
        rw [← hvisible]
      simp only [xuiGetCallCookie, xuiLogin, hsame]
      exact kept_move hs h rfl rfl ⟨hvisible, hbelow⟩

/-- The answer to the first request. -/
theorem kept_sent {before : UInt64} {sent : Nat} (hs : Inv s) (h : At i s (.sent before sent))
    (hadmits : AdmitsAt answer s (.sent before sent)) :
    Kept i s (xuiGetCallCookie i answer s (.sent before sent)) := by
  obtain ⟨hvisible, hbefore, hcount, hsession⟩ := h.facts
  induction answer with
  | accepted => exact kept_leave hs h rfl
  | rejected =>
      have hnoted : Noted (.rejected i sent :: s.log) :=
        hs.noted.cons (fun _ _ _ he => nomatch he) fun _ _ he => nomatch he
      refine kept_record (hs.record rfl rfl hnoted) h rfl rfl ?_
      exact ⟨hvisible, List.mem_cons_self, hbefore, hcount, hsession, hadmits rfl 0 hvisible⟩
  | failed => exact kept_leave hs h rfl

/-- A changed counter is a larger one, and then the rejected session is an old one. -/
theorem Refused.renewed {before : UInt64} {rejected : Nat} (h : Refused i s before rejected)
    (hs : Inv s) (hne : (s.structs 0).cookieCount ≠ before) : rejected < session s := by
  have hcount : count s ≠ before.toNat := by
    intro hsame
    exact hne (UInt64.toNat_inj.mp hsame)
  have hbefore := h.before_count
  have hnewer := h.newer
  have hbounded := hs.bounded
  omega

/-- Under the gate the counter tells the session. If it has not changed since the call
read it, the present session is the rejected one. -/
theorem kept_countLocked {cred : Nat} {before : UInt64} {rejected : Nat} (hs : Inv s)
    (h : At i s (.countLocked cred before rejected)) :
    Kept i s (xuiGetCallCookie i answer s (.countLocked cred before rejected)) := by
  obtain ⟨rfl, hrefused⟩ := h.facts
  rw [xuiGetCallCookie]
  split
  · rename_i hsame
    have hlevel : session s = count s := h.level rfl
    have hcount : count s = before.toNat := congrArg UInt64.toNat hsame
    have hbefore := hrefused.before_rejected
    have hsession := hrefused.rejected_session
    have hpresent : rejected = session s := by omega
    exact kept_move hs h rfl rfl ⟨hrefused.visible, hrefused.logged, hpresent⟩
  · rename_i hne
    exact kept_move hs h rfl rfl ⟨hrefused.visible, hrefused.renewed hs hne⟩

theorem kept_resend {cred rejected : Nat} {gated : Bool} (hs : Inv s)
    (h : At i s (.resend cred rejected gated)) :
    Kept i s (xuiGetCallCookie i answer s (.resend cred rejected gated)) := by
  obtain ⟨rfl, hvisible, hnewer⟩ := h.facts
  have hnoted : Noted (.retried i rejected (s.structs 0).session :: s.log) :=
    hs.noted.cons
      (fun _ _ _ he => by
        cases he
        exact hnewer)
      fun _ _ he => nomatch he
  exact kept_record (hs.record rfl rfl hnoted) h rfl rfl trivial

/-- Every step of a call keeps the invariant, what the call knows and its guarantee. -/
theorem kept_call (hs : Inv s) (h : At i s point) (hadmits : AdmitsAt answer s point) :
    Kept i s (xuiGetCallCookie i answer s point) := by
  induction point with
  | enter =>
      rcases hs.one with ⟨hnone, -⟩ | hvisible
      · simp only [xuiGetCallCookie, hnone]
        exact kept_move hs h rfl rfl trivial
      · simp only [xuiGetCallCookie, hvisible]
        exact kept_move hs h rfl rfl ⟨rfl, hvisible⟩
  | waitFirst =>
      cases hfree : s.loginGate with
      | none =>
          simp only [xuiGetCallCookie, hfree]
          exact kept_acquire hs hfree rfl rfl trivial
      | some j =>
          simp only [xuiGetCallCookie, hfree]
          exact kept_move hs h rfl rfl trivial
  | recheck =>
      rcases hs.one with ⟨hnone, -⟩ | hvisible
      · simp only [xuiGetCallCookie, hnone]
        exact kept_move hs h rfl rfl hnone
      · simp only [xuiGetCallCookie, hvisible]
        exact kept_move hs h rfl rfl ⟨rfl, hvisible⟩
  | login duty loginPoint => exact kept_login hs h hadmits
  | fresh duty =>
      obtain ⟨hvisible, hbelow⟩ := h.facts
      induction duty with
      | first =>
          simp only [xuiGetCallCookie, hvisible]
          exact kept_move hs h rfl rfl ⟨rfl, hvisible⟩
      | again rejected =>
          simp only [xuiGetCallCookie, hvisible]
          exact kept_move hs h rfl rfl ⟨rfl, hvisible, hbelow⟩
  | initialized cred => exact kept_release hs h rfl rfl rfl h.facts
  | countBefore cred =>
      obtain ⟨rfl, hvisible⟩ := h.facts
      exact kept_move hs h rfl rfl ⟨rfl, hvisible, Nat.le_refl _⟩
  | send cred before =>
      obtain ⟨rfl, hvisible, hbefore⟩ := h.facts
      have hsent : Facts i s (.sent before (s.structs 0).session) :=
        ⟨hvisible, hbefore, Nat.le_trans hbefore hs.bounded, Nat.le_refl _⟩
      induction answer with
      | accepted => exact kept_move hs h rfl rfl hsent
      | rejected => exact kept_move hs h rfl rfl hsent
      | failed => exact kept_leave hs h rfl
  | sent before sent => exact kept_sent hs h hadmits
  | reload before rejected =>
      have hrefused : Refused i s before rejected := h.facts
      simp only [xuiGetCallCookie, hrefused.visible]
      exact kept_move hs h rfl rfl ⟨rfl, hrefused⟩
  | countAfter cred before rejected =>
      obtain ⟨rfl, hrefused⟩ := h.facts
      rw [xuiGetCallCookie]
      split
      · rename_i hne
        exact kept_move hs h rfl rfl ⟨rfl, hrefused.visible, hrefused.renewed hs hne⟩
      · exact kept_move hs h rfl rfl hrefused
  | waitGate before rejected =>
      cases hfree : s.loginGate with
      | none =>
          simp only [xuiGetCallCookie, hfree]
          exact kept_acquire hs hfree rfl rfl h.facts
      | some j =>
          simp only [xuiGetCallCookie, hfree]
          exact kept_move hs h rfl rfl h.facts
  | locked before rejected =>
      have hrefused : Refused i s before rejected := h.facts
      simp only [xuiGetCallCookie, hrefused.visible]
      exact kept_move hs h rfl rfl ⟨rfl, hrefused⟩
  | countLocked cred before rejected => exact kept_countLocked hs h
  | resend cred rejected gated => exact kept_resend hs h
  | resent gated => exact kept_leave hs h rfl
  | ended => exact kept_move hs h rfl rfl trivial

end Calls

end Xcplane.CookieSessions
