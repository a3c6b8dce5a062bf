import Xcplane.LockRuns
import Xcplane.NftRules

/-!
A daemon that starts alone: after whatever crashes it comes to serve and leaves nothing behind
when it ends, and while it serves no later process gets anywhere. What two starts at once make
of the PID file.
-/

namespace Xcplane.DaemonLock

open Xcplane.Lib

section Text

theorem magnitude_toDigits (n : Nat) : magnitude (Nat.toDigits 10 n) = some n := by
  have hdigits : (Nat.toDigits 10 n).all Char.isDigit = true := by
    rw [List.all_eq_true]
    intro c hc
    exact Nat.isDigit_of_mem_toDigits (by decide) (by decide) hc
  rw [magnitude, if_pos ⟨Nat.toDigits_ne_nil, hdigits⟩, Nat.ofDigitChars_ten_toDigits]

theorem isDigit_head_toDigits (n : Nat) :
    ∃ c cs, Nat.toDigits 10 n = c :: cs ∧ c.isDigit = true := by
  cases h : Nat.toDigits 10 n with
  | nil => exact absurd h Nat.toDigits_ne_nil
  | cons c cs =>
      refine ⟨c, cs, rfl, ?_⟩
      exact Nat.isDigit_of_mem_toDigits (b := 10) (n := n) (by decide) (by decide)
        (h ▸ List.mem_cons_self)

theorem parseI32_toDigits {n : Nat} (h : n < 2 ^ 31) :
    parseI32 (Nat.toDigits 10 n) = some (n : Int) := by
  obtain ⟨c, cs, hcs, hdigit⟩ := isDigit_head_toDigits n
  have hmagnitude := magnitude_toDigits n
  rw [hcs] at hmagnitude ⊢
  unfold parseI32
  split
  · rename_i heq
    rw [(List.cons.inj heq).1] at hdigit
    exact absurd hdigit (by decide)
  · rename_i heq
    rw [(List.cons.inj heq).1] at hdigit
    exact absurd hdigit (by decide)
  · rw [hmagnitude, Option.bind_some, if_pos h]

theorem plain_toDigits (n : Nat) : NftRules.PlainChars (Nat.toDigits 10 n) := by
  refine ⟨Nat.toDigits_ne_nil, ?_⟩
  intro c hc
  have hdigit : c.isDigit = true := Nat.isDigit_of_mem_toDigits (by decide) (by decide) hc
  simp [NftRules.isPlain, Char.isAlphanum, hdigit]

/-- Reading the line of a process gives its PID. -/
theorem parseI32_pidLine {n : Nat} (h : n < 2 ^ 31) :
    parseI32 (Naming.trimChars (pidLine n)) = some (n : Int) := by
  have hnone : NftRules.Blank [] := fun _ hc => nomatch hc
  have hline : NftRules.Blank ['\n'] := by
    intro c hc
    rw [List.mem_singleton.mp hc]
    rfl
  have htrim := NftRules.trimChars_plain hnone hline (plain_toDigits n)
  rw [List.nil_append] at htrim
  rw [pidLine, htrim, parseI32_toDigits h]

theorem writeAt_nil (new : List Char) : writeAt [] 0 new = new := by
  simp [writeAt]

theorem writeAt_end (text new : List Char) : writeAt text text.length new = text ++ new := by
  simp [writeAt]

end Text

section Late

variable {ι : Type}

/-- The points of a process that has not come past the PID file of the process `p`. -/
def Waiting (p : Nat) : Point → Prop
  | .absent => True
  | .unique .pidExists => True
  | .unique .readPid => True
  | .unique (.ping q) => q = (p : Int)
  | _ => False

/-- The daemon serves, the files are its own, and nobody else has come past them. -/
structure Settled (pid : ι → Nat) (i : ι) (file : Nat) (w : Threads (RunDir ι) ι Point) :
    Prop where
  serving : w.own i = .serving file
  pidText : ∃ f, w.shared.pidFile = some f ∧ w.shared.text f = pidLine (pid i)
  sock : w.shared.sockFile = some file ∧ w.shared.listener file = some i
  only : ∀ f j, w.shared.listener f = some j → j = i
  alive : w.shared.alive (pid i) = true
  waiting : ∀ j, j ≠ i → Waiting (pid i) (w.own j)

variable [DecidableEq ι] {pid : ι → Nat} {i j : ι} {file : Nat} {w : Threads (RunDir ι) ι Point}

theorem closeListener_of_none {d : RunDir ι} (h : ∀ f, d.listener f ≠ some j) :
    closeListener j d = d := by
  have hlistener : (closeListener j d).listener = d.listener := by
    funext f
    exact if_neg (h f)
  simp only [closeListener] at hlistener ⊢
  rw [hlistener]

/-- Whatever a late process does, it changes nothing but whether it is alive itself. -/
theorem Settled.late (h : Settled pid i file w) (hp : pid i < 2 ^ 31) (hj : j ≠ i) (e : Event) :
    (∃ alive, (daemonize pid j e w.shared (w.own j)).1 = { w.shared with
        alive := Function.update w.shared.alive (pid j) alive }) ∧
      Waiting (pid i) (daemonize pid j e w.shared (w.own j)).2 := by
  have hwaiting := h.waiting j hj
  have htakes : Takes pid j e w.shared (w.own j) _ _ := takes e (w.own j)
  generalize hd : (daemonize pid j e w.shared (w.own j)).1 = d' at htakes ⊢
  generalize hpoint : (daemonize pid j e w.shared (w.own j)).2 = point' at htakes ⊢
  have hclose : closeListener j w.shared = w.shared := by
    apply closeListener_of_none
    intro f hf
    exact hj (h.only f j hf)
  obtain ⟨f, hf, htext⟩ := h.pidText
  have hsame : ∃ alive, w.shared = { w.shared with
      alive := Function.update w.shared.alive (pid j) alive } :=
    ⟨w.shared.alive (pid j), by rw [Function.update_eq_self]⟩
  generalize hown : w.own j = point at htakes hwaiting
  cases htakes with
  | stays => exact ⟨hsame, hwaiting⟩
  | leaves point hne => exact ⟨⟨false, by rw [leave, hclose]⟩, trivial⟩
  | begins => exact ⟨⟨true, rfl⟩, trivial⟩
  | seesPid => exact ⟨hsame, trivial⟩
  | noPid hnone => rw [hf] at hnone; cases hnone
  | reads g p hg hread =>
      obtain rfl : f = g := Option.some.inj (hf.symm.trans hg)
      rw [htext, parseI32_pidLine hp] at hread
      exact ⟨hsame, (Option.some.inj hread).symm⟩
  | garbled g hg hread =>
      obtain rfl : f = g := Option.some.inj (hf.symm.trans hg)
      rw [htext, parseI32_pidLine hp] at hread
      cases hread
  | unanswered p hdead =>
      obtain rfl : p = (pid i : Int) := hwaiting
      rw [h.alive] at hdead
      cases hdead
  | _ => exact absurd hwaiting id

theorem Settled.kept (h : Settled pid i file w) (hpid : Function.Injective pid)
    (hp : pid i < 2 ^ 31) {e : ι × Event} (he : e.1 ≠ i) :
    Settled pid i file (step pid w e) ∧
      ∃ alive, (step pid w e).shared = { w.shared with alive := alive } := by
  obtain ⟨j, e⟩ := e
  obtain ⟨⟨alive, hshared⟩, hwaiting⟩ := h.late hp he e
  have hnext : (step pid w (j, e)).shared = { w.shared with
      alive := Function.update w.shared.alive (pid j) alive } := hshared
  have hown : (step pid w (j, e)).own i = w.own i := advance_own_of_ne (Ne.symm he)
  have hapart : (pid i : Int) ≠ (pid j : Int) := by
    intro heq
    exact he (hpid (Int.ofNat.inj heq)).symm
  refine ⟨?_, _, hnext⟩
  exact
    { serving := hown.trans h.serving
      pidText := by rw [hnext]; exact h.pidText
      sock := by rw [hnext]; exact h.sock
      only := by rw [hnext]; exact h.only
      alive := by
        rw [hnext]
        exact (Function.update_of_ne hapart ..).trans h.alive
      waiting := by
        intro k hk
        by_cases hkj : k = j
        · rw [hkj]
          show Waiting (pid i) ((advance (daemonize pid) w (j, e)).own j)
          rw [advance_own_self]
          exact hwaiting
        · show Waiting (pid i) ((advance (daemonize pid) w (j, e)).own k)
          rw [advance_own_of_ne hkj]
          exact h.waiting k hk }

/-- While a daemon serves, whoever else starts, in whatever number and order, changes none of
its files and never serves. -/
theorem late_starts (hpid : Function.Injective pid) (hp : pid i < 2 ^ 31)
    (h : Settled pid i file w) {events : List (ι × Event)} (hothers : ∀ e ∈ events, e.1 ≠ i) :
    (∃ alive, (run (step pid) w events).shared = { w.shared with alive := alive }) ∧
      ∀ j f, (run (step pid) w events).own j = .serving f → j = i := by
  have hrun : Settled pid i file (run (step pid) w events) ∧
      ∃ alive, (run (step pid) w events).shared = { w.shared with alive := alive } := by
    induction events generalizing w with
    | nil => exact ⟨h, w.shared.alive, rfl⟩
    | cons e events ih =>
        obtain ⟨he, hrest⟩ := List.forall_mem_cons.mp hothers
        obtain ⟨hstep, alive, hshared⟩ := h.kept hpid hp he
        obtain ⟨hsettled, alive', hshared'⟩ := ih hstep hrest
        refine ⟨hsettled, alive', ?_⟩
        show (run (step pid) (step pid w e) events).shared = _
        rw [hshared', hshared]
  refine ⟨hrun.2, ?_⟩
  intro j f hserving
  by_contra hne
  have hwaiting := hrun.1.waiting j hne
  rw [hserving] at hwaiting
  exact hwaiting

end Late

section Alone

variable {ι : Type} [DecidableEq ι] {pid : ι → Nat} {i : ι} {d : RunDir ι}

abbrev Alone (pid : ι → Nat) (i : ι) : RunDir ι × Point → RunDir ι × Point → Prop :=
  Reaches (daemonize pid) i (.next false)

theorem alone_next {p p' : UniquePoint} {d' : RunDir ι} {s : RunDir ι × Point}
    (h : isUnique false d p = (d', .next p')) (hs : Alone pid i (d', .unique p') s) :
    Alone pid i (d, .unique p) s :=
  Reaches.step (by simp only [daemonize, h]) hs

theorem alone_ok {p : UniquePoint} {d' : RunDir ι} {s : RunDir ι × Point}
    (h : isUnique false d p = (d', .ok)) (hs : Alone pid i (d', .pidFile .create) s) :
    Alone pid i (d, .unique p) s :=
  Reaches.step (by simp only [daemonize, h]) hs

/-- A socket that nobody listens at is removed. -/
theorem alone_sock (hsilent : ∀ f, d.listener f = none) :
    Alone pid i (d, .unique .sockExists) ({ d with sockFile := none }, .pidFile .create) := by
  cases hsock : d.sockFile with
  | none =>
      have hsame : { d with sockFile := none } = d := by rw [← hsock]
      have hnone : isUnique false d .sockExists = (d, .ok) := by simp [isUnique, hsock]
      rw [hsame]
      exact alone_ok hnone .refl
  | some f =>
      have hrefused : reached d = false := by simp [reached, hsock, hsilent]
      have hsees : isUnique false d .sockExists = (d, .next .connect) := by simp [isUnique, hsock]
      have hconnect : isUnique false d .connect = (d, .next .removeSock) := by
        simp [isUnique, hrefused]
      have hremove : isUnique false d .removeSock = ({ d with sockFile := none }, .ok) := by
        simp [isUnique, hsock]
      exact alone_next hsees (alone_next hconnect (alone_ok hremove .refl))

variable (pid i) in
/-- A PID file that names no living process is removed. -/
theorem alone_unique (hsilent : ∀ f, d.listener f = none)
    (hdead : ∀ f ∈ d.pidFile, ∀ p ∈ parseI32 (Naming.trimChars (d.text f)), d.alive p = false) :
    Alone pid i (d, .unique .pidExists)
      ({ d with pidFile := none, sockFile := none }, .pidFile .create) := by
  have hsock : Alone pid i ({ d with pidFile := none }, .unique .sockExists)
      ({ d with pidFile := none, sockFile := none }, .pidFile .create) := alone_sock hsilent
  cases hpidFile : d.pidFile with
  | none =>
      have hsame : { d with pidFile := none } = d := by rw [← hpidFile]
      have hnone : isUnique false d .pidExists = (d, .next .sockExists) := by
        simp [isUnique, hpidFile]
      rw [hsame] at hsock
      exact alone_next hnone hsock
  | some f =>
      have hsees : isUnique false d .pidExists = (d, .next .readPid) := by
        simp [isUnique, hpidFile]
      have hremove : isUnique false d .removePid =
          ({ d with pidFile := none }, .next .sockExists) := by
        simp [isUnique, hpidFile]
      cases hparse : parseI32 (Naming.trimChars (d.text f)) with
      | none =>
          have hread : isUnique false d .readPid = (d, .next .removePid) := by
            simp [isUnique, hpidFile, hparse]
          exact alone_next hsees (alone_next hread (alone_next hremove hsock))
      | some p =>
          have hfree : d.alive p = false := hdead f hpidFile p hparse
          have hread : isUnique false d .readPid = (d, .next (.ping p)) := by
            simp [isUnique, hpidFile, hparse]
          have hping : isUnique false d (.ping p) = (d, .next .removePid) := by
            simp [isUnique, hfree]
          exact alone_next hsees (alone_next hread (alone_next hping (alone_next hremove hsock)))

/-- What a process has made when it comes to serve. -/
structure Made (pid : ι → Nat) (i : ι) (d d' : RunDir ι) (file : Nat) : Prop where
  pidText : ∃ f, d'.pidFile = some f ∧ d'.text f = pidLine (pid i)
  tmp : d'.tmpPid = none
  sock : d'.sockFile = some file
  listener : d'.listener = Function.update d.listener file (some i)
  alive : d'.alive = d.alive

variable (pid i) in
/-- The temporary file is written as a whole and renamed, and the socket is bound. -/
theorem alone_written {f : Nat} (htmp : d.tmpPid = some f) (htext : d.text f = [])
    (hsock : d.sockFile = none) :
    ∃ d', Alone pid i (d, .pidFile (.writePid f)) (d', .serving d.files) ∧
      Made pid i d d' d.files := by
  have hdigits : daemonize pid i (.next false) d (.pidFile (.writePid f)) =
      (d.setText f (Nat.toDigits 10 (pid i)), .pidFile (.writeLine f)) := by
    simp only [daemonize, createPidFile, htext, writeAt_nil]
  have hline : daemonize pid i (.next false) (d.setText f (Nat.toDigits 10 (pid i)))
      (.pidFile (.writeLine f)) = (d.setText f (pidLine (pid i)), .pidFile .rename) := by
    simp only [daemonize, createPidFile, RunDir.setText, Function.update_self, writeAt_end,
      Function.update_idem, pidLine]
  have hrename : daemonize pid i (.next false) (d.setText f (pidLine (pid i))) (.pidFile .rename) =
      ({ d.setText f (pidLine (pid i)) with pidFile := some f, tmpPid := none }, .socket) := by
    simp only [daemonize, createPidFile, RunDir.setText, htmp]
  have hbind : daemonize pid i (.next false)
      { d.setText f (pidLine (pid i)) with pidFile := some f, tmpPid := none } .socket =
        ({ d.setText f (pidLine (pid i)) with
            pidFile := some f
            tmpPid := none
            sockFile := some d.files
            listener := Function.update d.listener d.files (some i)
            files := d.files + 1 }, .serving d.files) := by
    simp only [daemonize, createSocket, RunDir.setText, hsock]
  refine ⟨_, .step hdigits (.step hline (.step hrename (.step hbind .refl))), ?_⟩
  exact
    { pidText := ⟨f, rfl, Function.update_self ..⟩
      tmp := rfl
      sock := rfl
      listener := rfl
      alive := rfl }

variable (pid i) in
theorem alone_made (hsock : d.sockFile = none) :
    ∃ d' file, Alone pid i (d, .pidFile .create) (d', .serving file) ∧ Made pid i d d' file := by
  cases htmp : d.tmpPid with
  | some f =>
      have hopen : daemonize pid i (.next false) d (.pidFile .create) =
          (d.setText f [], .pidFile (.writePid f)) := by
        simp only [daemonize, createPidFile, htmp]
      have htext : (d.setText f []).text f = [] := Function.update_self ..
      obtain ⟨d', hreaches, hmade⟩ :=
        alone_written pid i (d := d.setText f []) htmp htext hsock
      exact ⟨d', _, .step hopen hreaches,
        ⟨hmade.pidText, hmade.tmp, hmade.sock, hmade.listener, hmade.alive⟩⟩
  | none =>
      have hcreate : daemonize pid i (.next false) d (.pidFile .create) =
          ({ d.setText d.files [] with tmpPid := some d.files, files := d.files + 1 },
            .pidFile (.writePid d.files)) := by
        simp only [daemonize, createPidFile, htmp]
      have htext : (d.setText d.files []).text d.files = [] := Function.update_self ..
      obtain ⟨d', hreaches, hmade⟩ := alone_written pid i
        (d := { d.setText d.files [] with tmpPid := some d.files, files := d.files + 1 })
        rfl htext hsock
      exact ⟨d', _, .step hcreate hreaches,
        ⟨hmade.pidText, hmade.tmp, hmade.sock, hmade.listener, hmade.alive⟩⟩

theorem alone_cleanup {file : Nat} (hpidFile : d.pidFile ≠ none) (hsock : d.sockFile ≠ none) :
    Alone pid i (d, .serving file) (leave pid i { d with pidFile := none, sockFile := none }) := by
  obtain ⟨f, hf⟩ := Option.ne_none_iff_exists'.mp hpidFile
  obtain ⟨g, hg⟩ := Option.ne_none_iff_exists'.mp hsock
  have hpid : daemonize pid i (.next false) d (.cleanup file .removePid) =
      ({ d with pidFile := none }, .cleanup file .removeSock) := by
    simp only [daemonize, cleanup, hf]
  have hend : daemonize pid i (.next false) { d with pidFile := none } (.cleanup file .removeSock) =
      leave pid i { d with pidFile := none, sockFile := none } := by
    simp only [daemonize, cleanup, hg]
  exact .step rfl (.step hpid (.step hend .refl))

variable (pid) in
/-- The state in which a process has just made the socket file. -/
theorem step_binds {w : Threads (RunDir ι) ι Point} {foreign : Bool}
    (h : Binds w (i, .next foreign)) : step pid w (i, .next foreign) =
      { shared := { w.shared with
          sockFile := some w.shared.files
          listener := Function.update w.shared.listener w.shared.files (some i)
          files := w.shared.files + 1 }
        own := Function.update w.own i (.serving w.shared.files) } := by
  obtain ⟨hsocket, hnone, -⟩ := h
  simp only [step, advance, hsocket, daemonize, createSocket, hnone]

variable (pid) in
/-- If the other process has found the former socket dead, it removes the new one and comes to
serve as well. -/
theorem disturbed_checking {w : Threads (RunDir ι) ι Point} {j : ι} {foreign : Bool}
    (hne : i ≠ j) (hbinds : Binds w (i, .next foreign)) (hj : w.own j = .unique .removeSock) :
    ∃ n file file',
      (run (step pid) w ((i, .next foreign) :: List.replicate n (j, .next false))).own i =
        .serving file ∧
      (run (step pid) w ((i, .next foreign) :: List.replicate n (j, .next false))).own j =
        .serving file' := by
  have hbound := step_binds pid hbinds
  obtain ⟨d', file', hreaches, -⟩ := alone_made pid j
    (d := { (step pid w (i, .next foreign)).shared with sockFile := none }) rfl
  have hremoves : isUnique false (step pid w (i, .next foreign)).shared .removeSock =
      ({ (step pid w (i, .next foreign)).shared with sockFile := none }, .ok) := by
    simp only [hbound, isUnique]
  have halone : Alone pid j ((step pid w (i, .next foreign)).shared,
      (step pid w (i, .next foreign)).own j) (d', .serving file') := by
    have hown : (step pid w (i, .next foreign)).own j = .unique .removeSock :=
      (advance_own_of_ne hne.symm).trans hj
    rw [hown]
    exact alone_ok hremoves hreaches
  obtain ⟨n, hn⟩ := halone.run
  have hrun : run (step pid) w ((i, .next foreign) :: List.replicate n (j, .next false)) =
      { shared := d'
        own := Function.update (step pid w (i, .next foreign)).own j (.serving file') } := hn
  refine ⟨n, w.shared.files, file', ?_, ?_⟩
  · rw [hrun, hbound]
    exact (Function.update_of_ne hne ..).trans (Function.update_self ..)
  · rw [hrun]
    exact Function.update_self ..

variable (pid) in
/-- If it has removed the PID file in its shutdown, the daemon that serves is left without a
socket. -/
theorem disturbed_leaving {w : Threads (RunDir ι) ι Point} {j : ι} {foreign : Bool} {f : Nat}
    (hne : i ≠ j) (hbinds : Binds w (i, .next foreign)) (hj : w.own j = .cleanup f .removeSock) :
    ∃ file, (run (step pid) w [(i, .next foreign), (j, .next false)]).own i = .serving file ∧
      (run (step pid) w [(i, .next foreign), (j, .next false)]).shared.sockFile = none := by
  refine ⟨w.shared.files, ?_⟩
  show (step pid (step pid w (i, .next foreign)) (j, .next false)).own i = _ ∧
    (step pid (step pid w (i, .next foreign)) (j, .next false)).shared.sockFile = none
  rw [step_binds pid hbinds]
  simp only [step, advance, Function.update_of_ne hne.symm, hj, daemonize, cleanup]
  exact ⟨(Function.update_of_ne hne ..).trans (Function.update_self ..), rfl⟩

variable (pid) in
/-- The same where it is yet to remove the PID file. -/
theorem disturbed_shutting {w : Threads (RunDir ι) ι Point} {j : ι} {foreign : Bool} {f : Nat}
    (hne : i ≠ j) (hbinds : Binds w (i, .next foreign)) (hj : w.own j = .cleanup f .removePid)
    (hpidFile : w.shared.pidFile ≠ none) : ∃ file,
      (run (step pid) w [(i, .next foreign), (j, .next false), (j, .next false)]).own i =
        .serving file ∧
      (run (step pid) w
        [(i, .next foreign), (j, .next false), (j, .next false)]).shared.sockFile = none := by
  obtain ⟨g, hg⟩ := Option.ne_none_iff_exists'.mp hpidFile
  refine ⟨w.shared.files, ?_⟩
  show (step pid (step pid (step pid w (i, .next foreign)) (j, .next false))
      (j, .next false)).own i = _ ∧
    (step pid (step pid (step pid w (i, .next foreign)) (j, .next false))
      (j, .next false)).shared.sockFile = none
  rw [step_binds pid hbinds]
  simp only [step, advance, Function.update_of_ne hne.symm, hj, daemonize, cleanup, hg,
    Function.update_self]
  refine ⟨?_, rfl⟩
  exact (Function.update_of_ne hne ..).trans
    ((Function.update_of_ne hne ..).trans (Function.update_self ..))

variable (pid) in
/-- Without the PID file its shutdown ends with an error, and the new socket stays. -/
theorem disturbed_failing {w : Threads (RunDir ι) ι Point} {j : ι} {foreign : Bool} {f : Nat}
    (hne : i ≠ j) (hbinds : Binds w (i, .next foreign)) (hj : w.own j = .cleanup f .removePid)
    (hpidFile : w.shared.pidFile = none) : ∃ file,
      (run (step pid) w [(i, .next foreign), (j, .next false)]).own i = .serving file ∧
      (run (step pid) w [(i, .next foreign), (j, .next false)]).own j = .absent ∧
      (run (step pid) w [(i, .next foreign), (j, .next false)]).shared.sockFile = some file ∧
      (run (step pid) w [(i, .next foreign), (j, .next false)]).shared.listener file =
        some i := by
  refine ⟨w.shared.files, ?_⟩
  show (step pid (step pid w (i, .next foreign)) (j, .next false)).own i = _ ∧
    (step pid (step pid w (i, .next foreign)) (j, .next false)).own j = _ ∧
    (step pid (step pid w (i, .next foreign)) (j, .next false)).shared.sockFile = _ ∧
    (step pid (step pid w (i, .next foreign)) (j, .next false)).shared.listener _ = _
  rw [step_binds pid hbinds]
  simp only [step, advance, Function.update_of_ne hne.symm, hj, daemonize, cleanup, hpidFile,
    leave, closeListener, Function.update_self, Option.some.injEq, hne, if_false]
  refine ⟨?_, trivial, trivial, trivial⟩
  exact (Function.update_of_ne hne ..).trans (Function.update_self ..)

/-- Where a socket file is made while another process is about to remove one: if that process
has found the former one dead, it removes the new one and comes to serve as well; if it is
shutting down, the daemon that serves is left without a socket, unless the shutdown stops at
the PID file, which is gone. -/
theorem disturbed {w : Threads (RunDir ι) ι Point} {j : ι} {foreign : Bool} (hne : i ≠ j)
    (hbinds : Binds w (i, .next foreign)) :
    (w.own j = .unique .removeSock → ∃ n file file',
      (run (step pid) w ((i, .next foreign) :: List.replicate n (j, .next false))).own i =
        .serving file ∧
      (run (step pid) w ((i, .next foreign) :: List.replicate n (j, .next false))).own j =
        .serving file') ∧
    (∀ f, w.own j = .cleanup f .removeSock → ∃ file,
      (run (step pid) w [(i, .next foreign), (j, .next false)]).own i = .serving file ∧
        (run (step pid) w [(i, .next foreign), (j, .next false)]).shared.sockFile = none) ∧
    ∀ f, w.own j = .cleanup f .removePid →
      (w.shared.pidFile ≠ none → ∃ file,
        (run (step pid) w [(i, .next foreign), (j, .next false), (j, .next false)]).own i =
          .serving file ∧
        (run (step pid) w
          [(i, .next foreign), (j, .next false), (j, .next false)]).shared.sockFile = none) ∧
      (w.shared.pidFile = none → ∃ file,
        (run (step pid) w [(i, .next foreign), (j, .next false)]).own i = .serving file ∧
        (run (step pid) w [(i, .next foreign), (j, .next false)]).own j = .absent ∧
        (run (step pid) w [(i, .next foreign), (j, .next false)]).shared.sockFile = some file ∧
        (run (step pid) w [(i, .next foreign), (j, .next false)]).shared.listener file =
          some i) :=
  ⟨disturbed_checking pid hne hbinds, fun _ => disturbed_leaving pid hne hbinds, fun _ hj =>
    ⟨disturbed_shutting pid hne hbinds hj, disturbed_failing pid hne hbinds hj⟩⟩

end Alone

section Crashes

variable {ι : Type} {i j : ι} {d d' : RunDir ι} {point point' : Point} {e : Event}
  {w : Threads (RunDir ι) ι Point}

/-- The process has made a socket file and has not ended. -/
def Listening (file : Nat) : Point → Prop
  | .serving f => f = file
  | .cleanup f _ => f = file
  | _ => False

/-- What the kernel knows of a process is what the process is doing. -/
structure Known (pid : ι → Nat) (i : ι) (d : RunDir ι) (point : Point) : Prop where
  listener : ∀ file, d.listener file = some i → Listening file point
  alive : point = .absent → d.alive (pid i) = false

def Accounted (pid : ι → Nat) (d : RunDir ι) : Prop :=
  ∀ p, d.alive p = true → ∃ i, p = (pid i : Int)

/-- No daemon is there, and none of its files. -/
structure Gone (w : Threads (RunDir ι) ι Point) : Prop where
  absent : ∀ j, w.own j = .absent
  pidFile : w.shared.pidFile = none
  tmpPid : w.shared.tmpPid = none
  sockFile : w.shared.sockFile = none

variable {pid : ι → Nat}

theorem Leftover.of_absent (hw : Holds (Accounted pid) (Known pid) w)
    (habsent : ∀ j, w.own j = .absent) : Leftover w.shared := by
  constructor
  · intro f
    cases hf : w.shared.listener f with
    | none => rfl
    | some j =>
        have hlistening := (hw.own j).listener f hf
        rw [habsent j] at hlistening
        exact absurd hlistening id
  · intro p
    cases hp : w.shared.alive p with
    | false => rfl
    | true =>
        obtain ⟨j, rfl⟩ := hw.shared p hp
        exact nomatch hp.symm.trans ((hw.own j).alive (habsent j))

variable [DecidableEq ι]

/-- What a step does to the listeners and to the living processes. -/
theorem known_cases (h : Takes pid i e d point d' point') :
    (∀ f, d'.listener f = d.listener f ∨ d'.listener f = none ∨ d'.listener f = some i) ∧
      ∃ alive, d'.alive = Function.update d.alive (pid i) alive := by
  have hsame : ∃ alive, d.alive = Function.update d.alive (pid i) alive :=
    ⟨d.alive (pid i), (Function.update_eq_self ..).symm⟩
  have hclose : ∀ d : RunDir ι, ∀ f, (closeListener i d).listener f = d.listener f ∨
      (closeListener i d).listener f = none ∨ (closeListener i d).listener f = some i := by
    intro d f
    rcases closeListener_cases (i := i) (d := d) f with hkept | ⟨-, hnone⟩
    · exact .inl hkept
    · exact .inr (.inl hnone)
  cases h with
  | closes file p => exact ⟨hclose d, hsame⟩
  | leaves point hne => exact ⟨hclose d, false, rfl⟩
  | cleansSock file => exact ⟨hclose _, false, rfl⟩
  | begins => exact ⟨fun _ => .inl rfl, true, rfl⟩
  | binds foreign he hnone =>
      refine ⟨?_, hsame⟩
      intro f
      by_cases hf : f = d.files
      · exact .inr (.inr (by rw [hf]; exact Function.update_self ..))
      · exact .inl (Function.update_of_ne hf ..)
  | _ => exact ⟨fun _ => .inl rfl, hsame⟩

theorem closeListener_ne (f : Nat) : (closeListener i d).listener f ≠ some i := by
  by_cases h : d.listener f = some i <;> simp [closeListener, h]

theorem Known.kept (hknown : Known pid i d point) (h : Takes pid i e d point d' point') :
    Known pid i d' point' := by
  cases h with
  | stays => exact hknown
  | closes file p =>
      exact ⟨fun f hf => absurd hf (closeListener_ne f), fun habsent => nomatch habsent⟩
  | leaves point hne =>
      exact ⟨fun f hf => absurd hf (closeListener_ne f), fun _ => Function.update_self ..⟩
  | cleansSock file =>
      exact ⟨fun f hf => absurd hf (closeListener_ne f), fun _ => Function.update_self ..⟩
  | binds foreign he hnone =>
      refine ⟨?_, fun habsent => nomatch habsent⟩
      intro f hf
      by_cases hfiles : f = d.files
      · exact hfiles.symm
      · have hold : d.listener f = some i := by
          rw [← hf]
          exact (Function.update_of_ne hfiles ..).symm
        exact absurd (hknown.listener f hold) id
  | aborts file => exact ⟨hknown.listener, fun habsent => nomatch habsent⟩
  | cleansPid file => exact ⟨hknown.listener, fun habsent => nomatch habsent⟩
  | _ => exact ⟨fun f hf => absurd (hknown.listener f hf) id, fun habsent => nomatch habsent⟩

theorem Known.stable (hpid : Function.Injective pid) (hne : j ≠ i) (hknown : Known pid j d point)
    {after after' : Point} (h : Takes pid i e d after d' after') : Known pid j d' point := by
  obtain ⟨hlistener, alive, halive⟩ := known_cases h
  have hapart : (pid j : Int) ≠ (pid i : Int) := fun heq => hne (hpid (Int.ofNat.inj heq))
  constructor
  · intro f hf
    rcases hlistener f with hsame | hnone | hown
    · exact hknown.listener f (hsame.symm.trans hf)
    · exact nomatch hnone.symm.trans hf
    · exact absurd (Option.some.inj (hown.symm.trans hf)) hne.symm
  · intro habsent
    rw [halive, Function.update_of_ne hapart]
    exact hknown.alive habsent

theorem Accounted.kept (haccounted : Accounted pid d) (h : Takes pid i e d point d' point') :
    Accounted pid d' := by
  obtain ⟨-, alive, halive⟩ := known_cases h
  intro p hp
  by_cases hown : p = (pid i : Int)
  · exact ⟨i, hown⟩
  · rw [halive, Function.update_of_ne hown] at hp
    exact haccounted p hp

theorem known_run (hpid : Function.Injective pid) (hd : Leftover d) (events : List (ι × Event)) :
    Holds (Accounted pid) (Known pid) (run (step pid) (start d) events) := by
  have hrule : Noninterference (daemonize pid) (fun _ _ => True) (Accounted pid) (Known pid) :=
    { keeps := fun i e w hw _ => ⟨hw.shared.kept (takes e (w.own i)),
        (hw.own i).kept (takes e (w.own i))⟩
      others := fun i j e w hne hw _ => (hw.own j).stable hpid hne (takes e (w.own i)) }
  have hstart : Holds (Accounted pid) (Known pid) (start d) := by
    refine ⟨fun p hp => ?_, fun i => ⟨fun f hf => ?_, fun _ => hd.dead _⟩⟩
    · exact nomatch (hd.dead p).symm.trans hp
    · exact nomatch (hd.silent f).symm.trans hf
  exact hrule.run hstart (along_of_forall fun _ _ _ => trivial)

variable (pid i) in
/-- A process that starts alone over leftover files comes to serve. -/
theorem settled_of_leftover (hd : Leftover w.shared) (habsent : ∀ j, w.own j = .absent)
    (hown : ∀ f ∈ w.shared.pidFile,
      parseI32 (Naming.trimChars (w.shared.text f)) ≠ some (pid i : Int)) :
    ∃ n file, Settled pid i file (run (step pid) w (List.replicate n (i, .next false))) ∧
      (run (step pid) w (List.replicate n (i, .next false))).shared.tmpPid = none ∧
      ∀ j, j ≠ i → (run (step pid) w (List.replicate n (i, .next false))).own j = .absent := by
  have hbegins : daemonize pid i (.next false) w.shared (w.own i) =
      ({ w.shared with alive := Function.update w.shared.alive (pid i) true },
        .unique .pidExists) := by
    rw [habsent i]
    rfl
  have hdead : ∀ f ∈ w.shared.pidFile, ∀ p ∈ parseI32 (Naming.trimChars (w.shared.text f)),
      Function.update w.shared.alive (pid i) true p = false := by
    intro f hf p hp
    have hne : p ≠ (pid i : Int) := fun heq => hown f hf (heq ▸ hp)
    rw [Function.update_of_ne hne]
    exact hd.dead p
  obtain ⟨d', file, hmakes, hmade⟩ := alone_made pid i
    (d := { w.shared with
      alive := Function.update w.shared.alive (pid i) true, pidFile := none, sockFile := none }) rfl
  have hreaches : Alone pid i (w.shared, w.own i) (d', .serving file) :=
    .step hbegins ((alone_unique pid i
      (d := { w.shared with alive := Function.update w.shared.alive (pid i) true })
      hd.silent hdead).trans hmakes)
  obtain ⟨n, hn⟩ := hreaches.run
  have hrun : run (step pid) w (List.replicate n (i, .next false)) =
      { shared := d', own := Function.update w.own i (.serving file) } := hn
  have hothers : ∀ j, j ≠ i → Function.update w.own i (.serving file) j = .absent := by
    intro j hj
    rw [Function.update_of_ne hj]
    exact habsent j
  refine ⟨n, file, ?_, ?_, ?_⟩
  · rw [hrun]
    exact
      { serving := Function.update_self ..
        pidText := hmade.pidText
        sock := ⟨hmade.sock, by rw [hmade.listener]; exact Function.update_self ..⟩
        only := by
          intro f j hf
          have hlistener : d'.listener f = some j := hf
          rw [hmade.listener] at hlistener
          by_cases hfile : f = file
          · rw [hfile, Function.update_self] at hlistener
            exact (Option.some.inj hlistener).symm
          · rw [Function.update_of_ne hfile] at hlistener
            exact nomatch (hd.silent f).symm.trans hlistener
        alive := by
          show d'.alive (pid i) = true
          rw [hmade.alive]
          exact Function.update_self ..
        waiting := by
          intro j hj
          show Waiting (pid i) (Function.update w.own i (.serving file) j)
          rw [hothers j hj]
          trivial }
  · rw [hrun]
    exact hmade.tmp
  · rw [hrun]
    exact hothers

/-- A daemon that has made its files removes them when it is shut down. -/
theorem gone_of_settled {file : Nat} (h : Settled pid i file w) (htmp : w.shared.tmpPid = none)
    (hothers : ∀ j, j ≠ i → w.own j = .absent) :
    ∃ m, Gone (run (step pid) w (List.replicate m (i, .next false))) := by
  obtain ⟨f, hf, -⟩ := h.pidText
  have hpidFile : w.shared.pidFile ≠ none := by rw [hf]; exact Option.some_ne_none f
  have hsock : w.shared.sockFile ≠ none := by rw [h.sock.1]; exact Option.some_ne_none file
  have hends : Alone pid i (w.shared, w.own i)
      (leave pid i { w.shared with pidFile := none, sockFile := none }) := by
    rw [h.serving]
    exact alone_cleanup hpidFile hsock
  obtain ⟨m, hm⟩ := hends.run
  have hrun : run (step pid) w (List.replicate m (i, .next false)) =
      { shared := (leave pid i { w.shared with pidFile := none, sockFile := none }).1
        own := Function.update w.own i .absent } := hm
  refine ⟨m, ?_⟩
  rw [hrun]
  refine ⟨?_, rfl, htmp, rfl⟩
  intro j
  by_cases hj : j = i
  · rw [hj]
    exact Function.update_self ..
  · exact (Function.update_of_ne hj ..).trans (hothers j hj)

/-- After whatever run of daemons that have all ended or crashed, one that starts alone comes to
serve with its own PID and socket, unless some process has the PID of the PID file again, by
chance itself; and when it is shut down it leaves no file behind. -/
theorem recovers (hpid : Function.Injective pid) (hd : Leftover d) {events : List (ι × Event)}
    (habsent : ∀ j, (run (step pid) (start d) events).own j = .absent)
    (hown : ∀ f ∈ (run (step pid) (start d) events).shared.pidFile,
      parseI32 (Naming.trimChars ((run (step pid) (start d) events).shared.text f)) ≠
        some (pid i : Int)) :
    ∃ n m file,
      Settled pid i file
        (run (step pid) (run (step pid) (start d) events) (List.replicate n (i, .next false))) ∧
      Gone (run (step pid)
        (run (step pid) (run (step pid) (start d) events) (List.replicate n (i, .next false)))
        (List.replicate m (i, .next false))) := by
  have hleft := Leftover.of_absent (known_run hpid hd events) habsent
  obtain ⟨n, file, hsettled, htmp, hothers⟩ := settled_of_leftover i pid hleft habsent hown
  obtain ⟨m, hgone⟩ := gone_of_settled hsettled htmp hothers
  exact ⟨n, m, file, hsettled, hgone⟩

end Crashes

section Lines

variable {ι : Type} {i j : ι} {d d' : RunDir ι} {point point' : Point} {e : Event}
  {w : Threads (RunDir ι) ι Point} {allowed : List Char → Prop}

/-- Files are numbered as they are made, and two names are two files. -/
structure Numbered (d : RunDir ι) : Prop where
  pid : ∀ f ∈ d.pidFile, f < d.files
  tmp : ∀ f ∈ d.tmpPid, f < d.files
  apart : ∀ f ∈ d.pidFile, d.tmpPid ≠ some f

def OnTmp : Point → Prop
  | .pidFile _ => True
  | _ => False

/-- The process has opened the temporary file and has not yet renamed it. -/
def Writing : Point → Prop
  | .pidFile .create => False
  | .pidFile _ => True
  | _ => False

/-- A process works on the temporary file only while no other one has it open. -/
def OneWriter (w : Threads (RunDir ι) ι Point) (e : ι × Event) : Prop :=
  OnTmp (w.own e.1) → ∀ j, j ≠ e.1 → ¬ Writing (w.own j)

/-- The text of the PID file is one of those allowed. -/
structure Lined (allowed : List Char → Prop) (d : RunDir ι) : Prop extends Numbered d where
  text : ∀ f ∈ d.pidFile, allowed (d.text f)

/-- The text is that of a PID file of the directory, or the line of a process. -/
def Whole (pid : ι → Nat) (d : RunDir ι) (text : List Char) : Prop :=
  (∃ f ∈ d.pidFile, text = d.text f) ∨ ∃ i, text = pidLine (pid i)

/-- What the process has written so far. -/
def Written (pid : ι → Nat) (i : ι) (d : RunDir ι) : Point → Prop
  | .pidFile (.writePid f) => d.tmpPid = some f ∧ d.text f = []
  | .pidFile (.writeLine f) => d.tmpPid = some f ∧ d.text f = Nat.toDigits 10 (pid i)
  | .pidFile .rename => ∃ f, d.tmpPid = some f ∧ d.text f = pidLine (pid i)
  | _ => True

theorem written_of_not_writing {pid : ι → Nat} (h : ¬ Writing point) : Written pid i d point := by
  cases point with
  | pidFile p =>
      cases p with
      | create => trivial
      | _ => exact absurd trivial h
  | _ => trivial

theorem Lined.of_eq (h : Lined allowed d) (hpid : d'.pidFile = d.pidFile)
    (htmp : d'.tmpPid = d.tmpPid) (hfiles : d'.files = d.files) (htext : d'.text = d.text) :
    Lined allowed d' where
  pid := by rw [hpid, hfiles]; exact h.pid
  tmp := by rw [htmp, hfiles]; exact h.tmp
  apart := by rw [hpid, htmp]; exact h.apart
  text := by rw [hpid, htext]; exact h.text

theorem Lined.setText {f : Nat} (h : Lined allowed d) (hf : d.tmpPid = some f) (text : List Char) :
    Lined allowed (d.setText f text) where
  pid := h.pid
  tmp := h.tmp
  apart := h.apart
  text g hg := by
    have hne : g ≠ f := fun heq => h.apart g hg (heq ▸ hf)
    show allowed (Function.update d.text f text g)
    rw [Function.update_of_ne hne]
    exact h.text g hg

variable [DecidableEq ι] {pid : ι → Nat}

theorem Lined.kept (hlined : Lined allowed d) (hwritten : Written pid i d point)
    (hline : allowed (pidLine (pid i))) (h : Takes pid i e d point d' point') :
    Lined allowed d' ∧ Written pid i d' point' := by
  cases h with
  | stays => exact ⟨hlined, hwritten⟩
  | opens f htmp => exact ⟨hlined.setText htmp [], htmp, Function.update_self ..⟩
  | creates htmp =>
      refine ⟨⟨⟨?_, ?_, ?_⟩, ?_⟩, rfl, Function.update_self ..⟩
      · intro f hf
        exact Nat.lt_succ_of_lt (hlined.pid f hf)
      · intro f hf
        obtain rfl : d.files = f := Option.some.inj hf
        exact Nat.lt_succ_self _
      · intro f hf heq
        obtain rfl : d.files = f := Option.some.inj heq
        exact Nat.lt_irrefl _ (hlined.pid d.files hf)
      · intro f hf
        have hne : f ≠ d.files := Nat.ne_of_lt (hlined.pid f hf)
        show allowed (Function.update d.text d.files [] f)
        rw [Function.update_of_ne hne]
        exact hlined.text f hf
  | writes f =>
      obtain ⟨htmp, htext⟩ := hwritten
      refine ⟨hlined.setText htmp _, htmp, ?_⟩
      rw [htext, writeAt_nil]
      exact Function.update_self ..
  | endsLine f =>
      obtain ⟨htmp, htext⟩ := hwritten
      refine ⟨hlined.setText htmp _, f, htmp, ?_⟩
      rw [htext, writeAt_end]
      exact Function.update_self ..
  | renames f htmp =>
      obtain ⟨g, hg, htext⟩ := hwritten
      obtain rfl : f = g := Option.some.inj (htmp.symm.trans hg)
      refine ⟨⟨⟨?_, fun _ hf => (nomatch hf), fun _ _ heq => (nomatch heq)⟩, ?_⟩, trivial⟩
      · intro g hg
        obtain rfl : f = g := Option.some.inj hg
        exact hlined.tmp f htmp
      · intro g hg
        obtain rfl : f = g := Option.some.inj hg
        show allowed (d.text f)
        rw [htext]
        exact hline
  | removesPid =>
      exact ⟨⟨⟨fun _ hf => (nomatch hf), hlined.tmp, fun _ hf => (nomatch hf)⟩,
        fun _ hf => (nomatch hf)⟩, trivial⟩
  | cleansPid file =>
      exact ⟨⟨⟨fun _ hf => (nomatch hf), hlined.tmp, fun _ hf => (nomatch hf)⟩,
        fun _ hf => (nomatch hf)⟩, trivial⟩
  | binds foreign he hnone =>
      exact ⟨⟨⟨fun f hf => Nat.lt_succ_of_lt (hlined.pid f hf),
        fun f hf => Nat.lt_succ_of_lt (hlined.tmp f hf), hlined.apart⟩, hlined.text⟩, trivial⟩
  | _ => exact ⟨hlined.of_eq rfl rfl rfl rfl, trivial⟩

/-- A step that does not work on the temporary file leaves it as it is. -/
theorem tmp_cases (h : Takes pid i e d point d' point') :
    OnTmp point ∨ d'.tmpPid = d.tmpPid ∧ d'.text = d.text := by
  cases h with
  | leaves point hne => exact .inr ⟨rfl, rfl⟩
  | _ => first | exact .inr ⟨rfl, rfl⟩ | exact .inl trivial

theorem Written.stable (hwritten : Written pid j d point) {after after' : Point}
    (h : Takes pid i e d after d' after') (hone : OnTmp after → ¬ Writing point) :
    Written pid j d' point := by
  rcases tmp_cases h with hown | ⟨htmp, htext⟩
  · exact written_of_not_writing (hone hown)
  · cases point with
    | pidFile p =>
        cases p with
        | create => trivial
        | _ => simpa only [Written, htmp, htext] using hwritten
    | _ => trivial

/-- While no two processes have the temporary file open at a time, the PID file holds what it
held before all of them or the whole line of one. -/
theorem whole_line (hd : Numbered d) {events : List (ι × Event)}
    (h : Along (step pid) OneWriter (start d) events) :
    ∀ f ∈ (run (step pid) (start d) events).shared.pidFile,
      Whole pid d ((run (step pid) (start d) events).shared.text f) := by
  have hrule : Noninterference (daemonize pid) OneWriter (Lined (Whole pid d)) (Written pid) :=
    { keeps := fun i e w hw _ =>
        hw.shared.kept (hw.own i) (.inr ⟨i, rfl⟩) (takes e (w.own i))
      others := fun i j e w hne hw hone =>
        (hw.own j).stable (takes e (w.own i)) fun hown => hone hown j hne }
  have hstart : Holds (Lined (Whole pid d)) (Written pid) (start d) :=
    ⟨⟨hd, fun f hf => .inl ⟨f, hf, rfl⟩⟩, fun _ => trivial⟩
  exact (hrule.run hstart h).shared.text

/-- A process that opens the temporary file of another one, which is about to rename it,
empties the PID file. -/
theorem emptied {f : Nat} {foreign foreign' : Bool} (hne : i ≠ j) (hi : w.own i = .pidFile .rename)
    (hj : w.own j = .pidFile .create) (htmp : w.shared.tmpPid = some f) :
    (run (step pid) w [(j, .next foreign), (i, .next foreign')]).shared.pidFile = some f ∧
      (run (step pid) w [(j, .next foreign), (i, .next foreign')]).shared.text f = [] := by
  have hopen : step pid w (j, .next foreign) =
      { shared := w.shared.setText f []
        own := Function.update w.own j (.pidFile (.writePid f)) } := by
    simp only [step, advance, hj, daemonize, createPidFile, htmp]
  show (step pid (step pid w (j, .next foreign)) (i, .next foreign')).shared.pidFile = some f ∧
    (step pid (step pid w (j, .next foreign)) (i, .next foreign')).shared.text f = []
  rw [hopen]
  simp only [step, advance, Function.update_of_ne hne, hi, daemonize, createPidFile,
    RunDir.setText, htmp, Function.update_self, and_self]

end Lines

section Instances

instance : DecidablePred OnTmp
  | .pidFile _ => isTrue trivial
  | .absent => isFalse id
  | .unique _ => isFalse id
  | .socket => isFalse id
  | .serving _ => isFalse id
  | .cleanup _ _ => isFalse id

instance : DecidablePred Writing
  | .pidFile .create => isFalse id
  | .pidFile (.writePid _) => isTrue trivial
  | .pidFile (.writeLine _) => isTrue trivial
  | .pidFile .rename => isTrue trivial
  | .absent => isFalse id
  | .unique _ => isFalse id
  | .socket => isFalse id
  | .serving _ => isFalse id
  | .cleanup _ _ => isFalse id

instance {ι : Type} [Fintype ι] [DecidableEq ι] (w : Threads (RunDir ι) ι Point)
    (e : ι × Event) : Decidable (OneWriter w e) :=
  inferInstanceAs (Decidable (OnTmp (w.own e.1) → ∀ j, j ≠ e.1 → ¬ Writing (w.own j)))

theorem leftover_crashed : Leftover crashed :=
  ⟨fun _ => rfl, fun _ => rfl⟩

theorem injective_twoPids : Function.Injective twoPids := by
  decide +kernel

theorem disturbed_racing : ∃ n file file',
    (run (step twoPids) (run (step twoPids) (start crashed) racing)
      ((0, .next false) :: List.replicate n (1, .next false))).own 0 = .serving file ∧
    (run (step twoPids) (run (step twoPids) (start crashed) racing)
      ((0, .next false) :: List.replicate n (1, .next false))).own 1 = .serving file' :=
  (disturbed (by decide) (by decide +kernel)).1 (by decide +kernel)

theorem late_starts_two : ∃ n alive,
    (run (step twoPids) (run (step twoPids) (start crashed) (List.replicate n (0, .next false)))
      (onward [1, 1, 1, 1])).shared =
        { (run (step twoPids) (start crashed) (List.replicate n (0, .next false))).shared with
          alive := alive } := by
  obtain ⟨n, file, hsettled, -⟩ := settled_of_leftover 0 twoPids
    (w := start crashed) leftover_crashed (fun _ => rfl) (by decide +kernel)
  have hothers : ∀ e ∈ onward [1, 1, 1, 1], e.1 ≠ 0 := by decide +kernel
  obtain ⟨⟨alive, hshared⟩, -⟩ := late_starts injective_twoPids (by decide) hsettled hothers
  exact ⟨n, alive, hshared⟩

theorem recovers_takeover : ∃ n m file,
    Settled twoPids 0 file (run (step twoPids)
      (run (step twoPids) (start crashed) (takeover ++ [(1, .fail)]))
        (List.replicate n (0, .next false))) ∧
    Gone (run (step twoPids) (run (step twoPids)
      (run (step twoPids) (start crashed) (takeover ++ [(1, .fail)]))
        (List.replicate n (0, .next false))) (List.replicate m (0, .next false))) :=
  recovers injective_twoPids leftover_crashed (by decide +kernel) (by decide +kernel)

theorem whole_line_takeover :
    (run (step twoPids) (start crashed) takeover).shared.pidFile = some 4 ∧
      ∀ f ∈ (run (step twoPids) (start crashed) takeover).shared.pidFile,
        Whole twoPids crashed ((run (step twoPids) (start crashed) takeover).shared.text f) := by
  have hnumbered : Numbered crashed := ⟨by decide +kernel, by decide +kernel, by decide +kernel⟩
  exact ⟨by decide +kernel, whole_line hnumbered (by decide +kernel)⟩

end Instances

end Xcplane.DaemonLock
