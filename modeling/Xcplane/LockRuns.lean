import Xcplane.DaemonLock

/-!
The runs of starting and ending daemons: when the one that serves is the only one and can be
reached, and how two of them come to serve.
-/

namespace Xcplane.DaemonLock

open Xcplane.Lib

section Steps

variable {ι : Type} [DecidableEq ι]

/-- Everything that a step of a process can do. -/
inductive Takes (pid : ι → Nat) (i : ι) (e : Event) (d : RunDir ι) :
    Point → RunDir ι → Point → Prop
  | stays (point : Point) : Takes pid i e d point d point
  | closes (file : Nat) (p : CleanupPoint) :
      Takes pid i e d (.cleanup file p) (closeListener i d) (.cleanup file p)
  | leaves (point : Point) (h : point ≠ .absent) : Takes pid i e d point (leave pid i d).1 .absent
  | begins : Takes pid i e d .absent { d with alive := Function.update d.alive (pid i) true }
      (.unique .pidExists)
  | seesPid (h : d.pidFile ≠ none) : Takes pid i e d (.unique .pidExists) d (.unique .readPid)
  | noPid (h : d.pidFile = none) : Takes pid i e d (.unique .pidExists) d (.unique .sockExists)
  | reads (file : Nat) (p : Int) (h : d.pidFile = some file)
      (hp : parseI32 (Naming.trimChars (d.text file)) = some p) :
      Takes pid i e d (.unique .readPid) d (.unique (.ping p))
  | garbled (file : Nat) (h : d.pidFile = some file)
      (hp : parseI32 (Naming.trimChars (d.text file)) = none) :
      Takes pid i e d (.unique .readPid) d (.unique .removePid)
  | unanswered (p : Int) (h : d.alive p = false) :
      Takes pid i e d (.unique (.ping p)) d (.unique .removePid)
  | removesPid : Takes pid i e d (.unique .removePid) { d with pidFile := none }
      (.unique .sockExists)
  | seesSock : Takes pid i e d (.unique .sockExists) d (.unique .connect)
  | noSock (h : d.sockFile = none) : Takes pid i e d (.unique .sockExists) d (.pidFile .create)
  | refused (h : reached d = false) :
      Takes pid i e d (.unique .connect) d (.unique .removeSock)
  | removesSock : Takes pid i e d (.unique .removeSock) { d with sockFile := none }
      (.pidFile .create)
  | opens (file : Nat) (h : d.tmpPid = some file) :
      Takes pid i e d (.pidFile .create) (d.setText file []) (.pidFile (.writePid file))
  | creates (h : d.tmpPid = none) : Takes pid i e d (.pidFile .create)
      { d.setText d.files [] with tmpPid := some d.files, files := d.files + 1 }
      (.pidFile (.writePid d.files))
  | writes (file : Nat) : Takes pid i e d (.pidFile (.writePid file))
      (d.setText file (writeAt (d.text file) 0 (Nat.toDigits 10 (pid i))))
      (.pidFile (.writeLine file))
  | endsLine (file : Nat) : Takes pid i e d (.pidFile (.writeLine file))
      (d.setText file (writeAt (d.text file) (Nat.toDigits 10 (pid i)).length ['\n']))
      (.pidFile .rename)
  | renames (file : Nat) (h : d.tmpPid = some file) : Takes pid i e d (.pidFile .rename)
      { d with pidFile := some file, tmpPid := none } .socket
  | binds (foreign : Bool) (he : e = .next foreign) (h : d.sockFile = none) :
      Takes pid i e d .socket
        { d with
          sockFile := some d.files
          listener := Function.update d.listener d.files (some i)
          files := d.files + 1 }
        (.serving d.files)
  | aborts (file : Nat) : Takes pid i e d (.serving file) d (.cleanup file .removePid)
  | cleansPid (file : Nat) : Takes pid i e d (.cleanup file .removePid) { d with pidFile := none }
      (.cleanup file .removeSock)
  | cleansSock (file : Nat) : Takes pid i e d (.cleanup file .removeSock)
      (leave pid i { d with sockFile := none }).1 .absent

variable {pid : ι → Nat} {i : ι} {d : RunDir ι}

theorem takes_unique (foreign : Bool) (p : UniquePoint) :
    Takes pid i (.next foreign) d (.unique p)
      (daemonize pid i (.next foreign) d (.unique p)).1
      (daemonize pid i (.next foreign) d (.unique p)).2 := by
  have hleaves : Takes pid i (.next foreign) d (.unique p) (leave pid i d).1 .absent :=
    .leaves _ (fun hp => nomatch hp)
  cases p with
  | pidExists =>
      cases h : d.pidFile with
      | none => simpa [daemonize, isUnique, h] using Takes.noPid h
      | some file => simpa [daemonize, isUnique, h] using Takes.seesPid (by simp [h])
  | readPid =>
      cases h : d.pidFile with
      | none => simpa [daemonize, isUnique, h, leave] using hleaves
      | some file =>
          cases hp : parseI32 (Naming.trimChars (d.text file)) with
          | none => simpa [daemonize, isUnique, h, hp] using Takes.garbled file h hp
          | some p => simpa [daemonize, isUnique, h, hp] using Takes.reads file p h hp
  | ping p =>
      by_cases h : (d.alive p || foreign) = true
      · simpa [daemonize, isUnique, h, leave] using hleaves
      · have hdead : d.alive p = false := by
          cases halive : d.alive p with
          | false => rfl
          | true => exact absurd (by simp [halive]) h
        simpa [daemonize, isUnique, h] using Takes.unanswered p hdead
  | removePid =>
      cases h : d.pidFile with
      | none => simpa [daemonize, isUnique, h, leave] using hleaves
      | some file => simpa [daemonize, isUnique, h] using Takes.removesPid
  | sockExists =>
      cases h : d.sockFile with
      | none => simpa [daemonize, isUnique, h] using Takes.noSock h
      | some file => simpa [daemonize, isUnique, h] using Takes.seesSock
  | connect =>
      cases h : reached d with
      | false => simpa [daemonize, isUnique, h] using Takes.refused h
      | true => simpa [daemonize, isUnique, h, leave] using hleaves
  | removeSock =>
      cases h : d.sockFile with
      | none => simpa [daemonize, isUnique, h, leave] using hleaves
      | some file => simpa [daemonize, isUnique, h] using Takes.removesSock

theorem takes_pidFile (foreign : Bool) (p : PidFilePoint) :
    Takes pid i (.next foreign) d (.pidFile p)
      (daemonize pid i (.next foreign) d (.pidFile p)).1
      (daemonize pid i (.next foreign) d (.pidFile p)).2 := by
  cases p with
  | create =>
      cases h : d.tmpPid with
      | none => simpa [daemonize, createPidFile, h] using Takes.creates h
      | some file => simpa [daemonize, createPidFile, h] using Takes.opens file h
  | writePid file => exact .writes file
  | writeLine file => exact .endsLine file
  | rename =>
      cases h : d.tmpPid with
      | none =>
          have hleaves : Takes pid i (.next foreign) d (.pidFile .rename) (leave pid i d).1
            .absent := .leaves _ (fun hp => nomatch hp)
          simpa [daemonize, createPidFile, h, leave] using hleaves
      | some file => simpa [daemonize, createPidFile, h] using Takes.renames file h

theorem takes_socket (foreign : Bool) : Takes pid i (.next foreign) d .socket
    (daemonize pid i (.next foreign) d .socket).1
    (daemonize pid i (.next foreign) d .socket).2 := by
  cases h : d.sockFile with
  | none => simpa [daemonize, createSocket, h] using Takes.binds foreign rfl h
  | some file =>
      have hleaves : Takes pid i (.next foreign) d .socket (leave pid i d).1 .absent :=
        .leaves _ (fun hp => nomatch hp)
      simpa [daemonize, createSocket, h, leave] using hleaves

theorem takes_cleanup (foreign : Bool) (file : Nat) (p : CleanupPoint) :
    Takes pid i (.next foreign) d (.cleanup file p)
      (daemonize pid i (.next foreign) d (.cleanup file p)).1
      (daemonize pid i (.next foreign) d (.cleanup file p)).2 := by
  have hleaves : Takes pid i (.next foreign) d (.cleanup file p) (leave pid i d).1 .absent :=
    .leaves _ (fun hp => nomatch hp)
  cases p with
  | removePid =>
      cases h : d.pidFile with
      | none => simpa [daemonize, cleanup, h, leave] using hleaves
      | some _ => simpa [daemonize, cleanup, h] using Takes.cleansPid file
  | removeSock =>
      cases h : d.sockFile with
      | none => simpa [daemonize, cleanup, h, leave] using hleaves
      | some _ => simpa [daemonize, cleanup, h, leave] using Takes.cleansSock file

theorem takes (e : Event) (point : Point) : Takes pid i e d point
    (daemonize pid i e d point).1 (daemonize pid i e d point).2 := by
  cases e with
  | next foreign =>
      cases point with
      | absent => exact .begins
      | unique p => exact takes_unique foreign p
      | pidFile p => exact takes_pidFile foreign p
      | socket => exact takes_socket foreign
      | serving file => exact .aborts file
      | cleanup file p => exact takes_cleanup foreign file p
  | fail =>
      cases point with
      | absent => exact .stays _
      | _ => exact .leaves _ (fun hp => nomatch hp)
  | closed =>
      cases point with
      | cleanup file p => exact .closes file p
      | _ => exact .stays _

end Steps

section Exclusion

variable {ι : Type} {i j : ι} {d d' : RunDir ι} {point point' : Point} {e : Event}

/-- What a process knows of the socket file at its points. -/
def Facts (i : ι) (d : RunDir ι) : Point → Prop
  | .serving file => d.sockFile = some file ∧ d.listener file = some i
  | .cleanup _ _ => ∀ file ∈ d.sockFile, d.listener file = none ∨ d.listener file = some i
  | .unique .removeSock => ∀ file ∈ d.sockFile, d.listener file = none
  | _ => True

theorem silent_of_refused (h : reached d = false) :
    ∀ file ∈ d.sockFile, d.listener file = none := by
  intro file hfile
  rw [Option.mem_def] at hfile
  simpa [reached, hfile] using h

theorem Sole.of_facts {w : Threads (RunDir ι) ι Point}
    (h : ∀ i, Facts i w.shared (w.own i)) : Sole w := by
  have hplace : ∀ i file, w.own i = .serving file →
      w.shared.sockFile = some file ∧ w.shared.listener file = some i := by
    intro i file hserving
    have hfacts := h i
    rw [hserving] at hfacts
    exact hfacts
  refine ⟨?_, hplace⟩
  intro i j file file' hi hj
  obtain ⟨hsock, hlistener⟩ := hplace i file hi
  obtain ⟨hsock', hlistener'⟩ := hplace j file' hj
  obtain rfl : file = file' := Option.some.inj (hsock.symm.trans hsock')
  exact Option.some.inj (hlistener.symm.trans hlistener')

variable [DecidableEq ι] {pid : ι → Nat}

theorem closeListener_cases (file : Nat) : (closeListener i d).listener file = d.listener file ∨
    d.listener file = some i ∧ (closeListener i d).listener file = none := by
  by_cases h : d.listener file = some i
  · exact .inr ⟨h, if_pos h⟩
  · exact .inl (if_neg h)

theorem closeListener_none {file : Nat} (h : d.listener file = none ∨ d.listener file = some i) :
    (closeListener i d).listener file = none := by
  rcases h with h | h <;> simp [closeListener, h]

theorem Facts.kept (hfacts : Facts i d point) (h : Takes pid i e d point d' point') :
    Facts i d' point' := by
  cases h with
  | stays => exact hfacts
  | closes file p =>
      intro f hf
      exact .inl (closeListener_none (hfacts f hf))
  | refused h => exact silent_of_refused h
  | binds foreign he h => exact ⟨rfl, Function.update_self ..⟩
  | aborts file =>
      intro f hf
      obtain rfl : file = f := Option.some.inj (hfacts.1.symm.trans hf)
      exact .inr hfacts.2
  | cleansPid file => exact hfacts
  | _ => trivial

/-- What a step does to the socket file, unless it makes one. -/
theorem sock_cases (h : Takes pid i e d point d' point') :
    (point = .socket ∧ d.sockFile = none ∧ ∃ foreign, e = .next foreign) ∨
      (d'.sockFile = d.sockFile ∨ d'.sockFile = none ∧ Removing point) ∧
        ∀ file, d'.listener file = d.listener file ∨
          d.listener file = some i ∧ d'.listener file = none := by
  cases h with
  | binds foreign he h => exact .inl ⟨rfl, h, foreign, he⟩
  | closes file p => exact .inr ⟨.inl rfl, closeListener_cases⟩
  | leaves point h => exact .inr ⟨.inl rfl, closeListener_cases⟩
  | cleansSock file => exact .inr ⟨.inr ⟨rfl, trivial⟩, closeListener_cases⟩
  | removesSock => exact .inr ⟨.inr ⟨rfl, trivial⟩, fun _ => .inl rfl⟩
  | _ => exact .inr ⟨.inl rfl, fun _ => .inl rfl⟩

/-- Another process keeps what it knows, unless it is about to remove a file and a step
makes one. -/
theorem Facts.stable (hne : j ≠ i) (hi : Facts i d point) (hj : Facts j d point')
    {after : Point} (h : Takes pid i e d point d' after)
    (hfree : point = .socket ∧ d.sockFile = none ∧ (∃ foreign, e = .next foreign) →
      ¬ Removing point') : Facts j d' point' := by
  rcases sock_cases h with hbinds | ⟨hsock, hlistener⟩
  · have hremoving := hfree hbinds
    cases point' with
    | serving file => exact absurd (hj.1.symm.trans hbinds.2.1) (fun hnone => nomatch hnone)
    | cleanup file p => exact absurd trivial hremoving
    | unique p =>
        cases p with
        | removeSock => exact absurd trivial hremoving
        | _ => trivial
    | _ => trivial
  · have hother : ∀ file, d.listener file = none ∨ d.listener file = some j →
        d'.listener file = d.listener file := by
      intro file hfile
      rcases hlistener file with hsame | ⟨hown, -⟩
      · exact hsame
      · rw [hown] at hfile
        simp [hne.symm] at hfile
    have hmem : ∀ file ∈ d'.sockFile, file ∈ d.sockFile := by
      intro file hfile
      rcases hsock with hsame | ⟨hnone, -⟩
      · rwa [hsame] at hfile
      · rw [hnone] at hfile
        cases hfile
    cases point' with
    | serving file =>
        refine ⟨?_, by rw [hother file (.inr hj.2), hj.2]⟩
        rcases hsock with hsame | ⟨-, hremoving⟩
        · exact hsame.trans hj.1
        · -- A process about to remove the file knows that nobody else listens at it.
          exfalso
          cases point with
          | unique p =>
              cases p with
              | removeSock => exact absurd (hj.2.symm.trans (hi file hj.1)) (fun h => nomatch h)
              | _ => exact hremoving
          | cleanup f p =>
              have howner := hi file hj.1
              rw [hj.2] at howner
              simp [hne] at howner
          | _ => exact hremoving
    | cleanup file p =>
        intro f hf
        rw [hother f (hj f (hmem f hf))]
        exact hj f (hmem f hf)
    | unique p =>
        cases p with
        | removeSock =>
            intro f hf
            rw [hother f (.inl (hj f (hmem f hf)))]
            exact hj f (hmem f hf)
        | _ => trivial
    | _ => trivial

theorem noninterference :
    Noninterference (daemonize pid) Undisturbed (fun _ : RunDir ι => True) Facts where
  keeps i e w hw _ := ⟨trivial, (hw.own i).kept (takes e (w.own i))⟩
  others i j e w hne hw hfree :=
    (hw.own i).stable hne (hw.own j) (takes e (w.own i)) fun hbinds => hfree hbinds j hne

/-- However many daemons start, end and crash side by side over whatever files: while no
socket file is made as another process is about to remove one, at most one serves, and it
is the one that a client reaches. -/
theorem sole_of_undisturbed {events : List (ι × Event)}
    (h : Along (step pid) Undisturbed (start d) events) :
    Sole (run (step pid) (start d) events) := by
  have hstart : Holds (fun _ => True) Facts (start d) := ⟨trivial, fun _ => trivial⟩
  exact .of_facts (noninterference.run hstart h).own

end Exclusion

section Instances

/-- Two processes with their PIDs. -/
def twoPids (i : Fin 2) : Nat := 4000 + i

/-- A daemon crashed and left its files. -/
def crashed : RunDir (Fin 2) where
  pidFile := some 0
  tmpPid := none
  sockFile := some 1
  text _ := ['7', '7', '\n']
  listener _ := none
  alive _ := false
  files := 2

def onward (order : List (Fin 2)) : List (Fin 2 × Event) :=
  order.map fun i => (i, .next false)

/-- One process starts over the files of a crashed daemon while another one looks at them, and
crashes; then the other one is started. -/
def takeover : List (Fin 2 × Event) :=
  onward [0, 0, 0, 1, 0, 1, 0, 1, 0, 0, 0, 0, 0, 1, 0, 0, 0] ++ [(0, .fail), (1, .fail)] ++
    onward (List.replicate 13 1)

/-- Both processes find the socket dead before one of them removes it. -/
def racing : List (Fin 2 × Event) :=
  onward [0, 0, 0, 0, 0, 0, 1, 1, 1, 1, 0, 0, 0, 0, 0, 0]

theorem sole_of_undisturbed_takeover :
    (run (step twoPids) (start crashed) takeover).own 1 = .serving 5 ∧
      Sole (run (step twoPids) (start crashed) takeover) :=
  ⟨by decide +kernel, sole_of_undisturbed (by decide +kernel)⟩

end Instances

end Xcplane.DaemonLock
