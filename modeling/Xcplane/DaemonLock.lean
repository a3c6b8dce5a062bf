import Mathlib.Data.Fintype.Basic
import Mathlib.Logic.Function.Basic
import Xcplane.Naming
import Xcplane.Lib.Threads

/-!
The files by which a daemon knows that it is the only one: the PID file and the socket in
the runtime directory. Any number of processes look for them, remove them and make them
side by side.
-/

namespace Xcplane.DaemonLock

open Xcplane.Lib

section Model

/-- The files of the runtime directory, by their numbers, and what the kernel knows: who
listens at a socket file and which PIDs are those of running daemons. -/
structure RunDir (ι : Type) where
  pidFile : Option Nat
  tmpPid : Option Nat
  sockFile : Option Nat
  text : Nat → List Char
  listener : Nat → Option ι
  alive : Int → Bool
  files : Nat

inductive UniquePoint
  | pidExists
  | readPid
  | ping (pid : Int)
  | removePid
  | sockExists
  | connect
  | removeSock
  deriving DecidableEq, Repr

inductive PidFilePoint
  | create
  | writePid (file : Nat)
  | writeLine (file : Nat)
  | rename
  deriving DecidableEq, Repr

inductive CleanupPoint
  | removePid
  | removeSock
  deriving DecidableEq, Repr

inductive Outcome (π : Type)
  | next (point : π)
  | ok
  | err

/-- Where a process is in its start and in its end. -/
inductive Point
  | absent
  | unique (point : UniquePoint)
  | pidFile (point : PidFilePoint)
  | socket
  | serving (file : Nat)
  | cleanup (file : Nat) (point : CleanupPoint)
  deriving DecidableEq, Repr

/-- A process takes its next step, where `foreign` tells whether some other program answers
to a PID; or it ends without a cleanup, or the listener that it has aborted is dropped. -/
inductive Event
  | next (foreign : Bool)
  | fail
  | closed
  deriving DecidableEq, Repr

/-- The digits of `str::parse` for an integer. -/
def magnitude (cs : List Char) : Option Nat :=
  if cs ≠ [] ∧ cs.all Char.isDigit then some (Nat.ofDigitChars 10 cs 0) else none

/-- `str::parse::<i32>`. -/
def parseI32 : List Char → Option Int
  | '-' :: cs => (magnitude cs).bind fun n => if n ≤ 2 ^ 31 then some (-n : Int) else none
  | '+' :: cs => (magnitude cs).bind fun n => if n < 2 ^ 31 then some (n : Int) else none
  | cs => (magnitude cs).bind fun n => if n < 2 ^ 31 then some (n : Int) else none

/-- What a write leaves of a text; a gap before it is filled with zeros. -/
def writeAt (text : List Char) (offset : Nat) (new : List Char) : List Char :=
  (text ++ List.replicate (offset - text.length) '\x00').take offset ++ new ++
    text.drop (offset + new.length)

variable {ι : Type}

def RunDir.setText (d : RunDir ι) (file : Nat) (text : List Char) : RunDir ι :=
  { d with text := Function.update d.text file text }

/-- A connection is accepted where the file is a socket somebody listens at. -/
def reached (d : RunDir ι) : Bool :=
  match d.sockFile with
  | some file => (d.listener file).isSome
  | none => false

def isUnique (foreign : Bool) (d : RunDir ι) : UniquePoint → RunDir ι × Outcome UniquePoint
  | .pidExists => (d, .next (if d.pidFile.isSome then .readPid else .sockExists))
  | .readPid =>
      match d.pidFile with
      | some file =>
          match parseI32 (Naming.trimChars (d.text file)) with
          | some pid => (d, .next (.ping pid))
          | none => (d, .next .removePid)
      | none => (d, .err)
  | .ping pid => if d.alive pid || foreign then (d, .err) else (d, .next .removePid)
  | .removePid =>
      match d.pidFile with
      | some _ => ({ d with pidFile := none }, .next .sockExists)
      | none => (d, .err)
  | .sockExists => if d.sockFile.isSome then (d, .next .connect) else (d, .ok)
  | .connect => if reached d then (d, .err) else (d, .next .removeSock)
  | .removeSock =>
      match d.sockFile with
      | some _ => ({ d with sockFile := none }, .ok)
      | none => (d, .err)

def createPidFile (pid : Nat) (d : RunDir ι) : PidFilePoint → RunDir ι × Outcome PidFilePoint
  | .create =>
      match d.tmpPid with
      | some file => (d.setText file [], .next (.writePid file))
      | none =>
          ({ d.setText d.files [] with tmpPid := some d.files, files := d.files + 1 },
            .next (.writePid d.files))
  | .writePid file =>
      (d.setText file (writeAt (d.text file) 0 (Nat.toDigits 10 pid)), .next (.writeLine file))
  | .writeLine file =>
      (d.setText file (writeAt (d.text file) (Nat.toDigits 10 pid).length ['\n']), .next .rename)
  | .rename =>
      match d.tmpPid with
      | some file => ({ d with pidFile := some file, tmpPid := none }, .ok)
      | none => (d, .err)

def cleanup (d : RunDir ι) : CleanupPoint → RunDir ι × Outcome CleanupPoint
  | .removePid =>
      match d.pidFile with
      | some _ => ({ d with pidFile := none }, .next .removeSock)
      | none => (d, .err)
  | .removeSock =>
      match d.sockFile with
      | some _ => ({ d with sockFile := none }, .ok)
      | none => (d, .err)

variable [DecidableEq ι]

/-- Binding makes the socket file, and fails where there is one. -/
def createSocket (i : ι) (d : RunDir ι) : RunDir ι × Option Nat :=
  match d.sockFile with
  | some _ => (d, none)
  | none =>
      ({ d with
          sockFile := some d.files
          listener := Function.update d.listener d.files (some i)
          files := d.files + 1 },
        some d.files)

def closeListener (i : ι) (d : RunDir ι) : RunDir ι :=
  { d with listener := fun file => if d.listener file = some i then none else d.listener file }

variable (pid : ι → Nat)

/-- The process is gone, and with it what it listened at; its files stay. -/
def leave (i : ι) (d : RunDir ι) : RunDir ι × Point :=
  ({ closeListener i d with alive := Function.update d.alive (pid i) false }, .absent)

/-- `daemonize` as far as it works on the two files. -/
def daemonize (i : ι) (e : Event) (d : RunDir ι) (point : Point) : RunDir ι × Point :=
  match e, point with
  | .next _, .absent =>
      ({ d with alive := Function.update d.alive (pid i) true }, .unique .pidExists)
  | .next foreign, .unique point =>
      match isUnique foreign d point with
      | (d', .next point') => (d', .unique point')
      | (d', .ok) => (d', .pidFile .create)
      | (d', .err) => leave pid i d'
  | .next _, .pidFile point =>
      match createPidFile (pid i) d point with
      | (d', .next point') => (d', .pidFile point')
      | (d', .ok) => (d', .socket)
      | (d', .err) => leave pid i d'
  | .next _, .socket =>
      match createSocket i d with
      | (d', some file) => (d', .serving file)
      | (d', none) => leave pid i d'
  | .next _, .serving file => (d, .cleanup file .removePid)
  | .next _, .cleanup file point =>
      match cleanup d point with
      | (d', .next point') => (d', .cleanup file point')
      | (d', _) => leave pid i d'
  | .fail, .absent => (d, .absent)
  | .fail, _ => leave pid i d
  | .closed, .cleanup file point => (closeListener i d, .cleanup file point)
  | .closed, _ => (d, point)

/-- Before any process has started; files of earlier ones may be there. -/
def start (d : RunDir ι) : Threads (RunDir ι) ι Point where
  shared := d
  own _ := .absent

def step (w : Threads (RunDir ι) ι Point) (e : ι × Event) : Threads (RunDir ι) ι Point :=
  advance (daemonize pid) w e

end Model

section Property

variable {ι : Type}

/-- Nobody is alive and nobody listens; the files may be there. -/
structure Leftover (d : RunDir ι) : Prop where
  silent : ∀ file, d.listener file = none
  dead : ∀ pid, d.alive pid = false

/-- A daemon that serves is the only one, and the socket file is the one it listens at. -/
structure Sole (w : Threads (RunDir ι) ι Point) : Prop where
  alone : ∀ i j file file', w.own i = .serving file → w.own j = .serving file' → i = j
  inPlace : ∀ i file, w.own i = .serving file →
    w.shared.sockFile = some file ∧ w.shared.listener file = some i

/-- The process will remove the socket file that it finds, whosever it is then. -/
def Removing : Point → Prop
  | .unique .removeSock => True
  | .cleanup _ _ => True
  | _ => False

/-- The step makes the socket file. -/
def Binds (w : Threads (RunDir ι) ι Point) (e : ι × Event) : Prop :=
  w.own e.1 = .socket ∧ w.shared.sockFile = none ∧ ∃ foreign, e.2 = .next foreign

/-- No socket file is made while another process is about to remove one. -/
def Undisturbed (w : Threads (RunDir ι) ι Point) (e : ι × Event) : Prop :=
  Binds w e → ∀ j, j ≠ e.1 → ¬ Removing (w.own j)

/-- The line that a process writes to the PID file. -/
def pidLine (pid : Nat) : List Char :=
  Nat.toDigits 10 pid ++ ['\n']

end Property

section Instances

instance : DecidablePred Removing
  | .unique .removeSock => isTrue trivial
  | .cleanup _ _ => isTrue trivial
  | .absent => isFalse id
  | .unique .pidExists => isFalse id
  | .unique .readPid => isFalse id
  | .unique (.ping _) => isFalse id
  | .unique .removePid => isFalse id
  | .unique .sockExists => isFalse id
  | .unique .connect => isFalse id
  | .pidFile _ => isFalse id
  | .socket => isFalse id
  | .serving _ => isFalse id

variable {ι : Type} (w : Threads (RunDir ι) ι Point) (e : ι × Event)

instance : Decidable (Binds w e) :=
  inferInstanceAs (Decidable (w.own e.1 = .socket ∧ w.shared.sockFile = none ∧
    ∃ foreign, e.2 = .next foreign))

instance [Fintype ι] [DecidableEq ι] : Decidable (Undisturbed w e) :=
  inferInstanceAs (Decidable (Binds w e → ∀ j, j ≠ e.1 → ¬ Removing (w.own j)))

end Instances

end Xcplane.DaemonLock
