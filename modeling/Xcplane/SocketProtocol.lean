import Xcplane.Lib.Mailbox
import Xcplane.Naming
import Xcplane.RebaseDiff
import Xcplane.SetupTasks
import Xcplane.StatusReport

/-!
The commands that come through the socket: the listener and its connections, the channel of the
daemon with room for ten requests, and the loop that serves them. What the clients read is what
they would read if the daemon served each command at once.
-/

namespace Xcplane.SocketProtocol

open Xcplane.Types
open Xcplane.Lib
open Xcplane.Naming
open Xcplane.RebaseDiff
open Xcplane.DaemonCycle (DaemonNext)
open Xcplane.SetupTasks (TaskEntry)
open Xcplane.StatusReport (StatusOpts CloudSummary)

section Commands

structure ShowSecrets where
  showAll : Bool
  deriving DecidableEq, Repr

structure ExpandOpts where
  server : Option String
  deriving DecidableEq, Repr

structure DestroyOpts where
  server : String
  deriving DecidableEq, Repr

inductive CliComm
  | Daemon
  | Check
  | Restore
  | Restart
  | Shutdown
  | Reload
  | Remap
  | Rebase (opts : RebaseOpts)
  | Status (opts : StatusOpts)
  | ResetFix
  | Expand (opts : ExpandOpts)
  | Creds (secrets : ShowSecrets)
  | Clients
  | Destroy (opts : DestroyOpts)
  deriving DecidableEq, Repr

inductive DaemonComm
  | Reload
  | Remap
  | Rebase (opts : RebaseOpts)
  | Status (opts : StatusOpts)
  | Shutdown
  | Restart
  | ResetFix
  | Expand (opts : ExpandOpts)
  | Credentials (secrets : ShowSecrets)
  | Clients
  | SetupInquiry (entry : TaskEntry)
  | Destroy (opts : DestroyOpts)
  | Unknown
  deriving DecidableEq, Repr

def daemonCommand : CliComm → DaemonComm
  | .Restart => .Restart
  | .Shutdown => .Shutdown
  | .Status opts => .Status opts
  | .Reload => .Reload
  | .Remap => .Remap
  | .Rebase opts => .Rebase opts
  | .ResetFix => .ResetFix
  | .Expand opts => .Expand opts
  | .Creds secrets => .Credentials secrets
  | .Clients => .Clients
  | .Destroy opts => .Destroy opts
  | .Daemon => .Unknown
  | .Check => .Unknown
  | .Restore => .Unknown

end Commands

section Replies

structure ServerCreds where
  doh : String
  ui : String
  xuiUsername : Option String
  xuiPassword : Option String
  xuiToken : Option String
  deriving DecidableEq, Repr

inductive DaemonReply
  | Message (text : String)
  | Status (summary : CloudSummary)
  | Credentials (creds : List (String × ServerCreds))
  | Clients (clients : List (String × String))
  | SetupInquiry (found : Bool)
  deriving DecidableEq, Repr

abbrev Reply := Except BoxError DaemonReply

inductive SocketMessage
  | Ok (reply : DaemonReply)
  | Err (text : String)
  deriving DecidableEq, Repr

inductive ReplyFormat
  | Toml
  | Json
  deriving DecidableEq, Repr

def DaemonReply.replyFormat : DaemonReply → ReplyFormat
  | .Credentials _ => .Toml
  | .Clients _ => .Toml
  | _ => .Json

def socketMessage : Reply → SocketMessage
  | .ok reply => .Ok reply
  | .error e => .Err e

/-- The two formats, as the libraries write them, and the commands that are read from a line. -/
structure Formats where
  toml : SocketMessage → Except BoxError String
  json : SocketMessage → Except BoxError String
  fromStr : String → Option CliComm

variable (fmt : Formats)

def serializePretty (message : SocketMessage) : Except BoxError String :=
  match message with
  | .Ok (.Message text) => .ok text
  | .Ok reply => if reply.replyFormat = .Toml then fmt.toml message else fmt.json message
  | .Err _ => fmt.json message

/-- The listener task of a connection writes all of it, or nothing. -/
def rendered (reply : Reply) : Option String :=
  (serializePretty fmt (socketMessage reply)).toOption

end Replies

section Loop

variable {δ : Type}

/-- What the arms of the command loop call. An error of those that return one ends the daemon,
and `nextCycle` is all that happens until the loop is reached again. -/
structure Handlers (δ : Type) where
  status : δ → StatusOpts → Except BoxError (DaemonReply × δ)
  resetFix : δ → Except BoxError δ
  expandCloud : δ → ExpandOpts → Reply × δ
  buildServersCreds : δ → ShowSecrets → Reply
  getCloudClients : δ → Reply
  performServerDestruction : δ → DestroyOpts → Reply × δ
  setupInquiry : δ → TaskEntry → Bool × δ
  parseCloudConfig : δ → Except BoxError Cloud
  createRebaseData : δ → Cloud → RebaseOpts → Except BoxError (List (String × RebaseData))
  createBackup : δ → String → Except BoxError δ
  nextCycle : δ → DaemonNext → Except BoxError δ

variable (handlers : Handlers δ)

/-- The reply is sent before the cycle ends. -/
def startNext (daemon : δ) (action : String) (next : DaemonNext) : Outcome δ Reply :=
  match handlers.createBackup daemon action with
  | .error _ => ⟨none, none⟩
  | .ok daemon =>
      ⟨(handlers.nextCycle daemon next).toOption,
        some (.ok (.Message (action ++ " is being applied.")))⟩

def failedCheck (action : String) (e : BoxError) : BoxError :=
  "Cloud config file has failed the check. We can't proceed with '" ++ action ++ "'. Error: " ++ e

def checkAndBackup (daemon : δ) (action : String)
    (next : Cloud → Except BoxError DaemonNext) : Outcome δ Reply :=
  match handlers.parseCloudConfig daemon with
  | .error e => ⟨some daemon, some (.error (failedCheck action e))⟩
  | .ok newCloud =>
      match next newCloud with
      | .error e => ⟨some daemon, some (.error e)⟩
      | .ok next => startNext handlers daemon action next

/-- One turn of the command loop. -/
def serve (daemon : δ) : DaemonComm → Outcome δ Reply
  | .Shutdown => ⟨none, some (.ok (.Message "Shutting down"))⟩
  | .Status opts =>
      match handlers.status daemon opts with
      | .error _ => ⟨none, none⟩
      | .ok (summary, daemon) => ⟨some daemon, some (.ok summary)⟩
  | .ResetFix =>
      match handlers.resetFix daemon with
      | .error _ => ⟨none, none⟩
      | .ok daemon => ⟨some daemon, some (.ok (.Message "Reset done."))⟩
  | .Expand opts =>
      let (reply, daemon) := handlers.expandCloud daemon opts
      ⟨some daemon, some reply⟩
  | .Credentials secrets => ⟨some daemon, some (handlers.buildServersCreds daemon secrets)⟩
  | .Clients => ⟨some daemon, some (handlers.getCloudClients daemon)⟩
  | .Destroy opts =>
      let (reply, daemon) := handlers.performServerDestruction daemon opts
      ⟨some daemon, some reply⟩
  | .SetupInquiry entry =>
      let (found, daemon) := handlers.setupInquiry daemon entry
      ⟨some daemon, some (.ok (.SetupInquiry found))⟩
  | .Unknown => ⟨some daemon, none⟩
  | .Restart => checkAndBackup handlers daemon "Restart" fun newCloud =>
      .ok ⟨Constants.exitRestart, .Reload, newCloud, none⟩
  | .Reload => checkAndBackup handlers daemon "Reload" fun newCloud =>
      .ok ⟨Constants.exitReload, .Reload, newCloud, none⟩
  | .Remap => checkAndBackup handlers daemon "Remap" fun newCloud =>
      .ok ⟨Constants.exitRemap, .Remap, newCloud, none⟩
  | .Rebase opts =>
      checkAndBackup handlers daemon (if opts.forced then "Forced Rebase" else "Rebase")
        fun newCloud => do
          let rebaseData ← handlers.createRebaseData daemon newCloud opts
          .ok ⟨Constants.exitRebase, .Rebase, newCloud, some rebaseData⟩

end Loop

section Cycles

open Xcplane.DaemonCycle (Daemon Surroundings answer daemonCore)

variable {δ : Type} (w : Surroundings δ) (config : CloudConfig.TCloud)
  (handlers : Handlers (Daemon δ))

/-- The handlers of a daemon that does, between two turns of the loop, what a cycle does. -/
def cycling : Handlers (Daemon δ) :=
  { handlers with
    parseCloudConfig := fun _ => CloudConfig.parseCloudConfig w.env.forms w.draws config
    createRebaseData := fun d newCloud opts =>
      match d.cloud with
      | some currCloud =>
          RebaseDiff.createRebaseData w.env.forms opts w.inboundOrder currCloud newCloud
            (w.iteration newCloud)
      | none => .error "no cloud"
    createBackup := fun d _ => .ok d
    nextCycle := fun d next =>
      match d.cloud with
      | some currCloud =>
          let d' := daemonCore w next currCloud (Database.createDb d.db) d.dirs
          if d'.cloud.isSome then .ok d' else .error "daemon stopped"
      | none => .error "no cloud" }

def commandOf : DaemonCycle.DaemonComm → DaemonComm
  | .Restart => .Restart
  | .Reload => .Reload
  | .Remap => .Remap
  | .Rebase opts => .Rebase opts

theorem startNext_cycling {d : Daemon δ} {currCloud : Cloud} (hd : d.cloud = some currCloud)
    (action : String) (next : DaemonNext) :
    (startNext (cycling w config handlers) d action next).next =
      if (daemonCore w next currCloud (Database.createDb d.db) d.dirs).cloud.isSome then
        some (daemonCore w next currCloud (Database.createDb d.db) d.dirs)
      else none := by
  simp only [startNext, cycling, hd]
  split
  · rfl
  · rfl

/-- The loop answers the commands that go through a check as the cycles of the daemon do, and goes
on where these leave the daemon running. -/
theorem serve_cycling {d : Daemon δ} {currCloud : Cloud} (hd : d.cloud = some currCloud)
    (command : DaemonCycle.DaemonComm) :
    (serve (cycling w config handlers) d (commandOf command)).next =
      if (answer w config command d).cloud.isSome then some (answer w config command d)
      else none := by
  have hkept : some d = if d.cloud.isSome then some d else none := by
    rw [hd]
    rfl
  cases hparse : CloudConfig.parseCloudConfig w.env.forms w.draws config with
  | error e =>
      have hanswer : answer w config command d = d := by
        simp only [answer, hd, DaemonCycle.checkAndBackup, hparse, bind, Except.bind]
      have hserve : ∀ action next, (checkAndBackup (cycling w config handlers) d action next).next =
          some d := by
        intro action next
        simp only [checkAndBackup, cycling, hparse]
      rw [hanswer, ← hkept]
      cases command with
      | Rebase opts => exact hserve _ _
      | _ => exact hserve _ _
  | ok newCloud =>
      have hserve : ∀ action next, checkAndBackup (cycling w config handlers) d action next =
          match next newCloud with
          | .error e => ⟨some d, some (.error e)⟩
          | .ok next => startNext (cycling w config handlers) d action next := by
        intro action next
        simp only [checkAndBackup, cycling, hparse]
      cases command with
      | Rebase opts =>
          cases hdata : RebaseDiff.createRebaseData w.env.forms opts w.inboundOrder currCloud
              newCloud (w.iteration newCloud) with
          | error e =>
              have hanswer : answer w config (.Rebase opts) d = d := by
                simp only [answer, hd, DaemonCycle.checkAndBackup, hparse, hdata, bind, Except.bind]
              rw [hanswer, ← hkept, commandOf, serve, hserve]
              simp only [cycling, hd, hdata, bind, Except.bind]
          | ok rebaseData =>
              rw [commandOf, serve, hserve]
              simp only [answer, hd, DaemonCycle.checkAndBackup, hparse, hdata, bind, Except.bind]
              have hcreate : (cycling w config handlers).createRebaseData d newCloud opts =
                  .ok rebaseData := by
                simp only [cycling, hd, hdata]
              rw [hcreate]
              exact startNext_cycling w config handlers hd _ _
      | _ =>
          simp only [answer, hd, DaemonCycle.checkAndBackup, hparse, bind, Except.bind]
          rw [commandOf, serve, hserve]
          exact startNext_cycling w config handlers hd _ _

end Cycles

section Sockets

/-- The room in the channel of the daemon. -/
def channelSize : Nat := 10

/-- A connection with the line that its client has sent, and what the client has read once it is
closed. -/
inductive Socket
  | unopened
  | opened (line : String)
  | closed (line : String) (read : List Char)
  | hungUp
  deriving DecidableEq, Repr

/-- Connections, and tasks of the daemon itself that use its channel. -/
abbrev Caller (ι κ : Type) := ι ⊕ κ

structure Listening (ι κ δ : Type) where
  mail : Mailbox (Caller ι κ) δ DaemonComm Reply
  sockets : ι → Socket

inductive Event (ι κ δ : Type)
  | connect (i : ι) (line : String)
  | call (k : κ) (command : DaemonComm)
  | post (caller : Caller ι κ)
  | serve
  | evolve (daemon : δ)
  | stop
  | giveUp (caller : Caller ι κ)
  | finish (i : ι)
  | cut (i : ι) (n : Nat)
  | hangUp (i : ι)
  | receive (k : κ)
  | abort (k : κ)

variable {ι κ δ : Type} [DecidableEq ι] [DecidableEq κ] (fmt : Formats) (handlers : Handlers δ)

def start (daemon : δ) : Listening ι κ δ where
  mail := .start daemon
  sockets _ := .unopened

def send (w : Listening ι κ δ) (m : MailEvent (Caller ι κ) δ DaemonComm) : Listening ι κ δ :=
  { w with mail := w.mail.step channelSize (serve handlers) m }

def setSocket (w : Listening ι κ δ) (i : ι) (socket : Socket) : Listening ι κ δ :=
  { w with sockets := Function.update w.sockets i socket }

/-- What the listener task writes, which is nothing where the channel of the reply is closed. -/
def written (reply : Option Reply) : List Char :=
  ((reply.bind (rendered fmt)).map String.toList).getD []

def writtenOf : Call DaemonComm Reply → List Char
  | .answered reply => written fmt reply
  | _ => []

/-- A line that is not a command is not answered. Where the process ends, a reply may be cut. -/
def step (w : Listening ι κ δ) : Event ι κ δ → Listening ι κ δ
  | .connect i line =>
      match w.mail.server, w.sockets i, fmt.fromStr (trim line) with
      | some _, .unopened, some command =>
          setSocket (send handlers w (.invoke (.inl i) (daemonCommand command))) i (.opened line)
      | some _, .unopened, none => setSocket w i (.closed line [])
      | _, _, _ => w
  | .call k command => send handlers w (.invoke (.inr k) command)
  | .post caller => send handlers w (.post caller)
  | .serve => send handlers w .serve
  | .evolve daemon => send handlers w (.evolve daemon)
  | .stop => send handlers w .stop
  | .giveUp caller => send handlers w (.giveUp caller)
  | .finish i =>
      match w.mail.calls (.inl i), w.sockets i with
      | .answered reply, .opened line =>
          setSocket (send handlers w (.respond (.inl i))) i (.closed line (written fmt reply))
      | _, _ => w
  | .cut i n =>
      match w.mail.server, w.sockets i with
      | none, .opened line =>
          setSocket (send handlers w (.leave (.inl i))) i
            (.closed line ((writtenOf fmt (w.mail.calls (.inl i))).take n))
      | _, _ => w
  | .hangUp i => setSocket (send handlers w (.leave (.inl i))) i .hungUp
  | .receive k => send handlers w (.respond (.inr k))
  | .abort k => send handlers w (.leave (.inr k))

end Sockets

section Property

variable {ι κ δ : Type} (fmt : Formats) (handlers : Handlers δ) (evolves : δ → δ → Prop)

/-- What the client of a line reads: nothing unless it is a command that was served, and else the
reply to it, as a whole as long as the daemon goes on. -/
def Read (mail : Mailbox (Caller ι κ) δ DaemonComm Reply) (i : ι) (line : String)
    (cs : List Char) : Prop :=
  match fmt.fromStr (trim line) with
  | none => cs = []
  | some command =>
      (∃ d ∈ mail.served, d.caller = .inl i ∧ d.request = daemonCommand command ∧
        cs <+: written fmt d.reply ∧ (mail.server ≠ none → cs = written fmt d.reply)) ∨
      cs = [] ∧ mail.server = none

/-- The order in which the daemon served its requests explains all that the clients read. -/
structure Explains (daemon : δ) (w : Listening ι κ δ) : Prop where
  linear : Linearizes w.mail.history w.mail.served
  serial : Serial (serve handlers) evolves daemon w.mail.served w.mail.server
  read : ∀ i line cs, w.sockets i = .closed line cs → Read fmt w.mail i line cs

/-- What changes the daemon by itself is its own. -/
def Evolves (w : Listening ι κ δ) : Event ι κ δ → Prop
  | .evolve daemon' => ∀ daemon, w.mail.server = some daemon → evolves daemon daemon'
  | _ => True

end Property

section Invariant

variable {ι κ δ : Type} {fmt : Formats} {handlers : Handlers δ} {evolves : δ → δ → Prop}
  {daemon : δ} {w : Listening ι κ δ} {mail mail' : Mailbox (Caller ι κ) δ DaemonComm Reply}
  {i : ι} {e : Event ι κ δ} {line : String}
  {cs : List Char} {reply : Option Reply}

/-- An open connection waits for the reply to the command of its line. -/
def Waits (fmt : Formats) (mail : Mailbox (Caller ι κ) δ DaemonComm Reply) (i : ι)
    (line : String) : Prop :=
  ∃ command, fmt.fromStr (trim line) = some command ∧
    .invoke (.inl i) (daemonCommand command) ∈ mail.history ∧ ¬ (mail.calls (.inl i)).Over

def Settled (fmt : Formats) (mail : Mailbox (Caller ι κ) δ DaemonComm Reply) (i : ι) :
    Socket → Prop
  | .unopened => mail.calls (.inl i) = .absent
  | .opened line => Waits fmt mail i line
  | .closed line cs => Read fmt mail i line cs
  | .hungUp => True

structure Inv (fmt : Formats) (handlers : Handlers δ) (evolves : δ → δ → Prop) (daemon : δ)
    (w : Listening ι κ δ) : Prop where
  mail : w.mail.Inv channelSize (serve handlers) evolves daemon
  sockets : ∀ i, Settled fmt w.mail i (w.sockets i)

theorem Read.mono (h : Read fmt mail i line cs)
    (hserved : ∀ d ∈ mail.served, d ∈ mail'.served)
    (hserver : mail.server = none → mail'.server = none) : Read fmt mail' i line cs := by
  unfold Read at h ⊢
  split
  next hparse =>
    rw [hparse] at h
    exact h
  next command hparse =>
    rw [hparse] at h
    rcases h with ⟨d, hd, hcaller, hrequest, hread, hwhole⟩ | ⟨hread, hnone⟩
    · refine .inl ⟨d, hserved d hd, hcaller, hrequest, hread, ?_⟩
      exact fun hserver' => hwhole (mt hserver hserver')
    · exact .inr ⟨hread, hserver hnone⟩

/-- What is read from a connection whose call has come to its end. -/
theorem Inv.read (h : Inv fmt handlers evolves daemon w) (hwaits : Waits fmt w.mail i line)
    (hcall : w.mail.calls (.inl i) = .answered reply) (hread : cs <+: written fmt reply)
    (hwhole : w.mail.server ≠ none → cs = written fmt reply) : Read fmt w.mail i line cs := by
  obtain ⟨command, hparse, hinvoke, -⟩ := hwaits
  have hfacts := h.mail.facts (.inl i)
  rw [hcall] at hfacts
  rw [Read, hparse]
  rcases hfacts.2 with ⟨d, hd, hcaller, rfl⟩ | ⟨rfl, hnone⟩
  · have hcalled := h.mail.linearizes.called d hd
    rw [hcaller] at hcalled
    exact .inl ⟨d, hd, hcaller, h.mail.invoke_unique hcalled hinvoke, hread, hwhole⟩
  · exact .inr ⟨List.prefix_nil.mp hread, hnone⟩

theorem inv_start (fmt : Formats) (handlers : Handlers δ) (evolves : δ → δ → Prop) (daemon : δ) :
    Inv fmt handlers evolves daemon (start daemon : Listening ι κ δ) where
  mail := Mailbox.inv_start ..
  sockets _ := rfl

/-- The event neither begins nor ends the call of the connection. -/
def Apart (i : ι) (m : MailEvent (Caller ι κ) δ DaemonComm) : Prop :=
  (∀ command, m ≠ .invoke (.inl i) command) ∧ m ≠ .respond (.inl i) ∧ m ≠ .leave (.inl i)

theorem apart_of_ne {j : ι} (hji : j ≠ i) :
    (∀ command, Apart j (.invoke (.inl i) command : MailEvent (Caller ι κ) δ DaemonComm)) ∧
      Apart j (.respond (.inl i) : MailEvent (Caller ι κ) δ DaemonComm) ∧
        Apart j (.leave (.inl i) : MailEvent (Caller ι κ) δ DaemonComm) := by
  simp [Apart, Ne.symm hji]

theorem Inv.explains (h : Inv fmt handlers evolves daemon w) :
    Explains fmt handlers evolves daemon w where
  linear := h.mail.linearizes
  serial := h.mail.serial
  read i line cs hsocket := by
    have hsettled := h.sockets i
    rw [hsocket] at hsettled
    exact hsettled

variable [DecidableEq ι]

theorem setSocket_self (socket : Socket) : (setSocket w i socket).sockets i = socket :=
  Function.update_self ..

theorem setSocket_of_ne {j : ι} (socket : Socket) (h : j ≠ i) :
    (setSocket w i socket).sockets j = w.sockets j :=
  Function.update_of_ne h ..

theorem Inv.setSocket (h : Inv fmt handlers evolves daemon w) {socket : Socket}
    (hsettled : Settled fmt w.mail i socket) :
    Inv fmt handlers evolves daemon (setSocket w i socket) where
  mail := h.mail
  sockets j := by
    by_cases hji : j = i
    · subst hji
      rw [setSocket_self]
      exact hsettled
    · rw [setSocket_of_ne socket hji]
      exact h.sockets j

variable [DecidableEq κ]

theorem Settled.moved {m : MailEvent (Caller ι κ) δ DaemonComm} {socket : Socket}
    (h : Settled fmt mail i socket) (hmoved : mail.Moved channelSize (serve handlers) m mail')
    (hapart : Apart i m) : Settled fmt mail' i socket := by
  cases socket with
  | unopened => exact hmoved.absent h hapart.1
  | opened line =>
      obtain ⟨command, hparse, hinvoke, hover⟩ := h
      exact ⟨command, hparse, hmoved.history hinvoke, hmoved.over hover hapart.2.1 hapart.2.2⟩
  | closed line cs => exact Read.mono h (fun _ => hmoved.served) hmoved.server
  | hungUp => trivial

theorem Inv.send (h : Inv fmt handlers evolves daemon w)
    {m : MailEvent (Caller ι κ) δ DaemonComm} (hevolves : w.mail.Evolves evolves m)
    (hapart : ∀ i, Apart i m) : Inv fmt handlers evolves daemon (send handlers w m) where
  mail := h.mail.moved hevolves (Mailbox.moved_step ..)
  sockets i := (h.sockets i).moved (Mailbox.moved_step channelSize (serve handlers) w.mail m)
    (hapart i)

/-- What begins or ends the call of a connection changes its socket, too. -/
theorem Inv.send_setSocket (h : Inv fmt handlers evolves daemon w)
    {m : MailEvent (Caller ι κ) δ DaemonComm} {socket : Socket}
    (hevolves : w.mail.Evolves evolves m) (hapart : ∀ j, j ≠ i → Apart j m)
    (hsettled : Settled fmt (SocketProtocol.send handlers w m).mail i socket) :
    Inv fmt handlers evolves daemon
      (SocketProtocol.setSocket (SocketProtocol.send handlers w m) i socket) where
  mail := h.mail.moved hevolves (Mailbox.moved_step ..)
  sockets j := by
    by_cases hji : j = i
    · subst hji
      rw [setSocket_self]
      exact hsettled
    · rw [setSocket_of_ne socket hji]
      exact (h.sockets j).moved (Mailbox.moved_step channelSize (serve handlers) w.mail m)
        (hapart j hji)

theorem step_inv (h : Inv fmt handlers evolves daemon w) (hevolves : Evolves evolves w e) :
    Inv fmt handlers evolves daemon (step fmt handlers w e) := by
  cases e with
  | connect i line =>
      simp only [step]
      split
      next server command hserver hsocket hparse =>
        refine h.send_setSocket trivial (fun j hji => (apart_of_ne hji).1 _) ?_
        have habsent := h.sockets i
        rw [hsocket] at habsent
        change w.mail.calls (.inl i) = .absent at habsent
        have hsend : (send handlers w (.invoke (.inl i) (daemonCommand command))).mail =
            (w.mail.setCall (.inl i) (.waiting (daemonCommand command))).record
              (.invoke (.inl i) (daemonCommand command)) := by
          simp only [send, Mailbox.step, habsent]
        rw [hsend]
        refine ⟨command, hparse, Mailbox.mem_record.mpr (.inr rfl), ?_⟩
        change ¬ ((w.mail.setCall (.inl i) (.waiting (daemonCommand command))).calls (.inl i)).Over
        rw [Mailbox.setCall_calls_self]
        exact id
      next hparse =>
        apply h.setSocket
        rw [Settled, Read, hparse]
      next => exact h
  | call k command => exact h.send trivial fun i => by simp [Apart]
  | post caller => exact h.send trivial fun i => by simp [Apart]
  | serve => exact h.send trivial fun i => by simp [Apart]
  | evolve daemon' => exact h.send hevolves fun i => by simp [Apart]
  | stop => exact h.send trivial fun i => by simp [Apart]
  | giveUp caller => exact h.send trivial fun i => by simp [Apart]
  | finish i =>
      simp only [step]
      split
      next reply line hcall hsocket =>
        have hwaits := h.sockets i
        rw [hsocket] at hwaits
        have hread := h.read hwaits hcall (List.prefix_refl _) fun _ => rfl
        refine h.send_setSocket trivial (fun j hji => (apart_of_ne hji).2.1) ?_
        have hmoved := Mailbox.moved_step channelSize (serve handlers) w.mail (.respond (.inl i))
        exact hread.mono (fun _ => hmoved.served) hmoved.server
      next => exact h
  | cut i n =>
      simp only [step]
      split
      next line hserver hsocket =>
        have hwaits := h.sockets i
        rw [hsocket] at hwaits
        refine h.send_setSocket trivial (fun j hji => (apart_of_ne hji).2.2) ?_
        have hmoved := Mailbox.moved_step channelSize (serve handlers) w.mail (.leave (.inl i))
        apply Read.mono ?_ (fun _ => hmoved.served) hmoved.server
        cases hcall : w.mail.calls (.inl i) with
        | answered reply =>
            refine h.read hwaits hcall (List.take_prefix n _) ?_
            intro hrunning
            exact absurd hserver hrunning
        | _ =>
            obtain ⟨command, hparse, -, -⟩ := hwaits
            rw [Read, hparse]
            exact .inr ⟨List.take_nil, hserver⟩
      next => exact h
  | hangUp i => exact h.send_setSocket trivial (fun j hji => (apart_of_ne hji).2.2) trivial
  | receive k => exact h.send trivial fun i => by simp [Apart]
  | abort k => exact h.send trivial fun i => by simp [Apart]

theorem Inv.run {events : List (Event ι κ δ)} (h : Inv fmt handlers evolves daemon w)
    (hevents : Along (step fmt handlers) (Evolves evolves) w events) :
    Inv fmt handlers evolves daemon (run (step fmt handlers) w events) :=
  run_preserves (fun _ _ => step_inv) h hevents

end Invariant

section Progress

variable {ι κ δ : Type} {fmt : Formats} {handlers : Handlers δ} {evolves : δ → δ → Prop}
  {daemon : δ} {w : Listening ι κ δ} {i : ι} {e : Event ι κ δ} {line : String}

/-- Calls that were begun go on, and nothing else happens. -/
def Goes (w : Listening ι κ δ) : Event ι κ δ → Prop
  | .post caller => w.mail.Goes channelSize (.post caller)
  | .serve => w.mail.Goes channelSize .serve
  | .giveUp caller => w.mail.Goes channelSize (.giveUp caller)
  | .finish i => w.mail.Goes channelSize (.respond (.inl i)) ∧ ∃ line, w.sockets i = .opened line
  | .receive k => w.mail.Goes channelSize (.respond (.inr k))
  | _ => False

theorem goes_step [DecidableEq ι] [DecidableEq κ] (h : Inv fmt handlers evolves daemon w)
    (he : Goes w e) : (step fmt handlers w e).mail.remaining < w.mail.remaining := by
  cases e with
  | post caller => exact h.mail.step_lt he
  | serve => exact h.mail.step_lt he
  | giveUp caller => exact h.mail.step_lt he
  | finish i =>
      obtain ⟨hgoes, line, hsocket⟩ := he
      have hlt := h.mail.step_lt hgoes
      obtain ⟨reply, hcall⟩ := hgoes
      simp only [step, hcall, hsocket]
      exact hlt
  | receive k => exact h.mail.step_lt he
  | _ => cases he

theorem evolves_of_goes (he : Goes w e) : Evolves evolves w e := by
  cases e with
  | evolve daemon => cases he
  | _ => trivial

theorem Inv.length_le [DecidableEq ι] [DecidableEq κ] {events : List (Event ι κ δ)}
    (h : Inv fmt handlers evolves daemon w) (hgoes : Along (step fmt handlers) Goes w events) :
    events.length ≤ w.mail.remaining := by
  induction events generalizing w with
  | nil => exact Nat.zero_le _
  | cons e events ih =>
      obtain ⟨he, hevents⟩ := hgoes
      have hlt := goes_step h he
      have hrest := ih (step_inv h (evolves_of_goes he)) hevents
      rw [List.length_cons]
      omega

theorem Inv.none_opened (h : Inv fmt handlers evolves daemon w)
    (hstuck : ∀ e : Event ι κ δ, ¬ Goes w e) (i : ι) (line : String) :
    w.sockets i ≠ .opened line := by
  intro hsocket
  have hwaits := h.sockets i
  rw [hsocket] at hwaits
  obtain ⟨command, -, -, hover⟩ := hwaits
  apply hover
  apply h.mail.over_of_stuck (by decide) (hstuck .serve) (hstuck (.post (.inl i)))
    (hstuck (.giveUp (.inl i)))
  exact fun hgoes => hstuck (.finish i) ⟨hgoes, line, hsocket⟩

end Progress

section Results

variable {ι κ δ : Type} [DecidableEq ι] [DecidableEq κ] {fmt : Formats} {handlers : Handlers δ}
  {evolves : δ → δ → Prop} {daemon : δ} {events later : List (Event ι κ δ)}

/-- In every interleaving of any number of clients, of the listener and of the daemon, what the
clients read is explained by the order in which the daemon served their commands. -/
theorem clients_explained
    (h : Along (step fmt handlers) (Evolves evolves) (start daemon) events) :
    Explains fmt handlers evolves daemon (run (step fmt handlers) (start daemon) events) :=
  ((inv_start fmt handlers evolves daemon).run h).explains

/-- The connections that are open come to an end after a bounded number of steps, whatever the
order of these: where nothing can go on, none is open. -/
theorem clients_answered
    (h : Along (step fmt handlers) (Evolves evolves) (start daemon) events)
    (hlater : Along (step fmt handlers) Goes (run (step fmt handlers) (start daemon) events)
      later) :
    later.length ≤ (run (step fmt handlers) (start daemon) events).mail.remaining ∧
      ((∀ e, ¬ Goes (run (step fmt handlers) (start daemon) (events ++ later)) e) → ∀ i line,
        (run (step fmt handlers) (start daemon) (events ++ later)).sockets i ≠ .opened line) := by
  have hinv := (inv_start (ι := ι) (κ := κ) fmt handlers evolves daemon).run h
  refine ⟨hinv.length_le hlater, ?_⟩
  have hlater' : Along (step fmt handlers) (Evolves evolves)
      (run (step fmt handlers) (start daemon) events) later :=
    along_imp (fun _ _ => evolves_of_goes) hlater
  have hinv' := (inv_start (ι := ι) (κ := κ) fmt handlers evolves daemon).run
    (along_append_iff.mpr ⟨h, hlater'⟩)
  exact hinv'.none_opened

end Results

section Instances

open Xcplane.StatusReport (Loop handle oneEnded)

def ofAnswer : StatusReport.DaemonReply → DaemonReply
  | .Status summary => .Status summary
  | .Message text => .Message text

/-- The arms that talk to the monitors, for a cloud without servers. -/
def monitorHandlers : Handlers Loop where
  status loop opts :=
    match handle loop (.Status opts) with
    | .goesOn reply loop => .ok (ofAnswer reply, loop)
    | .returns e => .error e
  resetFix loop :=
    match handle loop .ResetFix with
    | .goesOn _ loop => .ok loop
    | .returns e => .error e
  expandCloud loop _ := (.error "no server", loop)
  buildServersCreds _ _ := .ok (.Credentials [])
  getCloudClients _ := .ok (.Clients [])
  performServerDestruction loop _ := (.error "no server", loop)
  setupInquiry loop _ := (false, loop)
  parseCloudConfig _ := .error "no file"
  createRebaseData _ _ _ := .ok []
  createBackup loop _ := .ok loop
  nextCycle loop _ := .ok loop

def plain : Formats where
  toml _ := .ok ""
  json _ := .ok ""
  fromStr line :=
    if line = "\"ResetFix\"" then some .ResetFix
    else if line = "\"Shutdown\"" then some .Shutdown
    else none

/-- The second client comes later and is served first. -/
def overtaken : List (Event Bool Empty Loop) :=
  [.connect false "\"ResetFix\"\n", .connect true "\"Shutdown\"\n", .post (.inl true)]

def rest : List (Event Bool Empty Loop) :=
  [.post (.inl false), .serve, .giveUp (.inl false), .finish true, .finish false]

theorem clients_explained_overtaken :
    Explains plain monitorHandlers Eq oneEnded
        (run (step plain monitorHandlers) (start oneEnded) (overtaken ++ rest)) ∧
      (run (step plain monitorHandlers) (start oneEnded) (overtaken ++ rest)).sockets =
        fun i => if i then .closed "\"Shutdown\"\n" "Shutting down".toList
          else .closed "\"ResetFix\"\n" [] := by
  refine ⟨clients_explained ?_, ?_⟩
  · simp [overtaken, rest, Along, Evolves]
  · funext i
    cases i with
    | false => rfl
    | true => rfl

theorem stuck_of_returned {ι κ δ : Type} {w : Listening ι κ δ} (hserver : w.mail.server = none)
    (hcalls : ∀ caller, w.mail.calls caller = .returned) (e : Event ι κ δ) : ¬ Goes w e := by
  cases e with
  | post caller => exact fun h => h.2.1 hserver
  | serve => exact fun h => h.1 hserver
  | giveUp caller =>
      rintro ⟨-, ⟨a, hwaiting⟩ | hposted⟩
      · cases (hcalls caller).symm.trans hwaiting
      · cases (hcalls caller).symm.trans hposted
  | finish i =>
      rintro ⟨⟨reply, hanswered⟩, -⟩
      cases (hcalls (.inl i)).symm.trans hanswered
  | receive k =>
      rintro ⟨reply, hanswered⟩
      cases (hcalls (.inr k)).symm.trans hanswered
  | _ => exact id

/-- The daemon has ended and both calls have returned, so no connection is open any more. -/
theorem clients_answered_overtaken :
    rest.length ≤ (run (step plain monitorHandlers) (start oneEnded) overtaken).mail.remaining ∧
      ∀ i line, (run (step plain monitorHandlers) (start oneEnded)
        (overtaken ++ rest)).sockets i ≠ .opened line := by
  have hovertaken : Along (step plain monitorHandlers) (Evolves Eq) (start oneEnded)
      overtaken := by
    simp [overtaken, Along, Evolves]
  have hrest : Along (step plain monitorHandlers) Goes
      (run (step plain monitorHandlers) (start oneEnded) overtaken) rest :=
    ⟨⟨⟨_, rfl⟩, Option.some_ne_none _, by decide⟩,
      ⟨Option.some_ne_none _, List.cons_ne_nil _ _⟩, ⟨rfl, .inr rfl⟩, ⟨⟨_, rfl⟩, _, rfl⟩,
      ⟨⟨_, rfl⟩, _, rfl⟩, trivial⟩
  have hreturned : ∀ caller, (run (step plain monitorHandlers) (start oneEnded)
      (overtaken ++ rest)).mail.calls caller = .returned := by
    rintro (i | k)
    · cases i with
      | false => rfl
      | true => rfl
    · cases k
  obtain ⟨hbounded, hclosed⟩ := clients_answered hovertaken hrest
  exact ⟨hbounded, hclosed (stuck_of_returned rfl hreturned)⟩

end Instances

end Xcplane.SocketProtocol
