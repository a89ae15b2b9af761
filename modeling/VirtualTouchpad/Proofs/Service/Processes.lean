/-
# Processes that serve sockets

Processes with servers share the files of a host.  Each claims a socket, and may then
remove what was at the socket's path, bind the socket, serve clients, reset its touchpads
and remove the socket, and end: in these steps, and with any steps of the other processes
in between.

What a step of a process does to the files is one of few changes (`Process.act_change`);
serving clients does nothing to them.
-/
import VirtualTouchpad.Proofs.Service.Stream
import VirtualTouchpad.Proofs.Sink.Offers
import VirtualTouchpad.Proofs.Touchpad.Lifecycle

namespace VirtualTouchpad

/-! ## Touchpads leave files alone -/

namespace Rig

theorem files_act (rig : Rig) (action : Action) : (rig.act action).1.files = rig.files := by
  rw [files, rack_act, Rack.files_performAll, files]

theorem files_finish (rig : Rig) : rig.finish.host.files = rig.files := by
  rw [finish_eq, Rack.files_performAll, files]

end Rig

namespace Service

open Control
open Json (Bytes)

theorem files_perform (rig : Rig) (command : Command) : (perform rig command).1.files = rig.files := by
  cases command with
  | ping | dump => rfl
  | attach => exact rig.files_act .attach
  | detach => exact rig.files_act .detach
  | touch touchpad x y pressure => exact rig.files_act (.touch touchpad.toNat x y pressure)
  | buttons touchpad mask => exact rig.files_act (.buttons touchpad.toNat mask)
  | scroll touchpad x y => exact rig.files_act (.scroll touchpad.toNat x y)

theorem files_answer (rig : Rig) (line : Bytes) : (answer rig line).1.files = rig.files := by
  cases hparse : Message.parse line with
  | ok message => rw [answer_message hparse, files_perform]
  | error fault => rw [answer_fault hparse]

theorem files_answerLines (rig : Rig) (lines : List Bytes) :
    (answerLines rig lines).1.files = rig.files := by
  rw [answerLines_eq]
  generalize readable lines = lines
  induction lines generalizing rig with
  | nil => rfl
  | cons line lines ih => rw [answered_cons, ih, files_answer]

namespace Server

variable (server : Server) (client : ClientId)

/-- A server before and after something that files, claim and socket do not hang on. -/
structure Alike (before after : Server) : Prop where
  socket : after.socket = before.socket
  claim : after.claim = before.claim
  files : after.rig.files = before.rig.files

theorem Alike.trans {before after last : Server} (h : Alike before after)
    (hlast : Alike after last) : Alike before last :=
  ⟨hlast.socket.trans h.socket, hlast.claim.trans h.claim, hlast.files.trans h.files⟩

theorem alike_settle : Alike server server.settle := by
  rw [settle]
  split
  · exact ⟨rfl, rfl, server.rig.files_finish⟩
  · exact ⟨rfl, rfl, rfl⟩

theorem alike_update {act : Connection → Rig → Connection × Rig × List Reply}
    (h : ∀ connection rig, (act connection rig).2.1.files = rig.files) :
    Alike server (server.update client act).1 := by
  have hupdated : Alike server ({ server with
      rig := (act (server.connection client) server.rig).2.1 }.setConnection client
        (act (server.connection client) server.rig).1) :=
    ⟨rfl, rfl, h _ _⟩
  exact hupdated.trans (alike_settle _)

theorem alike_receive (bytes : Bytes) : Alike server (server.receive client bytes).1 := by
  refine server.alike_update client fun connection rig => ?_
  cases connection with
  | closed => rfl
  | listening unfinished => exact files_answerLines rig _

theorem alike_hangUp : Alike server (server.hangUp client).1 := by
  have hfinish : ∀ (connection : Connection) (rig : Rig),
      (connection.finish rig).2.1.files = rig.files := by
    intro connection rig
    cases connection with
    | closed => rfl
    | listening unfinished => exact files_answerLines rig _
  exact (server.alike_update client hfinish).trans ⟨rfl, rfl, rfl⟩

/-! ## Servers step by step -/

/-- The server once it has removed what was at the path of its socket. -/
def clear : Server := server.withFiles (server.rig.files.remove server.socket)

/-- The server with its socket bound. -/
def bindSocket : Except IoError Server :=
  (server.rig.files.bind server.socket socketMode).map server.withFiles

/-- Listening comes to two steps; a server that cannot do the second one is at its end. -/
theorem listen_eq : server.listen =
    match server.clear.bindSocket with
    | .ok bound => (bound, .ok ())
    | .error e => (server.clear.abandon, .error [e.message]) := by
  have hfiles : server.clear.rig.files = server.rig.files.remove server.socket := rfl
  have hsocket : server.clear.socket = server.socket := rfl
  rw [listen, bindSocket, hfiles, hsocket]
  cases (server.rig.files.remove server.socket).bind server.socket socketMode <;> rfl

/-- The server with its touchpads reset and its socket removed. -/
def retire : Server :=
  let rig := server.rig.reset
  { server with rig := rig.withFiles (rig.files.remove server.socket) }

theorem stop_eq : server.stop = server.retire.abandon.settle := rfl

theorem files_retire : server.retire.rig.files = server.rig.files.remove server.socket :=
  congrArg (Files.remove · server.socket) (server.rig.files_act .reset)

end Server

/-! ## Processes -/

/-- How far a process is that serves a socket. -/
inductive Phase where
  /-- It has claimed the socket. -/
  | claimed
  /-- It has removed what was at the socket's path. -/
  | cleared
  /-- It has bound the socket. -/
  | listening
  /-- It could not bind the socket, or it has stopped listening. -/
  | ended
  deriving DecidableEq, Repr

/-- A process with a server; the server has a claim until it is dropped. -/
structure Process where
  server : Server
  pid : Nat
  phase : Phase

/-- What a process does after its claim. -/
inductive Deed where
  | clear
  | bind
  | receive (client : ClientId) (bytes : Bytes)
  | hangUp (client : ClientId)
  /-- It resets its touchpads and removes its socket. -/
  | retire
  /-- It drops its server, at any time. -/
  | drop

namespace Process

variable (p : Process)

/-- A process after a deed, if this is the time for it. -/
def act : Deed → Process
  | .clear =>
    if p.phase = .claimed ∧ p.server.claim.isSome then ⟨p.server.clear, p.pid, .cleared⟩ else p
  | .bind =>
    if p.phase = .cleared ∧ p.server.claim.isSome then
      match p.server.bindSocket with
      | .ok bound => ⟨bound, p.pid, .listening⟩
      | .error _ => { p with phase := .ended }
    else p
  | .receive client bytes => { p with server := (p.server.receive client bytes).1 }
  | .hangUp client => { p with server := (p.server.hangUp client).1 }
  | .retire =>
    if p.phase = .listening ∧ p.server.claim.isSome then ⟨p.server.retire, p.pid, .ended⟩ else p
  | .drop => if p.server.claim.isSome then { p with server := p.server.abandon.settle } else p

/-- What can become of a process and of the files by one deed. -/
inductive Change (p q : Process) : Prop
  /-- Nothing that another process could see, unless the process has failed. -/
  | unseen (hclaim : q.server.claim = p.server.claim) (hphase : q.phase = p.phase ∨ q.phase = .ended)
      (hfiles : q.server.rig.files = p.server.rig.files)
  | cleared (claim : Claim) (hclaim : p.server.claim = some claim)
      (hclaim' : q.server.claim = some claim) (hphase : p.phase = .claimed)
      (hphase' : q.phase = .cleared)
      (hfiles : q.server.rig.files = p.server.rig.files.remove p.server.socket)
  | bound (claim : Claim) (hclaim : p.server.claim = some claim)
      (hclaim' : q.server.claim = some claim) (hphase : p.phase = .cleared)
      (hphase' : q.phase = .listening)
      (hfiles : p.server.rig.files.bind p.server.socket socketMode = .ok q.server.rig.files)
  | retired (claim : Claim) (hclaim : p.server.claim = some claim)
      (hclaim' : q.server.claim = some claim) (hphase : p.phase = .listening)
      (hphase' : q.phase = .ended)
      (hfiles : q.server.rig.files = p.server.rig.files.remove p.server.socket)
  | dropped (claim : Claim) (hclaim : p.server.claim = some claim) (hclaim' : q.server.claim = none)
      (hfiles : q.server.rig.files = claim.release p.server.rig.files)

theorem change_of_alike {server : Server} (h : p.server.Alike server) :
    p.Change { p with server := server } :=
  .unseen h.claim (.inl rfl) h.files

/-- **One deed**: the process has the socket and the number that it had, and one of the changes took
place. -/
theorem act_change (deed : Deed) : (p.act deed).server.socket = p.server.socket ∧
    (p.act deed).pid = p.pid ∧ p.Change (p.act deed) := by
  have hnothing : p.server.socket = p.server.socket ∧ p.pid = p.pid ∧ p.Change p :=
    ⟨rfl, rfl, .unseen rfl (.inl rfl) rfl⟩
  cases deed with
  | clear =>
    rw [act]
    split
    · next h =>
      obtain ⟨claim, hclaim⟩ := Option.isSome_iff_exists.1 h.2
      exact ⟨rfl, rfl, .cleared claim hclaim hclaim h.1 rfl rfl⟩
    · exact hnothing
  | bind =>
    rw [act]
    split
    · next h =>
      obtain ⟨claim, hclaim⟩ := Option.isSome_iff_exists.1 h.2
      rw [Server.bindSocket]
      cases hfiles : p.server.rig.files.bind p.server.socket socketMode with
      | error cause => exact ⟨rfl, rfl, .unseen rfl (.inr rfl) rfl⟩
      | ok files => exact ⟨rfl, rfl, .bound claim hclaim hclaim h.1 rfl hfiles⟩
    · exact hnothing
  | receive client bytes =>
    have h := p.server.alike_receive client bytes
    exact ⟨h.socket, rfl, p.change_of_alike h⟩
  | hangUp client =>
    have h := p.server.alike_hangUp client
    exact ⟨h.socket, rfl, p.change_of_alike h⟩
  | retire =>
    rw [act]
    split
    · next h =>
      obtain ⟨claim, hclaim⟩ := Option.isSome_iff_exists.1 h.2
      exact ⟨rfl, rfl, .retired claim hclaim hclaim h.1 rfl p.server.files_retire⟩
    · exact hnothing
  | drop =>
    rw [act]
    split
    · next h =>
      obtain ⟨claim, hclaim⟩ := Option.isSome_iff_exists.1 h
      have habandon : p.server.abandon = { p.server with
          claim := none, rig := p.server.rig.withFiles (claim.release p.server.rig.files) } := by
        rw [Server.abandon, hclaim]
      have hsettle := p.server.abandon.alike_settle
      rw [habandon] at hsettle ⊢
      exact ⟨hsettle.socket, rfl, .dropped claim hclaim hsettle.claim hsettle.files⟩
    · exact hnothing

end Process

/-! ## Hosts with processes -/

/-- What happens on a host. -/
inductive HostEvent where
  /-- A process claims a socket for a rig. -/
  | start (rig : Rig) (socket : String) (pid : Nat)
  /-- One of the processes that have claimed sockets does something. -/
  | deed (i : Nat) (deed : Deed)

/-- Files, and the processes that claimed sockets, in the order in which they did. -/
structure Processes where
  files : Files
  all : List Process

namespace Processes

/-- No process has claimed a socket. -/
def none (files : Files) : Processes := ⟨files, []⟩

/-- One event. -/
def act (state : Processes) : HostEvent → Processes
  | .start rig socket pid =>
    match Server.new (rig.withFiles state.files) socket pid with
    | (rig, .ok server) => ⟨rig.files, state.all ++ [⟨server, pid, .claimed⟩]⟩
    | (rig, .error _) => ⟨rig.files, state.all⟩
  | .deed i deed =>
    match state.all[i]? with
    | .none => state
    | some p =>
      let p := { p with server := p.server.withFiles state.files }.act deed
      ⟨p.server.rig.files, state.all.set i p⟩

/-- Events one after another. -/
def run (state : Processes) (events : List HostEvent) : Processes := events.foldl act state

end Processes

end Service

end VirtualTouchpad
