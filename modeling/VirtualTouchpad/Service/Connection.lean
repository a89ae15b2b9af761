/-
# Connections

What a service does with the bytes that a client sends.  The stream is cut into
lines; each line is answered by one reply, also a line that is no message.  A
line that is no text closes the connection, and what follows it has no effect.

A connection only keeps the bytes of its unfinished line, so it does not matter
in which pieces the bytes arrive.
-/
import VirtualTouchpad.Control.Wire
import VirtualTouchpad.Json.Value
import VirtualTouchpad.Control.Lines
import VirtualTouchpad.Touchpad.Rig

namespace VirtualTouchpad.Service

open Control
open Json (Bytes Fault Value)

/-! ## Commands -/

/-- Carries out a command. -/
def perform (rig : Rig) : Command → Rig × Answer
  | .ping => (rig, .pong)
  | .attach => report rig.attach
  | .detach => report rig.detach
  | .touch touchpad x y pressure => report (rig.touch touchpad.toNat x y pressure)
  | .buttons touchpad mask => report (rig.buttonState touchpad.toNat mask)
  | .scroll touchpad x y => report (rig.scroll touchpad.toNat x y)
  | .dump => (rig, .dump rig.describe)
where
  /-- The outcome of a call as an answer. -/
  report : Rig × Outcome → Rig × Answer := fun (rig, outcome) => (rig, .ofOutcome outcome)

/-! ## Lines -/

/-- The identity that a line gives itself, if it is an object with one; otherwise it is empty. -/
def claimedId (line : Bytes) : String :=
  match Value.parse line with
  | .ok value => ((value.member? "id").bind Value.text?).getD ""
  | .error _ => ""

/-- The reply to a line that is no message. -/
def rejection (line : Bytes) (fault : Fault) : Reply :=
  ⟨claimedId line, .failed .invalidArgument ("Malformed command: " ++ fault.message)⟩

/-- Answers one line. -/
def answer (rig : Rig) (line : Bytes) : Rig × Reply :=
  match Message.parse line with
  | .ok message =>
    let (rig, result) := perform rig message.command
    (rig, ⟨message.id, result⟩)
  | .error fault => (rig, rejection line fault)

/-- Answers lines in order up to the first that is no text; `false` says that there is one. -/
def answerLines (rig : Rig) : List Bytes → Rig × List Reply × Bool
  | [] => (rig, [], true)
  | line :: lines =>
    if (textOf? line).isNone then (rig, [], false)
    else
      let (rig, reply) := answer rig line
      let (rig, replies, alive) := answerLines rig lines
      (rig, reply :: replies, alive)

/-! ## Connections -/

/-- One connection. -/
inductive Connection where
  /-- The bytes of the unfinished line. -/
  | listening (unfinished : Bytes)
  | closed
  deriving DecidableEq, Repr

namespace Connection

/-- A new connection. -/
def opened : Connection := .listening []

/-- Takes bytes and answers the lines that they finish. -/
def receive (connection : Connection) (rig : Rig) (bytes : Bytes) :
    Connection × Rig × List Reply :=
  match connection with
  | .closed => (.closed, rig, [])
  | .listening unfinished =>
    let (lines, rest) := splitLines (unfinished ++ bytes)
    let (rig, replies, alive) := answerLines rig lines
    (if alive then .listening rest else .closed, rig, replies)

/-- Takes the end of the stream and answers an unfinished line. -/
def finish (connection : Connection) (rig : Rig) : Connection × Rig × List Reply :=
  match connection with
  | .closed => (.closed, rig, [])
  | .listening unfinished =>
    let (rig, replies, _) := answerLines rig (if unfinished = [] then [] else [unfinished])
    (.closed, rig, replies)

/-- Takes bytes in pieces, and gives all replies. -/
def receiveAll (connection : Connection) (rig : Rig) :
    List Bytes → Connection × Rig × List Reply
  | [] => (connection, rig, [])
  | bytes :: pieces =>
    let (connection, rig, replies) := connection.receive rig bytes
    let (connection, rig, later) := connection.receiveAll rig pieces
    (connection, rig, replies ++ later)

end Connection

/-- The line that carries a reply. -/
def replyLine (reply : Reply) : Bytes := reply.write ++ [newline]

end VirtualTouchpad.Service
