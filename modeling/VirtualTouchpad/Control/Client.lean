/-
# Clients

A client makes one call at a time over its connection: it sends a message and
reads one line, which has to be the reply to that message.  What arrives beyond
that line is read by later calls.
-/
import VirtualTouchpad.Control.Wire
import VirtualTouchpad.Control.Lines
import VirtualTouchpad.Touchpad.Config

namespace VirtualTouchpad.Control

open Json (Bytes Fault)

/-! ## Failures of calls -/

/-- Why a call failed. -/
inductive CallFailure where
  /-- The message could not be sent. -/
  | unsent (cause : IoError)
  /-- The stream ended before the reply. -/
  | disconnected
  /-- The line is no text. -/
  | notText (fault : Utf8Fault)
  /-- The line is no reply. -/
  | unreadable (line : String) (fault : Fault)
  /-- The line is the reply to another message. -/
  | foreign (expected found : String)
  /-- The answer is none to such a command. -/
  | unexpected (answer : Answer)
  /-- The service refused the command. -/
  | refused (kind : FailureKind) (message : String)
  deriving DecidableEq, Repr

/-- An answer with its parts, for people. -/
def Answer.describe : Answer → String
  | .pong => "Pong"
  | .ok => "Ok"
  | .dump text => "Dump \x7b text: " ++ VirtualTouchpad.quoted text ++ " \x7d"
  | .failed kind message =>
    "Error \x7b kind: " ++ kind.name ++ ", message: " ++ VirtualTouchpad.quoted message ++ " \x7d"

/-- The wording of a failure. -/
def CallFailure.complaint : CallFailure → Complaint
  | .unsent cause => [cause.message]
  | .disconnected => ["Manager closed the connection"]
  | .notText fault => [fault.message]
  | .unreadable line fault => ["Failed to parse response: " ++ line, fault.message]
  | .foreign expected found =>
    ["Response ID mismatch: expected " ++ expected ++ ", got " ++ found]
  | .unexpected answer => ["Unexpected response: " ++ answer.describe]
  | .refused kind message => [kind.name ++ ": " ++ message]

/-- The wording for a socket that cannot be connected to. -/
def connectComplaint (socket : String) (cause : IoError) : Complaint :=
  ["Failed to connect to manager at " ++ socket, cause.message]

/-! ## Results of calls -/

/-- What a call gives: a text for a description, and nothing for any other command. -/
abbrev CallResult := Except CallFailure String

/-- The result of an answer that says only whether the command was carried out. -/
def Answer.plainResult : Answer → CallResult
  | .ok => .ok ""
  | .failed kind message => .error (.refused kind message)
  | answer => .error (.unexpected answer)

/-- The result of an answer to a command. -/
def Command.result (command : Command) (answer : Answer) : CallResult :=
  match command, answer with
  | .ping, .pong => .ok ""
  | .dump, .dump text => .ok text
  | _, answer => answer.plainResult

/-! ## Calls -/

/-- The line that carries a message. -/
def messageLine (message : Message) : Bytes := message.write ++ [newline]

/-- The client's end of a connection: the bytes that arrived and were not read yet, and whether the
other side has closed it. -/
structure Client where
  unread : Bytes
  ended : Bool
  deriving DecidableEq, Repr

namespace Client

/-- A client that was connected just now. -/
def connected : Client := ⟨[], false⟩

/-- Bytes arrive, and the stream may end after them. -/
def arrive (client : Client) (bytes : Bytes) (ends : Bool) : Client :=
  ⟨client.unread ++ bytes, client.ended || ends⟩

/-- The answer in a line that has to be the reply to the message with an identity. -/
def readReply (id : String) (line : Bytes) : Except CallFailure Answer :=
  match textOf? line with
  | none => .error (.notText ((Utf8.fault? line).getD ⟨0, none⟩))
  | some text =>
    match Reply.parse line with
    | .error fault => .error (.unreadable text fault)
    | .ok reply => if reply.id = id then .ok reply.answer else .error (.foreign id reply.id)

/-- Reads one line as the reply to the message with an identity. -/
def awaitReply (client : Client) (id : String) : Client × Except CallFailure Answer :=
  match firstLine client.unread with
  | ([], _) => (client, .error .disconnected)
  | (line, rest) => ({ client with unread := rest }, readReply id line)

/-- Makes a call, during which bytes arrive and the stream may end.  After the end nothing can be
sent. -/
def call (client : Client) (id : String) (command : Command) (arriving : Bytes) (ends : Bool) :
    Client × CallResult :=
  if client.ended then (client, .error (.unsent (.os Errno.brokenPipe)))
  else
    let (client, answer) := (client.arrive arriving ends).awaitReply id
    (client, answer.bind command.result)

end Client

end VirtualTouchpad.Control
