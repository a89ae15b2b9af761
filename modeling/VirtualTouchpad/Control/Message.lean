/-
# Control messages

What is said over a control connection.  A client sends messages; each holds a
command and an identity of the client's choice.  Each is answered by a reply
with the same identity.
-/
import VirtualTouchpad.Touchpad.Failure

namespace VirtualTouchpad.Control

/-- What a client asks for. -/
inductive Command where
  /-- Nothing but an answer. -/
  | ping
  | attach
  | detach
  | touch (touchpad : UInt64) (x y pressure : Single)
  | buttons (touchpad : UInt64) (mask : UInt32)
  | scroll (touchpad : UInt64) (x y : Single)
  /-- A description of the touchpads, for people. -/
  | dump
  deriving DecidableEq, Repr

/-- What came of a command. -/
inductive Answer where
  | pong
  | ok
  | dump (text : String)
  | failed (kind : FailureKind) (message : String)
  deriving DecidableEq, Repr

/-- The answer that tells the outcome of a call on a touchpad. -/
def Answer.ofOutcome : Outcome → Answer
  | .ok () => .ok
  | .error failure => .failed failure.kind failure.message

/-- A command with its identity. -/
structure Message where
  id : String
  command : Command
  deriving DecidableEq, Repr

/-- An answer with the identity of the message that it answers. -/
structure Reply where
  id : String
  answer : Answer
  deriving DecidableEq, Repr

end VirtualTouchpad.Control
