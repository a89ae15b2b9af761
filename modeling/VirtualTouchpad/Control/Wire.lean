/-
# Control messages on the wire

Messages and replies as JSON.  Writing gives objects without blanks; a written
message holds no newline, so it fits a line.  Reading takes the members of an
object in any order and skips the ones that it does not know.
-/
import VirtualTouchpad.Control.Message
import VirtualTouchpad.Json.Typed
import VirtualTouchpad.Json.Writer

namespace VirtualTouchpad.Control

open Json

/-! ## Writing -/

/-- A command in JSON: its name, or an object that gives its name the arguments. -/
def Command.write : Command → Bytes
  | .ping => writeText "Ping"
  | .attach => writeText "Attach"
  | .detach => writeText "Detach"
  | .touch touchpad x y pressure =>
    writeObject [("Touch", writeObject [("touchpad", writeNat touchpad.toNat),
      ("x", writeSingle x), ("y", writeSingle y), ("pressure", writeSingle pressure)])]
  | .buttons touchpad mask =>
    writeObject [("ButtonState", writeObject [("touchpad", writeNat touchpad.toNat),
      ("buttons", writeNat mask.toNat)])]
  | .scroll touchpad x y =>
    writeObject [("Scroll", writeObject [("touchpad", writeNat touchpad.toNat),
      ("x", writeSingle x), ("y", writeSingle y)])]
  | .dump => writeText "Dump"

/-- An answer in JSON. -/
def Answer.write : Answer → Bytes
  | .pong => writeText "Pong"
  | .ok => writeText "Ok"
  | .dump text => writeObject [("Dump", writeObject [("text", writeText text)])]
  | .failed kind message =>
    writeObject [("Error", writeObject [("kind", writeText kind.name),
      ("message", writeText message)])]

/-- A message in JSON. -/
def Message.write (message : Message) : Bytes :=
  writeObject [("id", writeText message.id), ("command", message.command.write)]

/-- A reply in JSON. -/
def Reply.write (reply : Reply) : Bytes :=
  writeObject [("id", writeText reply.id), ("result", reply.answer.write)]

/-! ## Reading commands -/

/-- Reads a text. -/
def readString : Reader String := readText "a string"

/-- The arguments of a command that were read so far. -/
structure Arguments where
  touchpad : Option UInt64 := none
  x : Option Single := none
  y : Option Single := none
  pressure : Option Single := none
  mask : Option UInt32 := none

namespace Arguments

/-- The number of the touchpad. -/
def touchpadField : RecordField Arguments :=
  .keep "touchpad" touchpad readUInt64 fun a v => { a with touchpad := some v }

/-- The horizontal part of a sample. -/
def xField : RecordField Arguments := .keep "x" x readSingle fun a v => { a with x := some v }

/-- The vertical part of a sample. -/
def yField : RecordField Arguments := .keep "y" y readSingle fun a v => { a with y := some v }

/-- The pressure of a touch sample. -/
def pressureField : RecordField Arguments :=
  .keep "pressure" pressure readSingle fun a v => { a with pressure := some v }

/-- The mask of the buttons that are pressed. -/
def maskField : RecordField Arguments :=
  .keep "buttons" mask readUInt32 fun a v => { a with mask := some v }

/-- The arguments of a touch sample. -/
def touchShape : RecordShape Arguments Command where
  title := "struct variant ControlCommand::Touch"
  fields := [touchpadField, xField, yField, pressureField]
  blank := {}
  finish := fun a => do
    let touchpad ← RecordField.require "touchpad" a.touchpad
    let x ← RecordField.require "x" a.x
    let y ← RecordField.require "y" a.y
    let pressure ← RecordField.require "pressure" a.pressure
    .ok (.touch touchpad x y pressure)

/-- The arguments of a report of buttons. -/
def buttonShape : RecordShape Arguments Command where
  title := "struct variant ControlCommand::ButtonState"
  fields := [touchpadField, maskField]
  blank := {}
  finish := fun a => do
    let touchpad ← RecordField.require "touchpad" a.touchpad
    let mask ← RecordField.require "buttons" a.mask
    .ok (.buttons touchpad mask)

/-- The arguments of a scroll sample. -/
def scrollShape : RecordShape Arguments Command where
  title := "struct variant ControlCommand::Scroll"
  fields := [touchpadField, xField, yField]
  blank := {}
  finish := fun a => do
    let touchpad ← RecordField.require "touchpad" a.touchpad
    let x ← RecordField.require "x" a.x
    let y ← RecordField.require "y" a.y
    .ok (.scroll touchpad x y)

end Arguments

/-- Reads a command. -/
def Command.read : Reader Command :=
  readChoice [.plain "Ping" .ping, .plain "Attach" .attach, .plain "Detach" .detach,
    .record "Touch" Arguments.touchShape.read, .record "ButtonState" Arguments.buttonShape.read,
    .record "Scroll" Arguments.scrollShape.read, .plain "Dump" .dump]

/-- The members of a message that were read so far. -/
structure MessageDraft where
  id : Option String := none
  command : Option Command := none

/-- The shape of a message. -/
def Message.shape : RecordShape MessageDraft Message where
  title := "struct ControlMessage"
  fields := [
    .keep "id" MessageDraft.id readString fun d v => { d with id := some v },
    .keep "command" MessageDraft.command Command.read fun d v => { d with command := some v }]
  blank := {}
  finish := fun d => do
    let id ← RecordField.require "id" d.id
    let command ← RecordField.require "command" d.command
    .ok ⟨id, command⟩

/-- Reads a message from a whole text. -/
def Message.parse (input : Bytes) : Except Fault Message := readAll Message.shape.read input

/-! ## Reading answers -/

/-- Reads the kind of a failure. -/
def readKind : Reader FailureKind :=
  readChoice ([.invalidArgument, .notSupported, .sequencing, .sink].map
    fun kind => .plain kind.name kind)

/-- The parts of an answer that were read so far. -/
structure AnswerDraft where
  text : Option String := none
  kind : Option FailureKind := none
  message : Option String := none

/-- The shape of a description. -/
def AnswerDraft.dumpShape : RecordShape AnswerDraft Answer where
  title := "struct variant ControlResult::Dump"
  fields := [.keep "text" AnswerDraft.text readString fun d v => { d with text := some v }]
  blank := {}
  finish := fun d => do
    let text ← RecordField.require "text" d.text
    .ok (.dump text)

/-- The shape of a failure. -/
def AnswerDraft.errorShape : RecordShape AnswerDraft Answer where
  title := "struct variant ControlResult::Error"
  fields := [
    .keep "kind" AnswerDraft.kind readKind fun d v => { d with kind := some v },
    .keep "message" AnswerDraft.message readString fun d v => { d with message := some v }]
  blank := {}
  finish := fun d => do
    let kind ← RecordField.require "kind" d.kind
    let message ← RecordField.require "message" d.message
    .ok (.failed kind message)

/-- Reads an answer. -/
def Answer.read : Reader Answer :=
  readChoice [.plain "Pong" .pong, .plain "Ok" .ok, .record "Dump" AnswerDraft.dumpShape.read,
    .record "Error" AnswerDraft.errorShape.read]

/-- The members of a reply that were read so far. -/
structure ReplyDraft where
  id : Option String := none
  answer : Option Answer := none

/-- The shape of a reply. -/
def Reply.shape : RecordShape ReplyDraft Reply where
  title := "struct ControlResponse"
  fields := [
    .keep "id" ReplyDraft.id readString fun d v => { d with id := some v },
    .keep "result" ReplyDraft.answer Answer.read fun d v => { d with answer := some v }]
  blank := {}
  finish := fun d => do
    let id ← RecordField.require "id" d.id
    let answer ← RecordField.require "result" d.answer
    .ok ⟨id, answer⟩

/-- Reads a reply from a whole text. -/
def Reply.parse (input : Bytes) : Except Fault Reply := readAll Reply.shape.read input

end VirtualTouchpad.Control
