/-
# What is written on a line is read from it

A message or a reply is written without controls, so with a newline it is one
line, and reading that line gives it back, with the newline or without
(`reads_back`).  Nothing is asked of it but that its floats are numbers: JSON has
no text for the others.

Each record and each choice only tells which fields take which texts; the
reading itself is in `takes_record`, `takes_plain` and `takes_variant`.
-/
import VirtualTouchpad.Proofs.Json.Records
import VirtualTouchpad.Proofs.Json.Spellings
import VirtualTouchpad.Proofs.Control.Lines
import VirtualTouchpad.Control.Wire

namespace VirtualTouchpad.Control

open Json

/-! ## Commands -/

/-- Whether the floats of a command are numbers. -/
def Command.IsFinite : Command → Prop
  | .touch _ x y pressure => x.IsFinite ∧ y.IsFinite ∧ pressure.IsFinite
  | .scroll _ x y => x.IsFinite ∧ y.IsFinite
  | _ => True

theorem takes_readString (text : String) : Takes readString (writeText text) text :=
  takes_writeText "a string" text

namespace Arguments

variable {touchpad : UInt64} {x y pressure : Single}

theorem takes_touchShape (touchpad : UInt64) (hx : x.IsFinite) (hy : y.IsFinite)
    (hpressure : pressure.IsFinite) :
    Takes touchShape.read (writeObject [("touchpad", writeNat touchpad.toNat),
      ("x", writeSingle x), ("y", writeSingle y), ("pressure", writeSingle pressure)])
      (.touch touchpad x y pressure) :=
  takes_record (.cons touchpadField rfl rfl (takes_keep (takes_uint64 touchpad))
    (.cons xField rfl rfl (takes_keep (takes_writeSingle hx))
      (.cons yField rfl rfl (takes_keep (takes_writeSingle hy))
        (.cons pressureField rfl rfl (takes_keep (takes_writeSingle hpressure)) (.nil _))))) rfl

theorem takes_buttonShape (touchpad : UInt64) (mask : UInt32) :
    Takes buttonShape.read (writeObject [("touchpad", writeNat touchpad.toNat),
      ("buttons", writeNat mask.toNat)]) (.buttons touchpad mask) :=
  takes_record (.cons touchpadField rfl rfl (takes_keep (takes_uint64 touchpad))
    (.cons maskField rfl rfl (takes_keep (takes_uint32 mask)) (.nil _))) rfl

theorem takes_scrollShape (touchpad : UInt64) (hx : x.IsFinite) (hy : y.IsFinite) :
    Takes scrollShape.read (writeObject [("touchpad", writeNat touchpad.toNat),
      ("x", writeSingle x), ("y", writeSingle y)]) (.scroll touchpad x y) :=
  takes_record (.cons touchpadField rfl rfl (takes_keep (takes_uint64 touchpad))
    (.cons xField rfl rfl (takes_keep (takes_writeSingle hx))
      (.cons yField rfl rfl (takes_keep (takes_writeSingle hy)) (.nil _)))) rfl

end Arguments

/-- A written command is read back. -/
theorem takes_command {command : Command} (h : command.IsFinite) :
    Takes Command.read command.write command := by
  cases command with
  | ping => exact takes_plain rfl
  | attach => exact takes_plain rfl
  | detach => exact takes_plain rfl
  | touch touchpad x y pressure =>
    exact takes_variant rfl (Arguments.takes_touchShape touchpad h.1 h.2.1 h.2.2)
  | buttons touchpad mask => exact takes_variant rfl (Arguments.takes_buttonShape touchpad mask)
  | scroll touchpad x y =>
    exact takes_variant rfl (Arguments.takes_scrollShape touchpad h.1 h.2)
  | dump => exact takes_plain rfl

theorem takes_message {message : Message} (h : message.command.IsFinite) :
    Takes Message.shape.read message.write message :=
  takes_record (.cons _ rfl rfl (takes_keep (takes_readString message.id))
    (.cons _ rfl rfl (takes_keep (takes_command h)) (.nil _))) rfl

/-! ## Answers -/

theorem takes_kind (kind : FailureKind) : Takes readKind (writeText kind.name) kind := by
  cases kind <;> exact takes_plain rfl

/-- A written answer is read back. -/
theorem takes_answer (answer : Answer) : Takes Answer.read answer.write answer := by
  cases answer with
  | pong => exact takes_plain rfl
  | ok => exact takes_plain rfl
  | dump text =>
    have hdump : Takes AnswerDraft.dumpShape.read (writeObject [("text", writeText text)])
        (.dump text) :=
      takes_record (.cons _ rfl rfl (takes_keep (takes_readString text)) (.nil _)) rfl
    exact takes_variant rfl hdump
  | failed kind message =>
    have herror : Takes AnswerDraft.errorShape.read
        (writeObject [("kind", writeText kind.name), ("message", writeText message)])
        (.failed kind message) :=
      takes_record (.cons _ rfl rfl (takes_keep (takes_kind kind))
        (.cons _ rfl rfl (takes_keep (takes_readString message)) (.nil _))) rfl
    exact takes_variant rfl herror

theorem takes_reply (reply : Reply) : Takes Reply.shape.read reply.write reply :=
  takes_record (.cons _ rfl rfl (takes_keep (takes_readString reply.id))
    (.cons _ rfl rfl (takes_keep (takes_answer reply.answer)) (.nil _))) rfl

/-! ## Lines -/

theorem printable_command (command : Command) : Printable command.write := by
  cases command <;>
    simp [Command.write, printable_writeText, printable_writeNat, printable_writeSingle,
      printable_writeObject]

theorem printable_answer (answer : Answer) : Printable answer.write := by
  cases answer <;> simp [Answer.write, printable_writeText, printable_writeObject]

theorem printable_message (message : Message) : Printable message.write := by
  simp [Message.write, printable_writeText, printable_writeObject, printable_command]

theorem printable_reply (reply : Reply) : Printable reply.write := by
  simp [Reply.write, printable_writeText, printable_writeObject, printable_answer]

/-- A written value fits a line: it holds no control, so the newline after it is the only one, it is
a text, and it is read back with the newline or without. -/
structure ReadsBack {α : Type} (parse : Bytes → Except Fault α) (written : Bytes) (value : α) :
    Prop where
  controls : ∀ b ∈ written, 0x20 ≤ b
  line : splitLines (written ++ [newline]) = ([written ++ [newline]], [])
  isText : (textOf? (written ++ [newline])).isSome
  parse_line : parse (written ++ [newline]) = .ok value
  parse_written : parse written = .ok value

theorem newline_notMem_of_printable {bytes : Bytes} (h : Printable bytes) : newline ∉ bytes :=
  fun hmem => absurd (h.least newline hmem) (by decide)

/-- A printable line is a text, with its newline. -/
theorem isSome_textOf?_line {bytes : Bytes} (h : Printable bytes) :
    (textOf? (bytes ++ [newline])).isSome := by
  have hend : bytesOf "\n" = [newline] := by decide
  obtain ⟨text, htext⟩ := h.isText
  rw [← htext, ← hend, ← bytesOf_append, textOf?_bytesOf]
  rfl

theorem readsBack_of_takes {α : Type} {read : Reader α} {written : Bytes} {value : α}
    (hprintable : Printable written) (htakes : Takes read written value) :
    ReadsBack (readAll read) written value where
  controls := hprintable.least
  line := splitLines_line (newline_notMem_of_printable hprintable) []
  isText := isSome_textOf?_line hprintable
  parse_line := readAll_of_takes htakes (by decide)
  parse_written := by
    have hnone : List.all [] isBlankByte = true := rfl
    simpa using readAll_of_takes htakes hnone

/-- **What is written on a line is read from it**: a message whose floats are numbers, and any
reply. -/
theorem reads_back :
    (∀ message : Message, message.command.IsFinite →
      ReadsBack Message.parse message.write message) ∧
    ∀ reply : Reply, ReadsBack Reply.parse reply.write reply :=
  ⟨fun message h => readsBack_of_takes (printable_message message) (takes_message h),
    fun reply => readsBack_of_takes (printable_reply reply) (takes_reply reply)⟩

/-- The least and the greatest positive float, negative zero, and every kind of escape. -/
theorem reads_back_extremes :
    let message : Message := ⟨"\"\\/\x08\t\n\x0c\r\x00\x1f\x7fé€😀", .touch (.ofNat (2 ^ 64 - 1))
      (.ofMagnitude .single false 1) (.ofMagnitude .single true 0)
      (.ofMagnitude .single false 0x7F7FFFFF)⟩
    message.command.IsFinite ∧ ReadsBack Message.parse message.write message :=
  have hfinite : Command.IsFinite (.touch (.ofNat (2 ^ 64 - 1))
      (.ofMagnitude .single false 1) (.ofMagnitude .single true 0)
      (.ofMagnitude .single false 0x7F7FFFFF)) := by
    refine ⟨?_, ?_, ?_⟩ <;> decide
  ⟨hfinite, reads_back.1 _ hfinite⟩

end VirtualTouchpad.Control
