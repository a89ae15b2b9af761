/-
# Messages with a float that is no number

JSON has no text for a NaN or an infinity.  Both are written as `null`, which the
reader of a float refuses, and with it the whole message (`parse_message_of_null`).
Read as a value, the message still tells its identity.
-/
import VirtualTouchpad.Proofs.Control.RoundTrip
import VirtualTouchpad.Proofs.Json.Refusals
import VirtualTouchpad.Proofs.Json.Values

namespace VirtualTouchpad.Control

open Json

/-- The fault of a `null` where a float was asked for. -/
def nullFault : Fault := .wrongType .null "f32"

variable {x y pressure : Single}

/-- What is written for a float that is no number is refused. -/
theorem refuses_single (hx : ¬ x.IsFinite) : Refuses readSingle (writeSingle x) nullFault := by
  intro rest _
  have hblank : isBlankByte (ascii 'n') = false := by decide
  have hword : bytesOf "null" = ascii 'n' :: bytesOf "ull" := by decide
  have hdigit : ¬ (ascii 'n' = ascii '-' ∨ isDigitByte (ascii 'n') = true) := by decide
  rw [writeSingle_of_not_isFinite hx, hword, List.cons_append]
  simp only [readSingle, readNumeric, dropBlanks_cons _ hblank, if_neg hdigit, mismatch, if_true,
    finishWord_append, Except.map, nullFault]

namespace Arguments

theorem refuses_touchShape (touchpad : UInt64)
    (h : ¬ (x.IsFinite ∧ y.IsFinite ∧ pressure.IsFinite)) :
    Refuses touchShape.read (writeObject [("touchpad", writeNat touchpad.toNat),
      ("x", writeSingle x), ("y", writeSingle y), ("pressure", writeSingle pressure)])
      nullFault := by
  by_cases hx : x.IsFinite
  · by_cases hy : y.IsFinite
    · have hpressure : ¬ pressure.IsFinite := fun hpressure => h ⟨hx, hy, hpressure⟩
      have hbefore : Fills touchShape.fields touchShape.blank [("touchpad", writeNat touchpad.toNat),
          ("x", writeSingle x), ("y", writeSingle y)] ⟨some touchpad, some x, some y, none, none⟩ :=
        .cons touchpadField rfl rfl (takes_keep (takes_uint64 touchpad))
          (.cons xField rfl rfl (takes_keep (takes_writeSingle hx))
            (.cons yField rfl rfl (takes_keep (takes_writeSingle hy)) (.nil _)))
      exact refuses_record [] hbefore rfl rfl (refuses_keep (refuses_single hpressure))
    · have hbefore : Fills touchShape.fields touchShape.blank [("touchpad", writeNat touchpad.toNat),
          ("x", writeSingle x)] ⟨some touchpad, some x, none, none, none⟩ :=
        .cons touchpadField rfl rfl (takes_keep (takes_uint64 touchpad))
          (.cons xField rfl rfl (takes_keep (takes_writeSingle hx)) (.nil _))
      exact refuses_record [_] hbefore rfl rfl (refuses_keep (refuses_single hy))
  · have hbefore : Fills touchShape.fields touchShape.blank [("touchpad", writeNat touchpad.toNat)]
        ⟨some touchpad, none, none, none, none⟩ :=
      .cons touchpadField rfl rfl (takes_keep (takes_uint64 touchpad)) (.nil _)
    exact refuses_record [_, _] hbefore rfl rfl (refuses_keep (refuses_single hx))

theorem refuses_scrollShape (touchpad : UInt64) (h : ¬ (x.IsFinite ∧ y.IsFinite)) :
    Refuses scrollShape.read (writeObject [("touchpad", writeNat touchpad.toNat),
      ("x", writeSingle x), ("y", writeSingle y)]) nullFault := by
  by_cases hx : x.IsFinite
  · have hy : ¬ y.IsFinite := fun hy => h ⟨hx, hy⟩
    have hbefore : Fills scrollShape.fields scrollShape.blank [("touchpad", writeNat touchpad.toNat),
        ("x", writeSingle x)] ⟨some touchpad, some x, none, none, none⟩ :=
      .cons touchpadField rfl rfl (takes_keep (takes_uint64 touchpad))
        (.cons xField rfl rfl (takes_keep (takes_writeSingle hx)) (.nil _))
    exact refuses_record [] hbefore rfl rfl (refuses_keep (refuses_single hy))
  · have hbefore : Fills scrollShape.fields scrollShape.blank
        [("touchpad", writeNat touchpad.toNat)] ⟨some touchpad, none, none, none, none⟩ :=
      .cons touchpadField rfl rfl (takes_keep (takes_uint64 touchpad)) (.nil _)
    exact refuses_record [_] hbefore rfl rfl (refuses_keep (refuses_single hx))

end Arguments

theorem refuses_command {command : Command} (h : ¬ command.IsFinite) :
    Refuses Command.read command.write nullFault := by
  cases command with
  | touch touchpad x y pressure =>
    exact refuses_variant rfl (Arguments.refuses_touchShape touchpad h)
  | scroll touchpad x y => exact refuses_variant rfl (Arguments.refuses_scrollShape touchpad h)
  | ping | attach | detach | buttons | dump => exact absurd trivial h

/-- A line with a float that is no number is no message. -/
theorem parse_message_of_null {message : Message} (h : ¬ message.command.IsFinite) :
    Message.parse (message.write ++ [newline]) = .error nullFault := by
  have hbefore : Fills Message.shape.fields Message.shape.blank [("id", writeText message.id)]
      ⟨some message.id, none⟩ :=
    .cons _ rfl rfl (takes_keep (takes_readString message.id)) (.nil _)
  exact readAll_of_refuses (refuses_record [] hbefore rfl rfl (refuses_keep (refuses_command h)))
    (endsNumber_cons [] (by decide))

/-! ## The identity -/

/-- A written command is a value, of at most three levels. -/
theorem exists_takes_command (depth : Nat) (command : Command) :
    ∃ value, Takes (Value.readNested (depth + 3)) command.write value := by
  have htouchpad (touchpad : UInt64) :
      ∃ value, Takes (Value.readNested (depth + 1)) (writeNat touchpad.toNat) value :=
    ⟨_, Value.takes_writeNat depth touchpad.toNat_lt⟩
  have hsingle (x : Single) : ∃ value, Takes (Value.readNested (depth + 1)) (writeSingle x) value :=
    Value.takes_writeSingle depth x
  cases command with
  | ping | attach | detach | dump => exact ⟨_, Value.takes_text (depth + 2) _⟩
  | touch touchpad x y pressure =>
    refine Value.exists_takes_object (List.forall_mem_singleton.2 (Value.exists_takes_object ?_))
    simp [htouchpad, hsingle]
  | buttons touchpad mask =>
    have hsize : UInt32.size < UInt64.size := by decide
    have hmask : ∃ value, Takes (Value.readNested (depth + 1)) (writeNat mask.toNat) value :=
      ⟨_, Value.takes_writeNat depth (mask.toNat_lt.trans hsize)⟩
    refine Value.exists_takes_object (List.forall_mem_singleton.2 (Value.exists_takes_object ?_))
    simp [htouchpad, hmask]
  | scroll touchpad x y =>
    refine Value.exists_takes_object (List.forall_mem_singleton.2 (Value.exists_takes_object ?_))
    simp [htouchpad, hsingle]

/-- The line of any message is an object that tells the message's identity. -/
theorem exists_parse_message (message : Message) :
    ∃ command, Value.parse (message.write ++ [newline]) =
      .ok (.object [("id", .text message.id), ("command", command)]) := by
  obtain ⟨command, hcommand⟩ := exists_takes_command 124 message.command
  have hobject : Takes (Value.readNested 128) message.write
      (.object [("id", .text message.id), ("command", command)]) :=
    Value.takes_object (.cons ⟨rfl, Value.takes_text 126 message.id⟩ (.cons ⟨rfl, hcommand⟩ .nil))
  exact ⟨command, readAll_of_takes hobject (by decide)⟩

end VirtualTouchpad.Control
