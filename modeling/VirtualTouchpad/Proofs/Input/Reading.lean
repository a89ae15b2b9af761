/-
# Reading input events

The way back from bytes to events, and what a reader of a device makes of them: an
event of the slot axis selects a slot, and the events of a contact go to the slot that
is selected.  Slot 0 is selected when a device is new.
-/
import VirtualTouchpad.Input.Event

namespace VirtualTouchpad

/-! ## Events from bytes -/

namespace InputEvent

/-- A number from its bytes, low byte first. -/
def littleEndian : List UInt8 → Nat
  | [] => 0
  | byte :: bytes => byte.toNat + 256 * littleEndian bytes

/-- The event of 24 bytes. -/
def ofBytes (bytes : List UInt8) : InputEvent where
  eventType := UInt16.ofNat (littleEndian ((bytes.drop 16).take 2))
  code := UInt16.ofNat (littleEndian ((bytes.drop 18).take 2))
  value := (UInt32.ofNat (littleEndian ((bytes.drop 20).take 4))).toInt32

theorem littleEndian_wordBytes (w : UInt16) : littleEndian (wordBytes w) = w.toNat := by
  have hlt := w.toNat_lt
  simp only [wordBytes, littleEndian, UInt16.toNat_toUInt8, UInt16.toNat_shiftRight]
  have hshift : w.toNat >>> ((8 : UInt16).toNat % 16) = w.toNat / 256 := by
    rw [Nat.shiftRight_eq_div_pow]
    rfl
  rw [hshift]
  omega

theorem littleEndian_longBytes (w : UInt32) : littleEndian (longBytes w) = w.toNat := by
  have hlt := w.toNat_lt
  simp only [longBytes, littleEndian, UInt32.toNat_toUInt8, UInt32.toNat_shiftRight]
  have hshift₁ : w.toNat >>> ((8 : UInt32).toNat % 32) = w.toNat / 256 := by
    rw [Nat.shiftRight_eq_div_pow]
    rfl
  have hshift₂ : w.toNat >>> ((16 : UInt32).toNat % 32) = w.toNat / 65536 := by
    rw [Nat.shiftRight_eq_div_pow]
    rfl
  have hshift₃ : w.toNat >>> ((24 : UInt32).toNat % 32) = w.toNat / 16777216 := by
    rw [Nat.shiftRight_eq_div_pow]
    rfl
  rw [hshift₁, hshift₂, hshift₃]
  omega

/-- An event is read back from its bytes. -/
theorem ofBytes_bytes (e : InputEvent) : ofBytes e.bytes = e := by
  have htype : (e.bytes.drop 16).take 2 = wordBytes e.eventType := rfl
  have hcode : (e.bytes.drop 18).take 2 = wordBytes e.code := rfl
  have hvalue : (e.bytes.drop 20).take 4 = longBytes e.value.toUInt32 := rfl
  rw [ofBytes, htype, hcode, hvalue, littleEndian_wordBytes, littleEndian_wordBytes,
    littleEndian_longBytes]
  simp

end InputEvent

/-- The events of bytes; bytes at the end that make no whole event are left out. -/
def decode (bytes : List UInt8) : List InputEvent :=
  (List.range (bytes.length / 24)).map fun i =>
    InputEvent.ofBytes ((bytes.drop (24 * i)).take 24)

theorem decode_of_lt {bytes : List UInt8} (h : bytes.length < 24) : decode bytes = [] := by
  have hnone : bytes.length / 24 = 0 := Nat.div_eq_of_lt h
  rw [decode, hnone]
  rfl

theorem decode_append {block : List UInt8} (h : block.length = 24) (rest : List UInt8) :
    decode (block ++ rest) = InputEvent.ofBytes block :: decode rest := by
  have hlength : (block ++ rest).length / 24 = rest.length / 24 + 1 := by
    rw [List.length_append, h]
    omega
  have hhead : ((block ++ rest).drop (24 * 0)).take 24 = block := by
    rw [Nat.mul_zero, List.drop_zero, List.take_left' h]
  rw [decode, hlength, List.range_succ_eq_map, List.map_cons, List.map_map, hhead, decode]
  apply congrArg (InputEvent.ofBytes block :: ·)
  apply List.map_congr_left
  intro i _
  have hsplit : 24 * (i + 1) = block.length + 24 * i := by
    rw [h]
    omega
  rw [Function.comp, hsplit, List.drop_length_add_append]

/-- **Events are read back from their bytes.** -/
theorem decode_flatMap (events : List InputEvent) :
    decode (events.flatMap InputEvent.bytes) = events := by
  induction events with
  | nil => rfl
  | cons e events ih =>
    rw [List.flatMap_cons, decode_append e.length_bytes, InputEvent.ofBytes_bytes, ih]

/-! ## Slots -/

namespace InputEvent

/-- Whether an event selects a slot. -/
def isSlot (e : InputEvent) : Bool := e.eventType = EventType.abs ∧ e.code = AbsAxis.slot

/-- Whether an event goes to the slot that is selected. -/
def isContact (e : InputEvent) : Bool :=
  e.eventType = EventType.abs
    ∧ (e.code = AbsAxis.trackingId ∨ e.code = AbsAxis.positionX ∨ e.code = AbsAxis.positionY)

/-- The slot that is selected after an event. -/
def select (slot : Int32) (e : InputEvent) : Int32 := if e.isSlot then e.value else slot

/-- Events of other types than that of absolute axes are no contacts. -/
theorem isContact_of_ne {e : InputEvent} (h : e.eventType ≠ EventType.abs) :
    e.isContact = false := by
  simp [isContact, h]

/-- Nor do they select a slot. -/
theorem select_of_ne {e : InputEvent} (h : e.eventType ≠ EventType.abs) (slot : Int32) :
    e.select slot = slot := by
  simp [select, isSlot, h]

theorem isSlot_of_isContact {e : InputEvent} (h : e.isContact) : e.isSlot = false := by
  have hcode : e.code ≠ AbsAxis.slot := by
    intro hcode
    simp [isContact, hcode, AbsAxis.slot, AbsAxis.trackingId, AbsAxis.positionX,
      AbsAxis.positionY] at h
  simp [isSlot, hcode]

/-- Nor do contacts. -/
theorem select_of_isContact {e : InputEvent} (h : e.isContact) (slot : Int32) :
    e.select slot = slot := by
  simp [select, isSlot_of_isContact h]

end InputEvent

/-- The slot that is selected after some events. -/
def selected (slot : Int32) (events : List InputEvent) : Int32 := events.foldl InputEvent.select slot

theorem selected_append (slot : Int32) (events later : List InputEvent) :
    selected slot (events ++ later) = selected (selected slot events) later :=
  List.foldl_append

/-- The events of contacts with the slots that they go to. -/
def contacts (slot : Int32) : List InputEvent → List (Int32 × InputEvent)
  | [] => []
  | e :: events =>
    if e.isContact then (slot, e) :: contacts (e.select slot) events
    else contacts (e.select slot) events

/-- What a reader makes of the bytes of a device. -/
def readContacts (bytes : List UInt8) : List (Int32 × InputEvent) := contacts 0 (decode bytes)

end VirtualTouchpad
