/-
# Input events

The records that an input device reports, the codes that virtual touchpads use,
and the identity that a device shows.

An event is 24 bytes: an empty time stamp, then type, code and value with the
low byte first.
-/
import VirtualTouchpad.Text.Utf8

namespace VirtualTouchpad

/-! ## Codes -/

namespace EventType

/-- The end of a frame. -/
def syn : UInt16 := 0x00

/-- A key or button. -/
def key : UInt16 := 0x01

/-- A relative axis. -/
def rel : UInt16 := 0x02

/-- An absolute axis. -/
def abs : UInt16 := 0x03

end EventType

namespace KeyCode

/-- The "back" button. -/
def back : UInt16 := 0x116

/-- Contact with the surface. -/
def touch : UInt16 := 0x14A

/-- The greatest key code. -/
def greatest : UInt16 := 0x2FF

end KeyCode

namespace RelAxis

/-- The horizontal wheel. -/
def horizontalWheel : UInt16 := 0x06

/-- The vertical wheel. -/
def wheel : UInt16 := 0x08

/-- The greatest relative axis. -/
def greatest : UInt16 := 0x0F

end RelAxis

namespace AbsAxis

/-- The slot that the following events of a contact belong to. -/
def slot : UInt16 := 0x2F

/-- The horizontal position of a contact. -/
def positionX : UInt16 := 0x35

/-- The vertical position of a contact. -/
def positionY : UInt16 := 0x36

/-- The identity of a contact; a negative one ends it. -/
def trackingId : UInt16 := 0x39

/-- The greatest absolute axis. -/
def greatest : UInt16 := 0x3F

end AbsAxis

namespace InputProperty

/-- The surface is what the user looks at. -/
def direct : UInt16 := 0x01

/-- The greatest property. -/
def greatest : UInt16 := 0x1F

end InputProperty

/-- The bus of devices that have none. -/
def virtualBus : UInt16 := 0x06

/-! ## Events -/

/-- One event of an input device. -/
structure InputEvent where
  eventType : UInt16
  code : UInt16
  value : Int32
  deriving DecidableEq, Repr

namespace InputEvent

/-- The event that ends a frame. -/
def synReport : InputEvent := ⟨EventType.syn, 0, 0⟩

/-- The bytes of a 16-bit word, low byte first. -/
def wordBytes (w : UInt16) : List UInt8 := [w.toUInt8, (w >>> 8).toUInt8]

/-- The bytes of a 32-bit word, low byte first. -/
def longBytes (w : UInt32) : List UInt8 :=
  [w.toUInt8, (w >>> 8).toUInt8, (w >>> 16).toUInt8, (w >>> 24).toUInt8]

/-- The 24 bytes of an event. -/
def bytes (e : InputEvent) : List UInt8 :=
  List.replicate 16 0 ++ wordBytes e.eventType ++ wordBytes e.code ++ longBytes e.value.toUInt32

theorem length_bytes (e : InputEvent) : e.bytes.length = 24 := by
  simp [bytes, wordBytes, longBytes]

end InputEvent

/-! ## Devices -/

/-- Who a device says that it is. -/
structure DeviceIdentity where
  name : String
  bus : UInt16
  vendor : UInt16
  product : UInt16
  version : UInt16
  deriving DecidableEq, Repr

/-- The range of an absolute axis, both ends included. -/
structure AxisRange where
  least : Int32
  greatest : Int32
  deriving DecidableEq, Repr

end VirtualTouchpad
