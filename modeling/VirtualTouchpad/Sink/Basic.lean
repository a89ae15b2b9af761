/-
# Sinks

A sink makes a virtual input device out of calls.  The calls between
`configureBegin` and `configureEnd` declare the device; after that the others
report events, and `synReport` ends a frame of them.

A call has no result.  A sink keeps its first error until it is reset, so that
a whole frame can be sent and checked once.
-/
import VirtualTouchpad.Host.Kernel

namespace VirtualTouchpad

/-- Whether a key went down or up. -/
inductive KeyState where
  | release
  | press
  deriving DecidableEq, Repr

namespace KeyState

/-- The value of a key event. -/
def value : KeyState → Int32
  | .release => 0
  | .press => 1

/-- The state of a key that is pressed or not. -/
def ofBool (pressed : Bool) : KeyState := if pressed then .press else .release

end KeyState

/-! ## Errors -/

/-- A number in hexadecimal, in small letters. -/
def hexadecimal (n : Nat) : String := String.ofList (Nat.toDigits 16 n)

/-- A number in hexadecimal, in capital letters. -/
def hexadecimalUpper (n : Nat) : String :=
  String.ofList ((Nat.toDigits 16 n).map Char.toUpper)

/-- Why a sink failed. -/
inductive SinkError where
  /-- A call that the sink's stage does not admit. -/
  | sequencing
  /-- A device name of so many bytes. -/
  | nameTooLong (size : Nat)
  | keyRange (code : UInt16)
  | absRange (code : UInt16)
  | relRange (code : UInt16)
  | propertyRange (code : UInt16)
  /-- A failed operation of the host, and what it was for. -/
  | io (context : String) (cause : IoError)
  deriving DecidableEq, Repr

/-- The wording of a failure. -/
def SinkError.message : SinkError → String
  | .sequencing => "sink operation issued out of sequence"
  | .nameTooLong size => "device name is " ++ toString size ++ " bytes, longer than uinput allows"
  | .keyRange code => "key code 0x" ++ hexadecimal code.toNat ++ " out of range"
  | .absRange code => "absolute axis 0x" ++ hexadecimal code.toNat ++ " out of range"
  | .relRange code => "relative axis 0x" ++ hexadecimal code.toNat ++ " out of range"
  | .propertyRange code => "input property 0x" ++ hexadecimal code.toNat ++ " out of range"
  | .io context cause => context ++ ": " ++ cause.message

/-! ## Calls -/

/-- A call on a sink. -/
inductive Call where
  | configureBegin (identity : DeviceIdentity)
  | configureProperty (property : UInt16)
  | configureKey (code : UInt16)
  | configureRel (axis : UInt16)
  /-- Declares the axes of a contact's position with their ranges. -/
  | configureMultiTouch (x0 y0 x1 y1 : Int32)
  /-- Declares how many contacts there may be. -/
  | configureSlots (slots : Int32)
  | configureEnd
  | key (code : UInt16) (state : KeyState)
  | rel (axis : UInt16) (delta : Int32)
  /-- Reports the position of a contact. -/
  | contact (slot trackingId x y : Int32)
  /-- Ends a contact. -/
  | lift (slot : Int32)
  | synReport
  | close
  deriving DecidableEq, Repr

end VirtualTouchpad
