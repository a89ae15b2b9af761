/-
# Failures of touchpads

Why a touchpad refuses a sample, and the four kinds of such failures.
-/
import VirtualTouchpad.Numeric.Spelling
import VirtualTouchpad.Sink.Basic

namespace VirtualTouchpad

/-- The kinds of failures. -/
inductive FailureKind where
  | invalidArgument
  | notSupported
  | sequencing
  | sink
  deriving DecidableEq, Repr

/-- The name of a kind. -/
def FailureKind.name : FailureKind → String
  | .invalidArgument => "InvalidArgument"
  | .notSupported => "NotSupported"
  | .sequencing => "Sequencing"
  | .sink => "Sink"

/-- Why a touchpad did not do what it was asked to. -/
inductive TouchpadFailure where
  | noSuchTouchpad (id : Nat)
  /-- A number outside the range for its axis. -/
  | outOfRange (axis : String) (value : Single) (range : String)
  | unsupportedButtons (buttons : UInt32)
  | notAttached (id : Nat)
  | sink (error : SinkError)
  deriving DecidableEq, Repr

namespace TouchpadFailure

/-- The kind of a failure. -/
def kind : TouchpadFailure → FailureKind
  | .noSuchTouchpad _ | .outOfRange .. => .invalidArgument
  | .unsupportedButtons _ => .notSupported
  | .notAttached _ => .sequencing
  | .sink _ => .sink

/-- The wording of a failure. -/
def message : TouchpadFailure → String
  | .noSuchTouchpad id => "touchpad " ++ toString id ++ " does not exist"
  | .outOfRange axis value range =>
    axis ++ " = " ++ value.spell .plain ++ " is outside " ++ range
  | .unsupportedButtons buttons => "unsupported buttons 0x" ++ hexadecimalUpper buttons.toNat
  | .notAttached id => "touchpad " ++ toString id ++ " is not attached"
  | .sink error => "sink failed: " ++ error.message

end TouchpadFailure

/-- What came of a call on a touchpad. -/
abbrev Outcome := Except TouchpadFailure Unit

end VirtualTouchpad
