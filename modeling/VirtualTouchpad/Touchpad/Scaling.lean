/-
# Scaling samples

Samples are floats; devices report whole numbers.  A position in `[0, 1)` becomes
a coordinate below the size of its axis, and a scroll amount in `[-1, 1]` becomes
up to four wheel detents, at least one unless it is zero.
-/
import VirtualTouchpad.Numeric.Binary

namespace VirtualTouchpad

namespace Single

/-- Zero. -/
def zero : Single := Binary.ofInt .single 0

/-- One. -/
def one : Single := Binary.ofInt .single 1

/-- Four. -/
def four : Single := Binary.ofInt .single 4

/-- Whether a number lies in `[0, 1)`. -/
def isPosition (x : Single) : Bool := zero.le x && x.lt one

/-- Whether a number lies in `[-1, 1]`. -/
def isScrollAmount (x : Single) : Bool := (Binary.neg one).le x && x.le one

/-- Whether a number is greater than zero. -/
def isPositive (x : Single) : Bool := zero.lt x

/-- The coordinate of a position on an axis of a size: the rounded product without its fraction,
but below the size. -/
def coordinate (size : Int32) (x : Single) : Int32 :=
  min (x.mul (Binary.ofInt .single size.toInt)).truncate (size - 1)

/-- The wheel detents of a scroll amount: four times as much, rounded away from zero. -/
def detents (x : Single) : Int32 := (four.mul x).roundOut

end Single

end VirtualTouchpad
