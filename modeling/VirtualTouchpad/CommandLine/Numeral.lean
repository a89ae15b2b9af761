/-
# Numbers in arguments

Whole numbers in decimal digits, with a sign if need be.  Digits are read from
left to right, and the first one that is none or leads out of the range decides
what is wrong.
-/

namespace VirtualTouchpad.CommandLine

/-- Why a text is no number of a range. -/
inductive NumeralFault where
  | empty
  | invalidDigit
  | tooLarge
  | tooSmall
  deriving DecidableEq, Repr

/-- The wording of a fault. -/
def NumeralFault.message : NumeralFault → String
  | .empty => "cannot parse integer from empty string"
  | .invalidDigit => "invalid digit found in string"
  | .tooLarge => "number too large to fit in target type"
  | .tooSmall => "number too small to fit in target type"

/-- Reads digits after a number that was read before; one beyond `greatest` is a fault. -/
def readDigits (greatest : Nat) (beyond : NumeralFault) :
    Nat → List Char → Except NumeralFault Nat
  | n, [] => .ok n
  | n, c :: rest =>
    if c.isDigit then
      let n := 10 * n + (c.toNat - '0'.toNat)
      if n ≤ greatest then readDigits greatest beyond n rest else .error beyond
    else .error .invalidDigit

/-- Reads a number of at most `greatest`; a plus may stand before it. -/
def readUnsigned (greatest : Nat) (text : String) : Except NumeralFault Nat :=
  match text.toList with
  | [] => .error .empty
  | ['+'] => .error .invalidDigit
  | '+' :: digits => readDigits greatest .tooLarge 0 digits
  | digits => readDigits greatest .tooLarge 0 digits

/-- Reads a number of 64 bits with its sign. -/
def readSigned (text : String) : Except NumeralFault Int :=
  match text.toList with
  | [] => .error .empty
  | ['+'] | ['-'] => .error .invalidDigit
  | '+' :: digits => (readDigits 0x7FFFFFFFFFFFFFFF .tooLarge 0 digits).map Int.ofNat
  | '-' :: digits => (readDigits 0x8000000000000000 .tooSmall 0 digits).map fun n => -(n : Int)
  | digits => (readDigits 0x7FFFFFFFFFFFFFFF .tooLarge 0 digits).map Int.ofNat

end VirtualTouchpad.CommandLine
