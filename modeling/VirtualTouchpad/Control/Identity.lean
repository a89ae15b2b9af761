/-
# Identities

A message's identity is 26 characters that spell a number of 128 bits in base
32, most significant digit first.  The digits are the decimal ones and the
capital letters without `I`, `L`, `O` and `U`.
-/

namespace VirtualTouchpad.Control.Identity

/-- The digits in the order of their values. -/
def digits : List Char := "0123456789ABCDEFGHJKMNPQRSTVWXYZ".toList

/-- How many digits an identity has. -/
def size : Nat := 26

/-- The digit of a value below 32. -/
def digit (n : Nat) : Char := digits[n % 32]?.getD '0'

/-- The last `count` digits of a number, before other text. -/
def spellBefore : Nat → Nat → List Char → List Char
  | 0, _, after => after
  | count + 1, n, after => spellBefore count (n / 32) (digit n :: after)

/-- The identity that spells a number. -/
def spell (n : BitVec 128) : String := String.ofList (spellBefore size n.toNat [])

/-- Whether a text has the form of an identity. -/
def isWellFormed (text : String) : Bool :=
  text.length == size && text.toList.all (· ∈ digits)

end VirtualTouchpad.Control.Identity
