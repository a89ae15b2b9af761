/-
# Powers of two and of ten

The powers that numbers are scaled by: of two for the digits of binary formats,
and of ten for those of decimals.
-/

namespace VirtualTouchpad

/-- A power of two. -/
abbrev twoTo (n : Nat) : Nat := Nat.pow 2 n

/-- A power of ten. -/
abbrev tenTo (n : Nat) : Nat := Nat.pow 10 n

end VirtualTouchpad
