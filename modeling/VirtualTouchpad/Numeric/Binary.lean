/-
# Binary floating-point numbers

A number of a binary interchange format is its bits.  Every finite number of a
format is a whole multiple of the format's least positive number, so
`Binary.reading` gives a finite number as a sign and a count of such units, and
everything else is arithmetic on natural numbers.

Rounding happens in one place, `Binary.ofRatio`: it gives the number of the
format nearest to a quotient, the even one of two equally near.
-/
import VirtualTouchpad.Numeric.Powers

namespace VirtualTouchpad

/-! ## Formats -/

/-- The shape of a binary interchange format: the bits of its fraction and of its exponent. -/
structure BinaryFormat where
  fractionBits : Nat
  exponentBits : Nat
  deriving DecidableEq, Repr

namespace BinaryFormat

/-- The 32-bit format. -/
def single : BinaryFormat := ⟨23, 8⟩

/-- The 64-bit format. -/
def double : BinaryFormat := ⟨52, 11⟩

/-- The bits below the sign. -/
def magnitudeBits (f : BinaryFormat) : Nat := f.exponentBits + f.fractionBits

/-- All bits: the sign and the magnitude. -/
def width (f : BinaryFormat) : Nat := f.magnitudeBits + 1

/-- The exponent field that marks infinities and NaNs. -/
def topField (f : BinaryFormat) : Nat := twoTo f.exponentBits - 1

/-- The least positive number of the format is `1 / 2 ^ unitBits`, the unit of all others. -/
def unitBits (f : BinaryFormat) : Nat := twoTo (f.exponentBits - 1) - 2 + f.fractionBits

/-- The magnitude bits of infinity: the least that is not finite. -/
def infinityMagnitude (f : BinaryFormat) : Nat := f.topField * twoTo f.fractionBits

end BinaryFormat

/-- A number of a binary format, as its bits. -/
structure Binary (f : BinaryFormat) where
  bits : BitVec f.width
  deriving DecidableEq, Repr

/-- A number of the 32-bit format. -/
abbrev Single := Binary .single

/-- A number of the 64-bit format. -/
abbrev Double := Binary .double

/-! ## What the bits stand for -/

/-- The value of a number: a signed count of units of the format, an infinity, or no number. -/
inductive Reading where
  | finite (negative : Bool) (units : Nat)
  | infinite (negative : Bool)
  | nan
  deriving DecidableEq, Repr

namespace Binary

variable {f : BinaryFormat}

/-- The bits below the sign, as a number. -/
def magnitude (x : Binary f) : Nat := x.bits.toNat % twoTo f.magnitudeBits

/-- Whether the sign bit is set. -/
def negative (x : Binary f) : Bool := twoTo f.magnitudeBits ≤ x.bits.toNat

/-- The exponent field. -/
def exponentField (x : Binary f) : Nat := x.magnitude / twoTo f.fractionBits

/-- The fraction field. -/
def fractionField (x : Binary f) : Nat := x.magnitude % twoTo f.fractionBits

/-- The leading digits of a finite number as a whole number: the fraction, with the implied
one above it unless the exponent field is zero. -/
def coefficient (x : Binary f) : Nat :=
  if x.exponentField = 0 then x.fractionField else twoTo f.fractionBits + x.fractionField

/-- A finite number is its coefficient times two to this, in units of the format. -/
def scale (x : Binary f) : Nat := x.exponentField - 1

/-- The value that the bits stand for. -/
def reading (x : Binary f) : Reading :=
  if x.exponentField = f.topField then
    if x.fractionField = 0 then .infinite x.negative else .nan
  else .finite x.negative (x.coefficient * twoTo x.scale)

/-- The number with a given sign and magnitude bits. -/
def ofMagnitude (f : BinaryFormat) (negative : Bool) (magnitude : Nat) : Binary f :=
  ⟨BitVec.ofNat _ ((if negative then twoTo f.magnitudeBits else 0) + magnitude)⟩

/-- Zero with a sign. -/
def zero (f : BinaryFormat) (negative : Bool) : Binary f := ofMagnitude f negative 0

/-- Infinity with a sign. -/
def infinity (f : BinaryFormat) (negative : Bool) : Binary f :=
  ofMagnitude f negative f.infinityMagnitude

/-- A NaN. -/
def nan (f : BinaryFormat) : Binary f :=
  ofMagnitude f false (f.infinityMagnitude + twoTo (f.fractionBits - 1))

end Binary

/-! ## Rounding -/

/-- The whole number nearest to `num / den`, the even one of two equally near. -/
def roundHalfEven (num den : Nat) : Nat :=
  let quotient := num / den
  let twice := 2 * (num % den)
  if den < twice ∨ (den = twice ∧ quotient % 2 = 1) then quotient + 1 else quotient

/-- A whole quotient is its own nearest whole number. -/
theorem roundHalfEven_mul_self (n den : Nat) (hden : 0 < den) :
    roundHalfEven (n * den) den = n := by
  simp [roundHalfEven, Nat.mul_div_cancel _ hden, Nat.ne_of_gt hden]

namespace Binary

variable {f : BinaryFormat}

/-- The number nearest to `num / den`, the one with the even coefficient of two equally near, and
infinity from half a step above the greatest finite number on.

In units the quotient is `scaled / den`; `shift` drops the binary digits that the coefficient has
no room for.  The magnitude bits of coefficient `c` at scale `shift` are
`shift * 2 ^ fractionBits + c`, also where rounding carries `c` up to the next power of two. -/
def ofRatio (f : BinaryFormat) (negative : Bool) (num den : Nat) : Binary f :=
  let scaled := num * twoTo f.unitBits
  let shift := (scaled / den).log2 - f.fractionBits
  let coefficient := roundHalfEven scaled (den * twoTo shift)
  ofMagnitude f negative (min (shift * twoTo f.fractionBits + coefficient) f.infinityMagnitude)

/-- The number nearest to a whole number. -/
def ofInt (f : BinaryFormat) (n : Int) : Binary f := ofRatio f (n < 0) n.natAbs 1

/-- The nearest number of another format. -/
def convert (g : BinaryFormat) (x : Binary f) : Binary g :=
  match x.reading with
  | .finite negative units => ofRatio g negative units (twoTo f.unitBits)
  | .infinite negative => infinity g negative
  | .nan => nan g

/-! ## Arithmetic and order -/

/-- The same number with the other sign. -/
def neg (x : Binary f) : Binary f := ofMagnitude f (!x.negative) x.magnitude

/-- The number nearest to the product. -/
def mul (x y : Binary f) : Binary f :=
  match x.reading, y.reading with
  | .finite a m, .finite b n => ofRatio f (a ^^ b) (m * n) (twoTo (2 * f.unitBits))
  | .finite a m, .infinite b => if m = 0 then nan f else infinity f (a ^^ b)
  | .infinite a, .finite b n => if n = 0 then nan f else infinity f (a ^^ b)
  | .infinite a, .infinite b => infinity f (a ^^ b)
  | _, _ => nan f

/-- The number nearest to the quotient. -/
def div (x y : Binary f) : Binary f :=
  match x.reading, y.reading with
  | .finite a m, .finite b n =>
    if n = 0 then (if m = 0 then nan f else infinity f (a ^^ b)) else ofRatio f (a ^^ b) m n
  | .finite a _, .infinite b => zero f (a ^^ b)
  | .infinite a, .finite b _ => infinity f (a ^^ b)
  | _, _ => nan f

/-- The place of a number in the order: its signed count of units, with the infinities one step
beyond the finite numbers.  A NaN has none. -/
def rank (x : Binary f) : Option Int :=
  match x.reading with
  | .finite negative units => some (if negative then -(units : Int) else units)
  | .infinite negative =>
    let beyond : Int := twoTo (f.topField - 1 + f.fractionBits)
    some (if negative then -beyond else beyond)
  | .nan => none

/-- Strictly less; false of a NaN. -/
def lt (x y : Binary f) : Bool :=
  match x.rank, y.rank with
  | some a, some b => a < b
  | _, _ => false

/-- Less or equal; false of a NaN. -/
def le (x y : Binary f) : Bool :=
  match x.rank, y.rank with
  | some a, some b => a ≤ b
  | _, _ => false

end Binary

/-! ## Whole numbers of 32 bits -/

/-- The 32-bit integer nearest to a whole number. -/
def saturate (n : Int) : Int32 :=
  Int32.ofInt (max (-0x80000000) (min (0x7FFFFFFF) n))

/-- A whole number with the sign of a float. -/
def signed (negative : Bool) (n : Nat) : Int := if negative then -(n : Int) else n

namespace Binary

variable {f : BinaryFormat}

/-- The 32-bit integer nearest to the number without its fraction; zero for a NaN. -/
def truncate (x : Binary f) : Int32 :=
  match x.reading with
  | .finite negative units => saturate (signed negative (units / twoTo f.unitBits))
  | .infinite negative => saturate (signed negative 0x80000000)
  | .nan => 0

/-- The 32-bit integer nearest to the number rounded away from zero; zero for a NaN. -/
def roundOut (x : Binary f) : Int32 :=
  match x.reading with
  | .finite negative units =>
    saturate (signed negative ((units + twoTo f.unitBits - 1) / twoTo f.unitBits))
  | .infinite negative => saturate (signed negative 0x80000000)
  | .nan => 0

end Binary

end VirtualTouchpad
