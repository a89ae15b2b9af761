/-
# The numbers of a JSON text

`scanNumeral` takes a number apart into its digits, and `Numeral.value` says
what it is worth: a whole number of at most 64 bits, or a 64-bit float.

The float is not always the one nearest to the decimal.  Its digits are taken
into a 64-bit whole number as long as they fit, that number is rounded, and then
multiplied or divided by a rounded power of ten.
-/
import VirtualTouchpad.Json.Lexical

namespace VirtualTouchpad.Json

/-! ## Spelling -/

/-- A number as it is spelled; no digits stand for a part that is not there. -/
structure Numeral where
  negative : Bool
  whole : List Nat
  fraction : List Nat
  /-- The sign and the digits of the exponent. -/
  exponent : Option (Bool × List Nat)
  deriving DecidableEq, Repr

/-- Whether a byte is a decimal digit. -/
def isDigitByte (b : UInt8) : Bool := ascii '0' ≤ b && b ≤ ascii '9'

/-- The value of a digit. -/
def digitValue (b : UInt8) : Nat := b.toNat - 48

/-- The digits at the front of the bytes, and what follows them. -/
def takeDigits (input : Bytes) : List Nat × Bytes :=
  ((input.takeWhile isDigitByte).map digitValue, input.dropWhile isDigitByte)

/-- At least one digit; `short` is the fault of a number that ends too early. -/
def someDigits (short : Fault) : Reader (List Nat) := fun input =>
  match takeDigits input with
  | ([], []) => .error short
  | ([], _ :: _) => .error .invalidNumber
  | found => .ok found

/-- The digits after a point, if there is one. -/
def scanFraction (short : Fault) : Reader (List Nat) := fun input =>
  match input with
  | [] => .ok ([], [])
  | b :: rest => if b = ascii '.' then someDigits short rest else .ok ([], input)

/-- The sign and the digits of an exponent, if there is one. -/
def scanExponent (short : Fault) : Reader (Option (Bool × List Nat)) := fun input =>
  match input with
  | [] => .ok (none, [])
  | b :: rest =>
    if b = ascii 'e' ∨ b = ascii 'E' then
      let negative := rest.head? == some (ascii '-')
      let unsigned := if negative || rest.head? == some (ascii '+') then rest.drop 1 else rest
      (someDigits short unsigned).map fun (digits, rest) => (some (negative, digits), rest)
    else .ok (none, input)

/-- The digits before the point: a zero alone, or digits that start with none. -/
def scanWhole (short : Fault) : Reader (List Nat) := fun input =>
  match input with
  | [] => .error short
  | b :: rest =>
    if b = ascii '0' then
      if rest.head?.any isDigitByte then .error .invalidNumber else .ok ([0], rest)
    else if isDigitByte b then .ok (takeDigits input)
    else .error .invalidNumber

/-- A number after its sign. -/
def scanUnsigned (short : Fault) (negative : Bool) : Reader Numeral := fun input => do
  let (whole, rest) ← scanWhole short input
  let (fraction, rest) ← scanFraction short rest
  let (exponent, rest) ← scanExponent short rest
  .ok (⟨negative, whole, fraction, exponent⟩, rest)

/-- A number; the bytes start with its sign or its first digit. -/
def scanNumeral (short : Fault) : Reader Numeral := fun input =>
  match input with
  | [] => .error short
  | b :: rest =>
    if b = ascii '-' then scanUnsigned short true rest else scanUnsigned short false input

/-! ## Value -/

/-- What a number is worth. -/
inductive Number where
  /-- A whole number of 64 bits. -/
  | whole (n : Nat)
  /-- A negative number of 64 bits, by its magnitude. -/
  | negative (n : Nat)
  | floating (x : Double)
  deriving DecidableEq, Repr

/-- How a complaint names a number. -/
def Number.found : Number → Found
  | .whole n => .integer n
  | .negative n => .integer (-(n : Int))
  | .floating x => .floating x

/-- Appends digits to a number as long as it fits 64 bits, and gives the digits left over. -/
def absorb : Nat → List Nat → Nat × List Nat
  | n, [] => (n, [])
  | n, d :: digits =>
    if 10 * n + d < UInt64.size then absorb (10 * n + d) digits else (n, d :: digits)

/-- The float nearest to a power of ten. -/
def powerOfTen (e : Nat) : Double := Binary.ofRatio .double false (tenTo e) 1

/-- Divides by `10 ^ e` in steps of at most `10 ^ 308`, until nothing is left. -/
def divideByPower (x : Double) (e : Nat) : Double :=
  if e ≤ 308 then x.div (powerOfTen e)
  else if x.magnitude = 0 then x
  else divideByPower (x.div (powerOfTen 308)) (e - 308)
termination_by e

/-- The float for `n * 10 ^ e`; one beyond the greatest float is out of range. -/
def scaledFloat (n : Nat) (e : Int) : Except Fault Double :=
  let x := Binary.ofRatio .double false n 1
  if e < 0 then .ok (divideByPower x e.natAbs)
  else if n = 0 then .ok x
  else if 308 < e then .error .numberOutOfRange
  else
    let product := x.mul (powerOfTen e.natAbs)
    if product.magnitude = BinaryFormat.double.infinityMagnitude then .error .numberOutOfRange
    else .ok product

/-- The value of decimal digits. -/
def ofDigits (digits : List Nat) : Nat := digits.foldl (10 * · + ·) 0

namespace Numeral

/-- The float for a number, without its sign.  An exponent beyond 32 bits is out of range, or
makes the number zero. -/
def unsignedFloat (numeral : Numeral) : Except Fault Double :=
  let (n, left) := absorb 0 numeral.whole
  let (n, unused) := absorb n numeral.fraction
  let point : Int := left.length - (numeral.fraction.length - unused.length : Nat)
  match numeral.exponent with
  | none => scaledFloat n point
  | some (negative, digits) =>
    let e := ofDigits digits
    if 0x80000000 ≤ e then
      if n ≠ 0 ∧ !negative then .error .numberOutOfRange else .ok (.zero .double false)
    else scaledFloat n (if negative then point - e else point + e)

/-- The float for a number. -/
def float (numeral : Numeral) : Except Fault Double :=
  numeral.unsignedFloat.map fun x => if numeral.negative then x.neg else x

/-- What a number is worth: whole if it is spelled so and fits 64 bits, a float otherwise.
Negative zero is a float. -/
def value (numeral : Numeral) : Except Fault Number :=
  let (n, left) := absorb 0 numeral.whole
  if numeral.fraction = [] ∧ numeral.exponent = none ∧ left = [] then
    if !numeral.negative then .ok (.whole n)
    else if n ≠ 0 ∧ n ≤ 0x8000000000000000 then .ok (.negative n)
    else numeral.float.map .floating
  else numeral.float.map .floating

end Numeral

/-- A number's value; the bytes start with its sign or its first digit. -/
def readNumber : Reader Number := fun input => do
  let (numeral, rest) ← scanNumeral (.ended .value) input
  let value ← numeral.value
  .ok (value, rest)

end VirtualTouchpad.Json
