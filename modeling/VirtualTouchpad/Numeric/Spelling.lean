/-
# Numbers as text

How a binary number is spelled: the fewest digits that read back, laid out as a
`NumberStyle` says.  Three styles are in use: `NumberStyle.plain` in messages,
`NumberStyle.wire` for the 32-bit numbers of a JSON text, and
`NumberStyle.quoted` for the 64-bit numbers that a JSON complaint quotes.
-/
import VirtualTouchpad.Numeric.Shortest

namespace VirtualTouchpad

/-- The choices that a spelling leaves open once the digits are known. -/
structure NumberStyle where
  tie : Tie
  /-- The decimal exponents of the leading digit that are written without an exponent; all of
  them if there is no entry. -/
  positional : Option (Int × Int)
  /-- What follows a whole number. -/
  wholeMark : String
  nan : String
  infinite : Bool → String

namespace NumberStyle

/-- Messages never use an exponent, and a tie goes up. -/
def plain : NumberStyle where
  tie := .up
  positional := none
  wholeMark := ""
  nan := "NaN"
  infinite := fun negative => if negative then "-inf" else "inf"

/-- JSON keeps `.0`, uses an exponent outside `1e-6` to `1e12`, and has no word for what is not
finite. -/
def wire : NumberStyle where
  tie := .even
  positional := some (-6, 12)
  wholeMark := ".0"
  nan := "null"
  infinite := fun _ => "null"

/-- As `wire`, with an exponent outside `1e-5` to `1e15`. -/
def quoted : NumberStyle := { wire with positional := some (-5, 15) }

end NumberStyle

namespace Decimal

/-- The digits with as many zeros beside the point as the exponent asks for. -/
def positional (wholeMark : String) (d : Decimal) : String :=
  let digits := Nat.toDigits 10 d.digits
  let point : Int := digits.length + d.exponent
  if point ≤ 0 then
    String.ofList ("0.".toList ++ List.replicate (-point).toNat '0' ++ digits)
  else if 0 ≤ d.exponent then
    String.ofList (digits ++ List.replicate d.exponent.toNat '0') ++ wholeMark
  else
    String.ofList (digits.take point.toNat ++ '.' :: digits.drop point.toNat)

/-- The decimal exponent of the leading digit. -/
def leadingExponent (d : Decimal) : Int :=
  (Nat.toDigits 10 d.digits).length - 1 + d.exponent

/-- One digit before the point, and a signed exponent. -/
def scientific (d : Decimal) : String :=
  let exponent := d.leadingExponent
  let mantissa :=
    match Nat.toDigits 10 d.digits with
    | [] => []
    | [digit] => [digit]
    | digit :: rest => digit :: '.' :: rest
  String.ofList mantissa ++ (if exponent < 0 then "e-" else "e+") ++ toString exponent.natAbs

/-- The decimal in a style. -/
def spell (style : NumberStyle) (d : Decimal) : String :=
  match style.positional with
  | none => d.positional style.wholeMark
  | some (least, greatest) =>
    if least ≤ d.leadingExponent ∧ d.leadingExponent ≤ greatest then
      d.positional style.wholeMark
    else d.scientific

end Decimal

/-- The text of a number in a style. -/
def Binary.spell {f : BinaryFormat} (style : NumberStyle) (x : Binary f) : String :=
  match x.reading with
  | .nan => style.nan
  | .infinite negative => style.infinite negative
  | .finite negative _ => (if negative then "-" else "") ++ (x.shortest style.tie).spell style

end VirtualTouchpad
