/-
# The fewest digits that read back

`Binary.shortest` finds the shortest decimal that rounds to a given number, and
the nearest of those to it.  It walks the decimal grids `10 ^ p` from coarse to
fine and takes the first one that has a point among the reals that round to the
number; if a grid has such a point, one of the number's two neighbours on that
grid is one.
-/
import VirtualTouchpad.Numeric.Binary

namespace VirtualTouchpad

/-- A decimal: `digits * 10 ^ exponent`. -/
structure Decimal where
  digits : Nat
  exponent : Int
  deriving DecidableEq, Repr

/-- Which of two equally near decimals is taken. -/
inductive Tie where
  /-- The greater one. -/
  | up
  /-- The one whose last digit is even. -/
  | even
  deriving DecidableEq, Repr

/-- The reals that round to a number, as a range around it, all over one denominator. -/
structure RoundingRange where
  low : Nat
  value : Nat
  high : Nat
  denominator : Nat
  /-- Whether the ends round to the number too. -/
  closed : Bool

namespace RoundingRange

/-- Whether `n / d` lies in the range. -/
def has (r : RoundingRange) (n d : Nat) : Bool :=
  let x := n * r.denominator
  if r.closed then r.low * d ≤ x && x ≤ r.high * d else r.low * d < x && x < r.high * d

/-- The nearer of the value's two neighbours on the grid `10 ^ p` that lie in the range. -/
def nearestOn (r : RoundingRange) (tie : Tie) (p : Int) : Option Decimal :=
  let up := tenTo p.toNat
  let down := tenTo (-p).toNat
  let below := r.value * down / (r.denominator * up)
  let inside (n : Nat) : Bool := r.has (n * up) down
  let twice := 2 * (r.value * down)
  let middle := (2 * below + 1) * (r.denominator * up)
  let takeBelow : Bool :=
    if twice = middle then tie == .even && below % 2 == 0 else twice < middle
  match inside below, inside (below + 1) with
  | true, true => some ⟨if takeBelow then below else below + 1, p⟩
  | true, false => some ⟨below, p⟩
  | false, true => some ⟨below + 1, p⟩
  | false, false => none

/-- The first grid from `10 ^ p` down, of at most `steps` more, with a point in the range. -/
def search (r : RoundingRange) (tie : Tie) : Nat → Int → Option Decimal
  | 0, p => r.nearestOn tie p
  | steps + 1, p => r.nearestOn tie p <|> search r tie steps (p - 1)

end RoundingRange

namespace Binary

variable {f : BinaryFormat}

/-- The reals that round to a finite nonzero number reach half a step to each side, and a quarter
below where the step below is half as wide. -/
def roundingRange (x : Binary f) : RoundingRange :=
  let step := twoTo x.scale
  let below := if x.fractionField = 0 ∧ 1 < x.exponentField then step else 2 * step
  let value := 4 * (x.coefficient * step)
  { low := value - below
    value := value
    high := value + 2 * step
    denominator := 4 * twoTo f.unitBits
    closed := x.coefficient % 2 = 0 }

/-- The shortest decimal that rounds to the number, and of those the nearest to it.  The search
starts at the first power of ten above the number, and ends at the latest where the grid is
finer than the unit of the format. -/
def shortest (tie : Tie) (x : Binary f) : Decimal :=
  if x.coefficient = 0 then ⟨0, 0⟩
  else
    let range := x.roundingRange
    let start := (Nat.toDigits 10 (range.value / range.denominator)).length
    (range.search tie (start + f.unitBits + 2) start).getD ⟨0, 0⟩

end Binary

end VirtualTouchpad
