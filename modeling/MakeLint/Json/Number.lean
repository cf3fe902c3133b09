import MakeLint.Decimal.Layout
import MakeLint.Width

/-!
# JSON numbers

A number literal is kept as its digits; `Literal.value?` gives the number that it stands for. An
integer literal within 64 bits is an integer. Every other literal is a float: its digits are taken
into an unsigned integer of 64 bits as long as they fit, and that integer is then scaled by a power
of ten in floating point. A literal beyond the range of floats stands for no number.
-/

namespace MakeLint.Json

/-- The parts of a number literal. -/
structure Literal where
  negative : Bool
  /-- The digits before the point; at least one. -/
  whole : List Nat
  /-- The digits behind the point, if there is one. -/
  fraction : Option (List Nat) := none
  /-- Whether the exponent is negative, and its digits, if there is one. -/
  exponent : Option (Bool × List Nat) := none
  deriving DecidableEq

/-- What a number literal stands for. -/
inductive Number where
  | integer (n : Int)
  | float (x : Float)

/-- The greatest unsigned integer of 64 bits. -/
def maxUnsigned : Nat := Width.unsigned64.greatest.toNat

/-- The greatest exponent that is computed with. -/
def maxExponent : Nat := 2147483647

/-- Appends digits to a number as long as the result stays within a limit; gives the number and the
digits that are left. -/
def absorb (limit : Nat) : Nat → List Nat → Nat × List Nat
  | n, [] => (n, [])
  | n, d :: rest => if 10 * n + d ≤ limit then absorb limit (10 * n + d) rest else (n, d :: rest)

/-- Scales a float by a power of ten: one multiplication or division by a power up to `1e308`, below
that after divisions by `1e308`. Beyond the greatest float there is no result. -/
def scale : Nat → Float → Int → Option Float
  | 0, x, _ => some x
  | fuel + 1, x, power =>
    if power.natAbs ≤ 308 then
      let factor := Float.ofScientific 1 false power.natAbs
      if 0 ≤ power then
        let product := x * factor
        if product.isInf then none else some product
      else some (x / factor)
    else if x == 0.0 then some x
    else if 0 ≤ power then none
    else scale fuel (x / 1e308) (power + 308)

/-- The float of a significand and a power of ten; four steps reach zero from any significand. -/
def floatOf (negative : Bool) (significand : Nat) (power : Int) : Option Float :=
  (scale 4 (Float.ofNat significand) power).map fun x => if negative then -x else x

/-- The float of a literal with a fraction, an exponent or more digits than fit: of the digits that
do not fit, those before the point count as zeros and those behind it not at all. -/
def Literal.float? (l : Literal) : Option Float :=
  let (whole, left) := absorb maxUnsigned 0 l.whole
  let fraction := l.fraction.getD []
  let (significand, unused) := absorb maxUnsigned whole fraction
  let power : Int := (left.length : Int) - ((fraction.length - unused.length : Nat) : Int)
  match l.exponent with
  | none => floatOf l.negative significand power
  | some (negative, digits) =>
    match absorb maxExponent 0 digits with
    | (size, []) =>
      floatOf l.negative significand (if negative then power - size else power + size)
    | (_, _ :: _) =>
      if significand ≠ 0 ∧ ¬negative then none else floatOf l.negative 0 0

/-- The number that a literal stands for, if it is within the range of floats. -/
def Literal.value? (l : Literal) : Option Number :=
  match absorb maxUnsigned 0 l.whole, l.fraction, l.exponent with
  | (n, []), none, none =>
    if ¬l.negative then some (.integer n)
    else if 0 < n ∧ -(n : Int) ∈ Width.signed64 then some (.integer (-n))
    else (floatOf true n 0).map .float
  | _, _, _ => l.float?.map .float

/-- How JSON writes numbers that are no integers: in place from `1e-5` up to the sixteenth digit. -/
def floatLayout : Decimal.Layout where
  inPlace power := -5 ≤ power && power ≤ 15
  pointZero := true
  tie := .toEven

end MakeLint.Json
