import MakeLint.Decimal.Shortest
import MakeLint.Text.Digit

/-!
# Layouts of decimal numbers

A layout says how the shortest decimal of a number is laid out: with all its digits in place, or as
one leading digit, a fraction and a power of ten. `Layout` is the record of these decisions and
`Layout.write` the one function that follows them.
-/

namespace MakeLint.Decimal

/-- How numbers are laid out. -/
structure Layout where
  /-- The powers of ten of the leading digit for which all digits are written in place. -/
  inPlace : Int → Bool
  /-- Whether a whole number written in place ends in `.0`. -/
  pointZero : Bool
  /-- Which of two equally near decimals counts. -/
  tie : Tie

/-- Digits in place: those left of the point, then the fraction. -/
def Layout.writeInPlace (n : Layout) (digits : List Char) (exponent : Int) : List Char :=
  if 0 ≤ exponent then
    digits ++ List.replicate exponent.toNat '0' ++ (if n.pointZero then ['.', '0'] else [])
  else
    let places := (-exponent).toNat
    if places < digits.length then
      digits.take (digits.length - places) ++ '.' :: digits.drop (digits.length - places)
    else '0' :: '.' :: List.replicate (places - digits.length) '0' ++ digits

/-- A leading digit with a fraction, and the power of ten with its sign. -/
def writeScientific (digits : List Char) (power : Int) : List Char :=
  let fraction := if digits.length ≤ 1 then [] else '.' :: digits.drop 1
  digits.take 1 ++ fraction ++ 'e' :: (if power < 0 then '-' else '+') :: Text.decimal power.natAbs

/-- The absolute value of a finite number. -/
def Layout.writeAbs (n : Layout) (x : Float) : List Char :=
  let d := (Binary.ofFloat x).shortest n.tie
  let digits := Text.decimal d.digits
  let power := d.exponent + digits.length - 1
  if n.inPlace power then n.writeInPlace digits d.exponent else writeScientific digits power

/-- A number of 64 binary places, with the sign of zero, and words for what is not finite. -/
def Layout.write (n : Layout) (x : Float) : String :=
  if x.isNaN then "NaN"
  else
    let negative := (x.toBits >>> 63) = 1
    let size := if x.isInf then ['i', 'n', 'f'] else n.writeAbs x
    String.ofList (if negative then '-' :: size else size)

/-- All digits in place and nothing after a whole number; a tie goes up. -/
def plain : Layout := ⟨fun _ => true, false, .up⟩

end MakeLint.Decimal
