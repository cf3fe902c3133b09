import MakeLint.Text.Digit
import MakeLint.Wire.Fault
import MakeLint.Wire.OptionText
import MakeLint.Yaml.Node

/-!
# What scalars mean

A scalar where nothing says what to expect means what its tag says or, if it is plain and has no
tag, what its text looks like: the absent value, a flag, an integer, a float or, failing these, a
text.
-/

namespace MakeLint.Yaml

open Wire

/-- What a scalar means. -/
inductive Meaning where
  | absent
  | flag (value : Bool)
  /-- An integer in the range of 64 bits, signed or unsigned. -/
  | integer (n : Int)
  /-- Another integer in the range of 128 bits, signed or unsigned. -/
  | wideInteger (n : Int)
  | float (x : Float)
  | text

namespace Meaning

/-- Whether a text writes the absent value; the empty text does so too where a scalar has no tag. -/
def isAbsent (s : List Char) : Bool :=
  s = ['~'] ∨ String.ofList s ∈ ["null", "Null", "NULL"]

/-- The flag that a text writes. -/
def flag? (s : List Char) : Option Bool :=
  if String.ofList s ∈ ["true", "True", "TRUE"] then some true
  else if String.ofList s ∈ ["false", "False", "FALSE"] then some false
  else none

/-- A text without the sign at its start. -/
def dropSign : List Char → List Char
  | '+' :: rest | '-' :: rest => rest
  | s => s

/-- Whether a text is a zero with more digits behind it, which is no number. -/
def isPadded (s : List Char) : Bool :=
  match dropSign s with
  | '0' :: d :: rest => (d :: rest).all Char.isDigit
  | _ => false

/-- The natural number that a text without a sign writes: in base sixteen, eight or two behind `0x`,
`0o` or `0b`, and in base ten otherwise. -/
def natural? : List Char → Option Nat
  | '0' :: 'x' :: digits => Text.numeral? 16 digits
  | '0' :: 'o' :: digits => Text.numeral? 8 digits
  | '0' :: 'b' :: digits => Text.numeral? 2 digits
  | s => if isPadded s then none else Text.numeral? 10 s

/-- The integer that a text with at most one sign writes, of any size. -/
def integer? : List Char → Option Int
  | '+' :: rest => (natural? rest).map Int.ofNat
  | '-' :: rest => (natural? rest).map fun n => -(n : Int)
  | s => (natural? s).map Int.ofNat

/-- The integer of 64 bits, signed or unsigned, or else of 128 bits, that a text writes. -/
def ofInteger? (s : List Char) : Option Meaning := do
  let n ← integer? s
  let negative := s.head? = some '-'
  if negative then
    if n ∈ Width.signed64 then some (.integer n)
    else if n ∈ Width.signed128 then some (.wideInteger n) else none
  else if n ∈ Width.unsigned64 then some (.integer n)
  else if n ∈ Width.unsigned128 then some (.wideInteger n) else none

/-- The float nearest to `digits * 10 ^ exponent`, if it is finite. The number of digits tells what
is out of range without computing the power. -/
def nearest? (digits : Nat) (exponent : Int) : Option Float :=
  let size := exponent + (Text.decimal digits).length
  if digits = 0 ∨ size < -400 then some 0.0
  else if 400 < size then none
  else
    let x := Float.ofScientific digits (exponent < 0) exponent.natAbs
    if x.isFinite then some x else none

/-- The exponent at the end of a decimal, zero if there is none. -/
def exponent? : List Char → Option Int
  | [] => some 0
  | 'e' :: rest | 'E' :: rest =>
    match rest with
    | '+' :: digits => (Text.numeral? 10 digits).map Int.ofNat
    | '-' :: digits => (Text.numeral? 10 digits).map fun n => -(n : Int)
    | digits => (Text.numeral? 10 digits).map Int.ofNat
  | _ => none

/-- The digits behind the point, if there is one, and what follows them. -/
def fraction : List Char → List Char × List Char
  | '.' :: rest => (rest.takeWhile Char.isDigit, rest.dropWhile Char.isDigit)
  | rest => ([], rest)

/-- The finite float that a decimal without a sign writes: digits with a point among them or at
either end, and an exponent. -/
def decimal? (s : List Char) : Option Float := do
  let whole := s.takeWhile Char.isDigit
  let (behind, rest) := fraction (s.dropWhile Char.isDigit)
  let digits ← Text.numeral? 10 (whole ++ behind)
  let exponent ← exponent? rest
  nearest? digits (exponent - behind.length)

/-- The words for the infinite. -/
def isInfinity (s : List Char) : Bool := String.ofList s ∈ [".inf", ".Inf", ".INF"]

/-- The float that a text writes, with at most one sign. -/
def float? (s : List Char) : Option Float :=
  if String.ofList s ∈ [".nan", ".NaN", ".NAN"] then some (0.0 / 0.0)
  else
    match s with
    | '+' :: rest => unsigned? rest
    | '-' :: rest => (unsigned? rest).map (- ·)
    | _ => unsigned? s
where
  /-- The float that a text without a sign writes. -/
  unsigned? (s : List Char) : Option Float :=
    if isInfinity s then some (1.0 / 0.0) else decimal? s

/-- What the text of a plain scalar looks like. -/
def ofPlain (s : List Char) : Meaning :=
  if s.isEmpty ∨ isAbsent s then .absent
  else match flag? s with
    | some b => .flag b
    | none =>
      match ofInteger? s with
      | some n => n
      | none => if isPadded s then .text else ((float? s).map .float).getD .text

/-- What a scalar means; a core tag that its text does not fit says what was to be expected. -/
def ofScalar (tag : Option Tag) (style : Style) (text : String) : Except Expected Meaning :=
  let s := text.toList
  let untagged : Meaning := if style = .plain then ofPlain s else .text
  let forced (expected : Expected) : Option Meaning → Except Expected Meaning
    | some m => .ok m
    | none => .error expected
  match tag with
  | none | some (.own _) => .ok untagged
  | some .boolean => forced .boolean ((flag? s).map .flag)
  | some .integer => forced .integer (ofInteger? s)
  | some .float => forced .float ((float? s).map .float)
  | some .absent => forced .absent (if isAbsent s then some .absent else none)
  | some .other => .ok .text

/-- How YAML writes floats: in place, with a point. -/
def floatLayout : Decimal.Layout := ⟨fun _ => true, true, .up⟩

/-- What stands in the place of a value asked for. -/
def found (text : String) : Meaning → Found
  | absent => .absent "unit value"
  | flag b => .boolean b
  | integer n => .integer n
  | wideInteger n => .wideInteger n
  | float x =>
    .float (if x.isFinite then floatLayout.write x else Decimal.plain.write x)
  | .text => .text text

end Meaning

end MakeLint.Yaml
