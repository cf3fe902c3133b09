/-!
# The shortest decimal of a binary number

A number of 64 binary places stands for all reals that round to it. `shortest` picks the decimal
with the fewest digits among them, and of several such decimals the nearest. The search is exact:
for each number of digits, from one on, it tries the two neighbours of the value on the grid of
decimals with so many digits.
-/

namespace MakeLint.Decimal

/-- A positive finite number of 64 binary places, `mantissa * 2 ^ scale`. -/
structure Binary where
  mantissa : Nat
  scale : Int
  /-- The next number below is only half as far away as the next one above. -/
  narrowBelow : Bool

/-- The absolute value of a finite number, from its bits. -/
def Binary.ofFloat (x : Float) : Binary :=
  let bits := x.toBits
  let exponent := ((bits >>> 52) &&& 0x7FF).toNat
  let fraction := (bits &&& 0xFFFFFFFFFFFFF).toNat
  if exponent = 0 then ⟨fraction, -1074, false⟩
  else ⟨0x10000000000000 + fraction, (exponent : Int) - 1075, fraction = 0 ∧ 1 < exponent⟩

/-- A decimal, `digits * 10 ^ exponent`. -/
structure Scaled where
  digits : Nat
  exponent : Int
  deriving DecidableEq

/-- Which of two equally near decimals counts. -/
inductive Tie where
  | toEven
  | up

/-- Compares the decimal `a * 10 ^ i` with `b * 2 ^ j`. -/
def compareScaled (a : Nat) (i : Int) (b : Nat) (j : Int) : Ordering :=
  compare (a * Nat.pow 10 i.toNat * Nat.pow 2 (-j).toNat)
    (b * Nat.pow 2 j.toNat * Nat.pow 10 (-i).toNat)

/-- Whether a decimal rounds to the number: it lies between the midpoints to the two neighbours,
which belong to the number if its mantissa is even. -/
def Binary.covers (x : Binary) (d : Scaled) : Bool :=
  let below := if x.narrowBelow then 4 * x.mantissa - 1 else 4 * x.mantissa - 2
  let above := 4 * x.mantissa + 2
  let fromBelow := compareScaled d.digits d.exponent below (x.scale - 2)
  let fromAbove := compareScaled d.digits d.exponent above (x.scale - 2)
  let even := x.mantissa % 2 = 0
  (fromBelow = .gt ∨ (even ∧ fromBelow = .eq)) ∧ (fromAbove = .lt ∨ (even ∧ fromAbove = .eq))

/-- The greatest multiple of `10 ^ grid` that is not above the number, as the multiple taken. -/
def Binary.floorOn (x : Binary) (grid : Int) : Nat :=
  (x.mantissa * Nat.pow 2 x.scale.toNat * Nat.pow 10 (-grid).toNat)
    / (Nat.pow 2 (-x.scale).toNat * Nat.pow 10 grid.toNat)

/-- The least `k` such that the number is below `10 ^ k`; the estimate from the binary logarithm is
at most three too low. -/
def Binary.places (x : Binary) : Int :=
  let estimate := ((x.mantissa.log2 : Int) + x.scale) * 30103 / 100000 - 1
  let fits (k : Int) : Bool := compareScaled 1 k x.mantissa x.scale = .gt
  ((List.range 6).map fun (i : Nat) => estimate + i).find? fits |>.getD (estimate + 6)

/-- The decimal on a grid that rounds to the number, if there is one: of two the nearer. -/
def Binary.onGrid? (x : Binary) (tie : Tie) (grid : Int) : Option Scaled :=
  let low : Scaled := ⟨x.floorOn grid, grid⟩
  let high : Scaled := ⟨low.digits + 1, grid⟩
  match x.covers low, x.covers high with
  | true, false => some low
  | false, true => some high
  | false, false => none
  | true, true =>
    match compareScaled (low.digits + high.digits) grid (2 * x.mantissa) x.scale, tie with
    | .gt, _ => some low
    | .lt, _ => some high
    | .eq, .up => some high
    | .eq, .toEven => some (if low.digits % 2 = 0 then low else high)

/-- The decimal without zeros at the end of its digits; the fuel bounds their number. -/
def Scaled.strip : Nat → Scaled → Scaled
  | 0, d => d
  | fuel + 1, d =>
    if d.digits ≠ 0 ∧ d.digits % 10 = 0 then strip fuel ⟨d.digits / 10, d.exponent + 1⟩ else d

/-- The decimal of the exact value. -/
def Binary.exact (x : Binary) : Scaled :=
  if 0 ≤ x.scale then ⟨x.mantissa * Nat.pow 2 x.scale.toNat, 0⟩
  else ⟨x.mantissa * Nat.pow 5 (-x.scale).toNat, x.scale⟩

/-- The decimal with the fewest digits that rounds to the number, the nearest of them. Seventeen
digits always suffice; were they not to, the exact value is taken. -/
def Binary.shortest (x : Binary) (tie : Tie) : Scaled :=
  if x.mantissa = 0 then ⟨0, 0⟩
  else
    let places := x.places
    let found := (List.range 17).findSome? fun (i : Nat) => x.onGrid? tie (places - (i + 1))
    (found.getD x.exact).strip 800

end MakeLint.Decimal
