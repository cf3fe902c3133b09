import MakeLint.Proofs.Floats.Products
import MakeLint.Proofs.Json.Numbers

/-!
# Which number literals have a number

A number literal that is no integer of 64 bits is read as a float: the digits that fit 64 bits make
up its significand, what is left of them and the exponent make up a power of ten, and the product of
both is taken in floating point. Whether this gives a number is decided by the digits and the
exponent (`Literal.InRange`): the significand and the power are rounded to 53 binary digits, and
their product must not be rounded beyond the greatest float. Exactly these literals have a number
(`Literal.value?_isSome_iff`). A literal is within the range if it is not greater than
`1.7976931348623154e308` (`Literal.inRange_of_size_le`); between there and the greatest float, about
`1.7976931348623157e308`, some are not.
-/

namespace MakeLint.Json

open Floats

/-- The digits of a literal that fit 64 bits, as a number. -/
def Literal.significand (l : Literal) : Nat :=
  (absorb maxUnsigned (absorb maxUnsigned 0 l.whole).1 (l.fraction.getD [])).1

/-- The number that decimal digits write, the first digit being the one of the greatest place. -/
def decimal (digits : List Nat) : Nat := Nat.ofDigits 10 digits.reverse

/-- The exponent that a literal writes, zero if it writes none. -/
def Literal.exponentValue (l : Literal) : Int :=
  match l.exponent with
  | none => 0
  | some (false, digits) => decimal digits
  | some (true, digits) => -decimal digits

/-- The power of ten of the significand without the exponent: the digits of the whole part that do
not fit count as zeros, and those of the fraction that do are taken back. -/
def Literal.shift (l : Literal) : Int :=
  let (whole, left) := absorb maxUnsigned 0 l.whole
  let fraction := l.fraction.getD []
  let unused := (absorb maxUnsigned whole fraction).2
  (left.length : Int) - (fraction.length - unused.length : Nat)

/-- The power of ten of the significand. -/
def Literal.power (l : Literal) : Int := l.shift + l.exponentValue

/-- The literals that have a number. The significand and the power of ten are rounded to 53 binary
digits each, and their product is small enough to be a float. Zero has a number whatever its power
is, and a number whose exponent is too small to be computed with is zero. -/
def Literal.InRange (l : Literal) : Prop :=
  l.significand = 0 ∨ l.exponentValue < -maxExponent ∨
    (l.exponentValue ≤ maxExponent ∧ l.power ≤ 308 ∧
      rounded l.significand * rounded (10 ^ l.power.toNat) < overflow)

instance (l : Literal) : Decidable l.InRange :=
  inferInstanceAs (Decidable (_ ∨ _ ∨ (_ ∧ _ ∧ _)))

/-! ## Scaling by a power of ten -/

/-- A float is scaled by a negative power of ten without leaving the range. -/
theorem scale_isSome_of_neg (fuel : Nat) (x : Float) {power : Int} (h : power < 0) :
    (scale fuel x power).isSome = true := by
  induction fuel generalizing x power with
  | zero => rfl
  | succ fuel ih =>
    rw [scale]
    split
    next hsmall => rw [if_neg (by omega)]; rfl
    next hlarge =>
      split
      next => rfl
      next => rw [if_neg (by omega)]; exact ih _ (by omega)

/-- The powers of ten up to `1e308` are floats. -/
theorem powerOfTen_holds {p : Nat} (hp : p ≤ 308) :
    Holds (Float.ofScientific 1 false p) (rounded (10 ^ p)) := by
  have hrounds := ofScientific_rounds 1 (hp.trans (by decide))
  rw [Nat.one_mul] at hrounds
  refine hrounds.holds ?_
  calc 10 ^ p ≤ 10 ^ 308 := Nat.pow_le_pow_right (by decide) hp
    _ < overflow := by decide +kernel

/-- Rounding leaves a significand of 64 bits within the range of floats. -/
theorem rounded_lt_overflow {s : Nat} (hs : s ≤ maxUnsigned) : rounded s < overflow := by
  have hround := rounded_mul_le s
  have hlimit : maxUnsigned = 2 ^ 64 - 1 := rfl
  calc rounded s < 2 ^ 65 := by omega
    _ < overflow := by decide +kernel

/-- A significand of 64 bits that is not scaled up stays within the range of floats. -/
theorem product_lt_overflow {s : Nat} (hs : s ≤ maxUnsigned) {power : Int} (hpower : power ≤ 0) :
    rounded s * rounded (10 ^ power.toNat) < overflow := by
  have hone : rounded (10 ^ power.toNat) = 1 := by
    rw [Int.toNat_of_nonpos hpower]
    exact rounded_of_lt (by decide)
  rw [hone, Nat.mul_one]
  exact rounded_lt_overflow hs

/-- A significand of 64 bits is converted to the float that it is rounded to. -/
theorem significand_holds {s : Nat} (hs : s ≤ maxUnsigned) :
    Holds (Float.ofNat s) (rounded s) := by
  refine (ofNat_rounds s).holds ?_
  calc s ≤ maxUnsigned := hs
    _ < overflow := by decide +kernel

/-- A significand of 64 bits and a power of ten have a float unless their product is too large. -/
theorem floatOf_isSome_iff {s : Nat} (hs : s ≤ maxUnsigned) (negative : Bool) (power : Int) :
    (floatOf negative s power).isSome = true ↔
      s = 0 ∨ power ≤ 308 ∧ rounded s * rounded (10 ^ power.toNat) < overflow := by
  unfold floatOf
  rw [Option.isSome_map]
  rcases Int.lt_or_le power 0 with hneg | hnonneg
  · -- A division does not leave the range, and the condition holds of every significand.
    exact iff_of_true (scale_isSome_of_neg 4 _ hneg)
      (.inr ⟨by omega, product_lt_overflow hs hneg.le⟩)
  · obtain ⟨p, rfl⟩ := Int.eq_ofNat_of_zero_le hnonneg
    rw [scale, Int.natAbs_natCast, Int.toNat_natCast]
    split
    next hsmall =>
      -- One multiplication of two floats that hold the rounded numbers.
      have hproduct := (mul_rounds (significand_holds hs) (powerOfTen_holds hsmall)).isInf_iff
      have hzero : s = 0 → rounded s * rounded (10 ^ p) < overflow := by
        rintro rfl
        rw [(rounded_eq_zero_iff 0).2 rfl, Nat.zero_mul]
        exact lt_overflow (by decide)
      dsimp only
      split
      next hinf =>
        refine iff_of_false Bool.false_ne_true ?_
        rintro (hs | ⟨-, hlt⟩)
        · exact hproduct.1 hinf (hzero hs)
        · exact hproduct.1 hinf hlt
      next hfinite =>
        refine iff_of_true rfl (.inr ⟨by omega, ?_⟩)
        exact not_not.1 (mt hproduct.2 hfinite)
    next hlarge =>
      -- Beyond `1e308` only zero has a float.
      have hzero := (significand_holds hs).beq_zero_iff.trans (rounded_eq_zero_iff s)
      have hpower : ¬ (p : Int) ≤ 308 := by omega
      split
      next h => exact iff_of_true rfl (.inl (hzero.1 h))
      next h =>
        refine iff_of_false Bool.false_ne_true ?_
        rintro (hs | ⟨hp, -⟩)
        · exact h (hzero.2 hs)
        · exact hpower hp

/-! ## Taking digits in -/

/-- Digits are taken in from the front, as long as the number that they make up fits. -/
theorem absorb_spec (limit : Nat) {n : Nat} (hn : n ≤ limit) (digits : List Nat) :
    ∃ taken, digits = taken ++ (absorb limit n digits).2 ∧
      (absorb limit n digits).1 = taken.foldl (fun n d => 10 * n + d) n ∧
      (absorb limit n digits).1 ≤ limit ∧
      ∀ d ∈ (absorb limit n digits).2.head?, limit < 10 * (absorb limit n digits).1 + d := by
  induction digits generalizing n with
  | nil => exact ⟨[], rfl, rfl, hn, by simp [absorb]⟩
  | cons d rest ih =>
    rw [absorb]
    split
    next hfits =>
      obtain ⟨taken, hdigits, hnumber, hle, hnext⟩ := ih hfits
      exact ⟨d :: taken, congrArg (d :: ·) hdigits, hnumber, hle, hnext⟩
    next hfits =>
      refine ⟨[], rfl, rfl, hn, fun e he => ?_⟩
      obtain rfl : d = e := by simpa using he
      omega

/-- A significand fits 64 bits. -/
theorem Literal.significand_le (l : Literal) : l.significand ≤ maxUnsigned := by
  obtain ⟨-, -, -, hwhole, -⟩ := absorb_spec maxUnsigned (Nat.zero_le _) l.whole
  obtain ⟨-, -, -, hfraction, -⟩ := absorb_spec maxUnsigned hwhole (l.fraction.getD [])
  exact hfraction

/-- A literal without an exponent, or with one that is computed with, is its significand scaled by
its power of ten. -/
theorem Literal.float?_eq_floatOf {l : Literal} (h : l.exponentValue.natAbs ≤ maxExponent) :
    l.float? = floatOf l.negative l.significand l.power := by
  unfold power
  obtain ⟨negative, whole, fraction, exponent⟩ := l
  match exponent with
  | none =>
    have hpower : (⟨negative, whole, fraction, none⟩ : Literal).exponentValue = 0 := rfl
    rw [hpower, Int.add_zero]
    rfl
  | some (false, digits) =>
    have hsize : decimal digits ≤ maxExponent :=
      (Int.natAbs_natCast (decimal digits)).symm.trans_le h
    have habsorb := (absorb_zero_iff maxExponent digits _).2 ⟨rfl, hsize⟩
    unfold float?
    dsimp only
    rw [habsorb]
    rfl
  | some (true, digits) =>
    have hsize : decimal digits ≤ maxExponent := by
      have hnatAbs : (-(decimal digits : Int)).natAbs ≤ maxExponent := h
      omega
    have habsorb := (absorb_zero_iff maxExponent digits _).2 ⟨rfl, hsize⟩
    unfold float?
    dsimp only
    rw [habsorb]
    rfl

/-- An exponent that is too large to be computed with leaves no float but zero, and one that is too
small leaves zero. -/
theorem Literal.float?_eq_ite {l : Literal} (h : maxExponent < l.exponentValue.natAbs) :
    l.float? = if l.significand ≠ 0 ∧ ¬ l.exponentValue < 0 then none
      else floatOf l.negative 0 0 := by
  have hleft {digits : List Nat} (hsize : maxExponent < decimal digits) :
      ∃ n d left, absorb maxExponent 0 digits = (n, d :: left) := by
    match habsorb : absorb maxExponent 0 digits with
    | (n, []) =>
      obtain ⟨rfl, hle⟩ := (absorb_zero_iff maxExponent digits n).1 habsorb
      exact absurd hle (Nat.not_le.2 hsize)
    | (n, d :: left) => exact ⟨n, d, left, rfl⟩
  obtain ⟨negative, whole, fraction, exponent⟩ := l
  match exponent with
  | none => exact absurd h (Nat.not_lt_zero _)
  | some (false, digits) =>
    obtain ⟨n, d, left, habsorb⟩ := hleft (h.trans_eq (Int.natAbs_natCast (decimal digits)))
    have hsign : ¬ ((decimal digits : Nat) : Int) < 0 := by omega
    unfold float?
    dsimp only
    rw [habsorb]
    exact if_congr (and_congr_right' (iff_of_true Bool.false_ne_true hsign)) rfl rfl
  | some (true, digits) =>
    have hsize : maxExponent < decimal digits := by
      have hnatAbs : maxExponent < (-(decimal digits : Int)).natAbs := h
      omega
    obtain ⟨n, d, left, habsorb⟩ := hleft hsize
    have hsign : ¬ ¬ -((decimal digits : Nat) : Int) < 0 := by omega
    unfold float?
    dsimp only
    rw [habsorb]
    exact if_congr (and_congr_right' (iff_of_false (not_not_intro rfl) hsign)) rfl rfl

/-- A literal has a float exactly if it is within the range. -/
theorem Literal.float?_isSome_iff (l : Literal) : l.float?.isSome = true ↔ l.InRange := by
  unfold Literal.InRange
  by_cases h : l.exponentValue.natAbs ≤ maxExponent
  · have hlow : ¬ l.exponentValue < -maxExponent := by omega
    have hhigh : l.exponentValue ≤ maxExponent := by omega
    rw [float?_eq_floatOf h, floatOf_isSome_iff l.significand_le]
    simp only [hlow, hhigh, false_or, true_and]
  · have hzero : (floatOf l.negative 0 0).isSome = true :=
      (floatOf_isSome_iff (Nat.zero_le _) l.negative 0).2 (.inl rfl)
    rw [float?_eq_ite (Nat.not_le.1 h)]
    by_cases hlow : l.exponentValue < -maxExponent
    · rw [if_neg fun hboth => hboth.2 (by omega)]
      exact iff_of_true hzero (.inr (.inl hlow))
    · have hhigh : ¬ l.exponentValue ≤ maxExponent := by omega
      have hsign : ¬ l.exponentValue < 0 := by omega
      simp only [hlow, hhigh, hsign, false_and, or_false, not_false_eq_true, and_true]
      split
      next hne => exact iff_of_false Bool.false_ne_true hne
      next heq => exact iff_of_true hzero (not_not.1 heq)

/-- A literal has a number exactly if it is within the range. -/
theorem Literal.value?_isSome_iff (l : Literal) : l.value?.isSome = true ↔ l.InRange := by
  rw [← float?_isSome_iff]
  unfold value?
  split
  next n hwhole hfraction hexponent =>
    -- An integer that fits 64 bits has a float, with its sign or without.
    have hfits : n ≤ maxUnsigned := ((l.absorb_whole_iff n).1 hwhole).2
    have hscaled (negative : Bool) : (floatOf negative n 0).isSome = true :=
      (floatOf_isSome_iff hfits negative 0).2
        (.inr ⟨by decide, product_lt_overflow hfits le_rfl⟩)
    have hfloat : l.float? = floatOf l.negative n 0 := by
      unfold float?
      rw [hwhole, hfraction, hexponent]
      rfl
    rw [hfloat]
    refine iff_of_true ?_ (hscaled l.negative)
    split
    next => rfl
    next =>
      split
      next => rfl
      next =>
        rw [Option.isSome_map]
        exact hscaled true
  next => rw [Option.isSome_map]

/-! ## The size of a literal -/

/-- The absolute value of the number that a literal writes. -/
def Literal.size (l : Literal) : ℚ :=
  decimal (l.whole ++ l.fraction.getD []) * 10 ^ (l.exponentValue - (l.fraction.getD []).length)

/-- Going through digits from the first one gives the number that they write. -/
theorem decimal_eq_foldl (digits : List Nat) :
    decimal digits = digits.foldl (fun n d => 10 * n + d) 0 := by
  rw [foldl_digits, Nat.mul_zero, Nat.zero_add]
  rfl

/-- Further digits multiply a number by their places at least. -/
theorem mul_pow_le_foldl (digits : List Nat) (n : Nat) :
    n * 10 ^ digits.length ≤ digits.foldl (fun n d => 10 * n + d) n := by
  rw [foldl_digits, Nat.mul_comm]
  exact Nat.le_add_right _ _

/-- What is taken of the digits of a literal is at most what they write. A digit of the whole part
that does not fit may be followed by one of the fraction that does, but that one is less. -/
theorem Literal.significand_mul_pow_le (l : Literal) :
    ∃ places : Nat, (places : Int) = l.shift + (l.fraction.getD []).length ∧
      l.significand * 10 ^ places ≤ decimal (l.whole ++ l.fraction.getD []) := by
  obtain ⟨takenWhole, hwhole, hfirst, hfits, hnext⟩ :=
    absorb_spec maxUnsigned (Nat.zero_le _) l.whole
  obtain ⟨takenFraction, hfraction, hsecond, hfits', -⟩ :=
    absorb_spec maxUnsigned hfits (l.fraction.getD [])
  unfold significand shift
  generalize absorb maxUnsigned 0 l.whole = wholePart at *
  obtain ⟨w, left⟩ := wholePart
  dsimp only at *
  generalize absorb maxUnsigned w (l.fraction.getD []) = fractionPart at *
  obtain ⟨s, unused⟩ := fractionPart
  dsimp only at *
  refine ⟨left.length + unused.length, ?_, ?_⟩
  · rw [hfraction, List.length_append]
    omega
  -- After the digits that were taken first come those of the whole part that did not fit.
  have hdigits : decimal (l.whole ++ l.fraction.getD []) =
      (left ++ (takenFraction ++ unused)).foldl (fun n d => 10 * n + d) w := by
    rw [hwhole, hfraction, decimal_eq_foldl, List.append_assoc, List.foldl_append, ← hfirst]
  rw [hdigits]
  match left, takenFraction with
  | [], _ =>
    rw [List.nil_append, List.foldl_append, ← hsecond, List.length_nil, Nat.zero_add]
    exact mul_pow_le_foldl unused s
  | d :: left, [] =>
    obtain rfl : s = w := hsecond
    rw [List.nil_append, ← List.length_append]
    exact mul_pow_le_foldl _ s
  | d :: left, e :: others =>
    have hless : s ≤ 10 * w + d := (hfits'.trans_lt (hnext d rfl)).le
    rw [List.cons_append, List.foldl_cons]
    calc s * 10 ^ ((d :: left).length + unused.length)
        ≤ (10 * w + d) * 10 ^ (left ++ (e :: others ++ unused)).length := by
          refine Nat.mul_le_mul hless (Nat.pow_le_pow_right (by decide) ?_)
          simp only [List.length_append, List.length_cons]
          omega
      _ ≤ _ := mul_pow_le_foldl _ _

/-- What is taken of a literal is at most what it writes. -/
theorem Literal.significand_mul_le_size (l : Literal) :
    (l.significand : ℚ) * 10 ^ l.power ≤ l.size := by
  obtain ⟨places, hplaces, hle⟩ := l.significand_mul_pow_le
  have hpower : l.power = places + (l.exponentValue - (l.fraction.getD []).length) := by
    unfold power
    omega
  have hcast : (l.significand : ℚ) * 10 ^ places ≤ decimal (l.whole ++ l.fraction.getD []) := by
    exact_mod_cast hle
  rw [hpower, zpow_add₀ (by norm_num), zpow_natCast, ← mul_assoc]
  unfold size
  gcongr

/-- A literal of at most `1.7976931348623154e308` with an exponent that is computed with is within
the range. -/
theorem Literal.inRange_of_size_le {l : Literal} (hsize : l.size ≤ 17976931348623154 * 10 ^ 292)
    (hexponent : l.exponentValue ≤ maxExponent) : l.InRange := by
  have htaken := l.significand_mul_le_size.trans hsize
  by_cases hzero : l.significand = 0
  · exact .inl hzero
  refine .inr (.inr ⟨hexponent, ?_⟩)
  have hone : (1 : ℚ) ≤ l.significand := by exact_mod_cast Nat.pos_of_ne_zero hzero
  have hpower : l.power < 309 := by
    have hlt : (10 : ℚ) ^ l.power < 10 ^ (309 : Int) := by
      calc (10 : ℚ) ^ l.power ≤ l.significand * 10 ^ l.power :=
            le_mul_of_one_le_left (by positivity) hone
        _ ≤ 17976931348623154 * 10 ^ 292 := htaken
        _ < 10 ^ (17 + 292) := by
          rw [pow_add]
          gcongr
          norm_num
        _ = 10 ^ (309 : Int) := (zpow_natCast (10 : ℚ) 309).symm
    exact (zpow_lt_zpow_iff_right₀ (by norm_num)).1 hlt
  refine ⟨by omega, ?_⟩
  rcases le_total l.power 0 with hnonpos | hnonneg
  · exact product_lt_overflow l.significand_le hnonpos
  · obtain ⟨p, hp⟩ := Int.eq_ofNat_of_zero_le hnonneg
    rw [hp, zpow_natCast] at htaken
    rw [hp, Int.toNat_natCast]
    have hproduct : l.significand * 10 ^ p ≤ 17976931348623154 * 10 ^ 292 := by
      exact_mod_cast htaken
    have hbound : (2 ^ 53 + 1) * (2 ^ 53 + 1) * (17976931348623154 * 10 ^ 292) <
        2 ^ 53 * 2 ^ 53 * overflow := by decide +kernel
    -- Each of the two roundings adds one part in `2 ^ 53` at most, and the bound leaves room for
    -- both.
    refine Nat.lt_of_mul_lt_mul_left (a := 2 ^ 53 * 2 ^ 53) ?_
    calc 2 ^ 53 * 2 ^ 53 * (rounded l.significand * rounded (10 ^ p))
        = (2 ^ 53 * rounded l.significand) * (2 ^ 53 * rounded (10 ^ p)) := by ring
      _ ≤ ((2 ^ 53 + 1) * l.significand) * ((2 ^ 53 + 1) * 10 ^ p) :=
        Nat.mul_le_mul (rounded_mul_le _) (rounded_mul_le _)
      _ = (2 ^ 53 + 1) * (2 ^ 53 + 1) * (l.significand * 10 ^ p) := by ring
      _ ≤ (2 ^ 53 + 1) * (2 ^ 53 + 1) * (17976931348623154 * 10 ^ 292) :=
        Nat.mul_le_mul_left _ hproduct
      _ < 2 ^ 53 * 2 ^ 53 * overflow := hbound

end MakeLint.Json
