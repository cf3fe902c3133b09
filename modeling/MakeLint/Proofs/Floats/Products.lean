import MakeLint.Proofs.Floats.Rounding

/-!
# Products of floats

A float that holds a natural number is zero, or has 53 binary digits and a power of two
(`Holds`). A float that a number is rounded to holds the number rounded to 53 binary digits, and is
infinite if that is too large (`Rounds`). The product of two floats that hold numbers is what the
product of the numbers is rounded to (`mul_rounds`). From it follows what the powers of ten
(`ofScientific_rounds`) and the natural numbers (`ofNat_rounds`) are converted to.
-/

namespace MakeLint.Floats

open Float.Model
open Float.Model.UnpackedFloat

/-! ## Rounding a mantissa -/

/-- A mantissa that is shifted keeps the digits above; of the digits below it remembers the first
one, and whether another one is not zero. -/
theorem shift_succ (m k : Nat) :
    ExtendedMantissa.ofMantissaAndAccuracy m .exact >>> (k + 1) =
      ⟨m / 2 ^ (k + 1), m / 2 ^ k % 2 != 0, decide (m % 2 ^ k ≠ 0)⟩ := by
  change Nat.repeat ExtendedMantissa.shiftRightOne (k + 1) ⟨m, false, false⟩ = _
  induction k with
  | zero =>
    rw [Nat.repeat, Nat.repeat, ExtendedMantissa.shiftRightOne]
    simp [Nat.mod_one]
  | succ k ih =>
    have hsticky : ((m / 2 ^ k % 2 != 0) || decide (m % 2 ^ k ≠ 0)) =
        decide (m % 2 ^ (k + 1) ≠ 0) := by
      have hpos : 0 < 2 ^ k := Nat.two_pow_pos k
      rw [Nat.mod_pow_succ]
      rcases Nat.mod_two_eq_zero_or_one (m / 2 ^ k) with hdigit | hdigit
      · simp [hdigit]
      · simp [hdigit]
    rw [Nat.repeat, ih, ExtendedMantissa.shiftRightOne, hsticky, Nat.div_div_eq_div_mul,
      ← Nat.pow_succ]

/-- A mantissa is rounded up if the first digit below is one and another one is not zero, or if
without another one the mantissa is odd. -/
theorem roundedMantissa_mk (mantissa : Nat) (half more : Bool) :
    (ExtendedMantissa.mk mantissa half more).roundedMantissa =
      if half = true ∧ (more = true ∨ mantissa % 2 = 1) then mantissa + 1 else mantissa := by
  cases half with
  | false => cases more <;> rfl
  | true =>
    cases more with
    | true => rfl
    | false =>
      change mantissa + mantissa % 2 = _
      rcases Nat.mod_two_eq_zero_or_one mantissa with heven | hodd
      · simp [heven]
      · simp [hodd]

/-- Shifting a mantissa and rounding by what is remembered gives the nearest number. -/
theorem roundedMantissa_shift (m k : Nat) :
    (ExtendedMantissa.ofMantissaAndAccuracy m .exact >>> k).roundedMantissa =
      nearest m (2 ^ k) := by
  cases k with
  | zero =>
    have hexact : nearest (m * 1) 1 = m := nearest_mul_self m Nat.one_pos
    rw [Nat.pow_zero, ← Nat.mul_one m, hexact, Nat.mul_one]
    rfl
  | succ k =>
    -- The digits below are the first one, which counts a half, and the rest, which is less.
    have hbelow : m % 2 ^ (k + 1) = m % 2 ^ k + 2 ^ k * (m / 2 ^ k % 2) := Nat.mod_pow_succ
    have hrest : m % 2 ^ k < 2 ^ k := Nat.mod_lt m (Nat.two_pow_pos k)
    have hdouble : 2 ^ (k + 1) = 2 * 2 ^ k := Nat.pow_succ'
    rw [shift_succ, roundedMantissa_mk, nearest, hbelow]
    refine if_congr ?_ rfl rfl
    rw [bne_iff_ne, decide_eq_true_iff]
    rcases Nat.mod_two_eq_zero_or_one (m / 2 ^ k) with hdigit | hdigit
    · rw [hdigit]
      omega
    · rw [hdigit]
      omega

/-- The exponent that a mantissa of at least 53 digits is brought to, unless it is too small. -/
theorem targetExponent_eq {m : Nat} {e : Int} (hm : 52 ≤ m.log2)
    (he : -1074 ≤ e + (m.log2 - 52 : Nat)) :
    Format.binary64.targetExponent (totalExponent m e) = e + (m.log2 - 52 : Nat) := by
  change max ((m.log2 + 1 : Int) + e - (1 + 52 : Nat)) (3 - 2 ^ 10 - (1 + 52 : Nat)) = _
  omega

/-- A mantissa of exactly 53 digits stays as it is. -/
theorem shiftToTargetExponent_of_lt {m : Nat} {e : Int} (hlow : 2 ^ 52 ≤ m) (hhigh : m < 2 ^ 53)
    (he : -1074 ≤ e) :
    shiftToTargetExponent Format.binary64 m e .exact = (⟨m, false, false⟩, e) := by
  have hlog : m.log2 = 52 := (Nat.log2_eq_iff (by omega)).2 ⟨hlow, hhigh⟩
  have htarget := targetExponent_eq (e := e) hlog.ge (by omega)
  unfold shiftToTargetExponent shiftToExponent
  rw [htarget, hlog]
  simp
  rfl

/-- A mantissa that is the next power of two loses a zero. -/
theorem shiftToTargetExponent_two_pow {e : Int} (he : -1074 ≤ e) :
    shiftToTargetExponent Format.binary64 (2 ^ 53) e .exact = (⟨2 ^ 52, false, false⟩, e + 1) := by
  have hlog : (2 ^ 53).log2 = 53 := Nat.log2_two_pow
  have htarget := targetExponent_eq (m := 2 ^ 53) (e := e) (by omega) (by omega)
  unfold shiftToTargetExponent shiftToExponent
  rw [htarget, hlog]
  simp
  rfl

/-- A mantissa of at least 53 digits is rounded to 53 digits. -/
theorem roundWithAccuracy_eq {m : Nat} {e : Int} (hm : 2 ^ 52 ≤ m)
    (he : -1074 ≤ e + (m.log2 - 52 : Nat)) :
    ∃ (mantissa : Nat) (exponent : Int) (hpos : 0 < mantissa),
      roundWithAccuracy Format.binary64 .positive m e .exact =
          .finite .positive mantissa exponent hpos ∧
        2 ^ 52 ≤ mantissa ∧ mantissa < 2 ^ 53 ∧ -1074 ≤ exponent ∧
        (mantissa : ℚ) * 2 ^ exponent = rounded m * 2 ^ e := by
  have hlog : 52 ≤ m.log2 := (Nat.le_log2 (by omega)).2 hm
  obtain ⟨hleast, hgreatest⟩ := nearest_lastPlace_bounds hm
  -- The first shift brings the mantissa to 53 digits, and it is rounded there.
  have hfirst : shiftToTargetExponent Format.binary64 m e .exact =
      (ExtendedMantissa.ofMantissaAndAccuracy m .exact >>> (m.log2 - 52),
        e + (m.log2 - 52 : Nat)) := by
    unfold shiftToTargetExponent shiftToExponent
    dsimp only
    rw [targetExponent_eq hlog he, add_sub_cancel_left, Int.toNat_natCast]
  have hround : (ExtendedMantissa.ofMantissaAndAccuracy m .exact >>>
      (m.log2 - 52)).roundedMantissa = nearest m (lastPlace m) := roundedMantissa_shift m _
  have hvalue : (rounded m : ℚ) * 2 ^ e =
      nearest m (lastPlace m) * 2 ^ (e + (m.log2 - 52 : Nat)) := by
    rw [rounded, lastPlace, zpow_add₀ two_ne_zero, zpow_natCast]
    push_cast
    ring
  rw [hvalue]
  generalize e + (m.log2 - 52 : Nat) = exponent at hfirst he ⊢
  generalize nearest m (lastPlace m) = mantissa at hround hleast hgreatest ⊢
  unfold roundWithAccuracy
  rw [hfirst]
  dsimp only
  rw [hround]
  rcases hgreatest.lt_or_eq with hlt | rfl
  · have hpos : 0 < mantissa := by omega
    refine ⟨mantissa, exponent, hpos, ?_, hleast, hlt, he, rfl⟩
    rw [shiftToTargetExponent_of_lt hleast hlt he]
    exact dif_neg hpos.ne'
  · -- The mantissa was rounded up to the next power of two.
    refine ⟨2 ^ 52, exponent + 1, by decide, ?_, le_rfl, by decide, by omega, ?_⟩
    · rw [shiftToTargetExponent_two_pow he]
      exact dif_neg (Nat.two_pow_pos 52).ne'
    · rw [zpow_add_one₀ two_ne_zero]
      push_cast
      ring

/-! ## Packing -/

/-- A mantissa of 53 digits is found again behind its first digit, which is not packed. -/
theorem toNat_one_append {m : Nat} (hlow : 2 ^ 52 ≤ m) (hhigh : m < 2 ^ 53) :
    (1#1 ++ BitVec.ofNat 52 m).toNat = m := by
  rw [BitVec.toNat_append, ← Nat.shiftLeft_add_eq_or_of_lt (BitVec.isLt _), BitVec.toNat_ofNat]
  change 1 <<< 52 + m % 2 ^ 52 = m
  omega

/-- The bits of an exponent that is neither that of small numbers nor that of infinity, and of a
mantissa of 53 digits, stand for both. -/
theorem unpack_packComponents {m biased : Nat} (hpos : 0 < m) (hlow : 2 ^ 52 ≤ m)
    (hhigh : m < 2 ^ 53) (hsmall : 0 < biased) (hlarge : biased < 2047) :
    UnpackedFloat.unpack Format.binary64 (packComponents Format.binary64 .positive
        (BitVec.ofNat 11 biased) (BitVec.ofNat 52 m)) =
      .finite .positive m ((biased : Int) - ((1023 : Nat) + (52 : Nat))) hpos := by
  have hexponent : (BitVec.ofNat 11 biased).toNat = biased := by
    rw [BitVec.toNat_ofNat]
    omega
  have hnotZero : BitVec.ofNat 11 biased ≠ 0#11 := by
    intro h
    have hzero : biased = 0 := hexponent.symm.trans (congrArg BitVec.toNat h)
    omega
  have hnotOnes : BitVec.ofNat 11 biased ≠ -1#11 := by
    intro h
    have hones : biased = 2047 := hexponent.symm.trans (congrArg BitVec.toNat h)
    omega
  unfold UnpackedFloat.unpack
  simp only [unpackMantissa_packComponents, unpackExponent_packComponents,
    unpackSign_packComponents, Sign.ofBitVec_toBitVec]
  rw [if_neg hnotOnes, if_neg hnotZero]
  congr 1
  · exact toNat_one_append hlow hhigh
  · rw [hexponent]
    rfl

/-- The bits of a float with 53 digits stand for it, unless its exponent is too large; then they
stand for infinity. -/
theorem unpack_pack {m : Nat} {e : Int} (hpos : 0 < m) (hlow : 2 ^ 52 ≤ m) (hhigh : m < 2 ^ 53)
    (he : -1074 ≤ e) :
    (Float.Model.pack (.finite .positive m e hpos)).unpack =
      if e ≤ 971 then .finite .positive m e hpos else .infinity .positive := by
  have hlog : m.log2 + 1 = 53 := congrArg (· + 1) ((Nat.log2_eq_iff (by omega)).2 ⟨hlow, hhigh⟩)
  obtain ⟨biased, hbiased⟩ : ∃ biased : Nat, (e + (1023 : Nat) + (52 : Nat)).toNat = biased :=
    ⟨_, rfl⟩
  have hpack : UnpackedFloat.pack Format.binary64 (.finite .positive m e hpos) =
      if 2048 ≤ biased + 1 then packedInfinity Format.binary64 .positive
      else packComponents Format.binary64 .positive (BitVec.ofNat 11 biased)
        (BitVec.ofNat 52 m) := by
    rw [← hbiased]
    exact if_congr Iff.rfl rfl (if_pos hlog)
  change UnpackedFloat.unpack Format.binary64
    (UnpackedFloat.pack Format.binary64 (.finite .positive m e hpos)) = _
  rw [hpack]
  by_cases hfits : e ≤ 971
  · have hexponent : (biased : Int) - ((1023 : Nat) + (52 : Nat)) = e := by omega
    rw [if_pos hfits, if_neg (by omega),
      unpack_packComponents hpos hlow hhigh (by omega) (by omega), hexponent]
  · rw [if_neg hfits, if_pos (by omega)]
    rfl

/-! ## Floats that hold natural numbers -/

/-- A float that holds a natural number: it is zero, or it has 53 binary digits and a power of
two. -/
inductive Holds (x : Float) : Nat → Prop where
  | zero (unpacked : x.toModel.unpack = .zero .positive) : Holds x 0
  | finite {n m : Nat} {e : Int} {hpos : 0 < m}
      (unpacked : x.toModel.unpack = .finite .positive m e hpos) (low : 2 ^ 52 ≤ m)
      (value : (m : ℚ) * 2 ^ e = n) : Holds x n

/-- A float that a natural number is rounded to: it holds the rounded number, or it is infinite if
that is too large. -/
structure Rounds (x : Float) (n : Nat) : Prop where
  holds : n < overflow → Holds x (rounded n)
  infinite : overflow ≤ n → x.toModel.unpack = .infinity .positive

/-- Rounding a mantissa is rounding the number that it makes up with its power of two. -/
theorem rounded_mul_zpow {m n : Nat} {e : Int} (h : (m : ℚ) * 2 ^ e = n) :
    (rounded m : ℚ) * 2 ^ e = rounded n := by
  cases e with
  | ofNat c =>
    rw [Int.ofNat_eq_natCast, zpow_natCast] at h ⊢
    have hnat : m * 2 ^ c = n := by exact_mod_cast h
    rw [← hnat, rounded_mul_two_pow]
    push_cast
    rfl
  | negSucc c =>
    have hpos : (2 : ℚ) ^ (c + 1) ≠ 0 := by positivity
    rw [zpow_negSucc, ← div_eq_mul_inv, div_eq_iff hpos] at h ⊢
    have hnat : m = n * 2 ^ (c + 1) := by exact_mod_cast h
    rw [hnat, rounded_mul_two_pow]
    push_cast
    rfl

/-- The digits of a mantissa reach up to the unit digit of the number. -/
theorem log2_add_nonneg {m n : Nat} {e : Int} (hn : 0 < n) (h : (m : ℚ) * 2 ^ e = n) :
    0 ≤ (m.log2 : Int) + e := by
  have hlt : (m : ℚ) < 2 ^ (m.log2 + 1) := by exact_mod_cast Nat.lt_log2_self
  have hone : (1 : ℚ) ≤ n := by exact_mod_cast hn
  have hpower : (2 : ℚ) ^ (0 : Int) < 2 ^ ((m.log2 : Int) + 1 + e) := by
    calc (2 : ℚ) ^ (0 : Int) ≤ m * 2 ^ e := by rw [zpow_zero, h]; exact hone
      _ < 2 ^ (m.log2 + 1) * 2 ^ e := by gcongr
      _ = 2 ^ ((m.log2 : Int) + 1 + e) := by
        rw [zpow_add₀ two_ne_zero, ← Nat.cast_succ, zpow_natCast]
  have hexponent := (zpow_lt_zpow_iff_right₀ one_lt_two).1 hpower
  omega

/-- The exponent of a number of 53 digits shows between which powers of two the number lies. -/
theorem exponent_le_iff {m n : Nat} {e : Int} (hlow : 2 ^ 52 ≤ m) (hhigh : m < 2 ^ 53)
    (h : (m : ℚ) * 2 ^ e = n) {p top : Nat} (htop : top = 53 + p) : e ≤ p ↔ n < 2 ^ top := by
  have hlow' : (2 : ℚ) ^ 52 ≤ m := by exact_mod_cast hlow
  have hhigh' : (m : ℚ) < 2 ^ 53 := by exact_mod_cast hhigh
  have hcast : n < 2 ^ top ↔ (n : ℚ) < 2 ^ 53 * 2 ^ (p : Int) := by
    rw [zpow_natCast, ← pow_add, ← htop]
    exact_mod_cast Iff.rfl
  rw [hcast, ← h]
  constructor
  · intro he
    have hpower : (2 : ℚ) ^ e ≤ 2 ^ (p : Int) := zpow_le_zpow_right₀ one_le_two he
    calc (m : ℚ) * 2 ^ e < 2 ^ 53 * 2 ^ e := by gcongr
      _ ≤ 2 ^ 53 * 2 ^ (p : Int) := by gcongr
  · intro hlt
    by_contra he
    have hpower : (2 : ℚ) ^ ((p : Int) + 1) ≤ 2 ^ e := zpow_le_zpow_right₀ one_le_two (by omega)
    have hsplit : (2 : ℚ) ^ 53 * 2 ^ (p : Int) = 2 ^ 52 * 2 ^ ((p : Int) + 1) := by
      rw [zpow_add_one₀ two_ne_zero]
      ring
    have hge : (2 : ℚ) ^ 53 * 2 ^ (p : Int) ≤ m * 2 ^ e := by
      rw [hsplit]
      gcongr
    exact absurd hlt (not_lt.2 hge)

/-- Packing a mantissa of at least 53 digits rounds the number that it makes up with its power of
two. -/
theorem rounds_pack {m n : Nat} {e : Int} (hm : 2 ^ 52 ≤ m) (hn : 0 < n)
    (h : (m : ℚ) * 2 ^ e = n) :
    Rounds (.ofModel (Float.Model.pack (roundWithAccuracy Format.binary64 .positive m e .exact)))
      n := by
  have hlog := log2_add_nonneg hn h
  obtain ⟨mantissa, exponent, hpos, hround, hlow, hhigh, hleast, hvalue⟩ :=
    roundWithAccuracy_eq hm (by omega : -1074 ≤ e + (m.log2 - 52 : Nat))
  rw [rounded_mul_zpow h] at hvalue
  have htop : 1024 = 53 + 971 := rfl
  have hfits : exponent ≤ 971 ↔ n < overflow :=
    (exponent_le_iff hlow hhigh hvalue htop).trans (rounded_lt_iff n)
  have hunpack := unpack_pack hpos hlow hhigh hleast
  rw [hround]
  constructor
  · intro hlarge
    rw [if_pos (hfits.2 hlarge)] at hunpack
    exact .finite hunpack hlow hvalue
  · intro hlarge
    rw [if_neg (mt hfits.1 (Nat.not_lt.2 hlarge))] at hunpack
    exact hunpack

/-! ## Products -/

/-- A number of at most 53 digits is not rounded beyond the greatest float. -/
theorem lt_overflow {n : Nat} (h : n < 2 ^ 53) : n < overflow := by
  refine (rounded_lt_iff n).1 ?_
  rw [rounded_of_lt h]
  calc n < 2 ^ 53 := h
    _ ≤ 2 ^ 1024 := pow_le_pow_right₀ one_le_two (by decide)

/-- Packing zero rounds zero. -/
theorem rounds_zero : Rounds (.ofModel (Float.Model.pack (.zero .positive))) 0 where
  holds _ := by
    rw [rounded_of_lt (by decide)]
    exact .zero unpack_packedZero
  infinite h := absurd h (Nat.not_le.2 (lt_overflow (by decide)))

/-- A number with digits is not zero. -/
theorem pos_of_value {m n : Nat} {e : Int} (hm : 0 < m) (h : (m : ℚ) * 2 ^ e = n) : 0 < n := by
  have hpos : (0 : ℚ) < n := by
    rw [← h]
    positivity
  exact_mod_cast hpos

/-- The product of floats that hold natural numbers rounds the product of the numbers. -/
theorem mul_rounds {x y : Float} {m n : Nat} (hx : Holds x m) (hy : Holds y n) :
    Rounds (x * y) (m * n) := by
  change Rounds (.ofModel (Float.Model.pack
    (UnpackedFloat.mul Format.binary64 x.toModel.unpack y.toModel.unpack))) (m * n)
  -- A product with zero is zero, whatever the other float is.
  cases hx with
  | zero hx =>
    rw [hx, Nat.zero_mul]
    cases hy with
    | zero hy =>
      rw [hy]
      exact rounds_zero
    | finite hy hlow hvalue =>
      rw [hy]
      exact rounds_zero
  | @finite _ a i hpos hx hlow hvalue =>
    rw [hx]
    cases hy with
    | zero hy =>
      rw [hy]
      exact rounds_zero
    | @finite _ b j hpos' hy hlow' hvalue' =>
      rw [hy]
      have hproduct : ((a * b : Nat) : ℚ) * 2 ^ (i + j) = (m * n : Nat) := by
        rw [zpow_add₀ two_ne_zero]
        push_cast
        rw [← hvalue, ← hvalue']
        ring
      refine rounds_pack (hlow.trans (Nat.le_mul_of_pos_right a hpos')) ?_ hproduct
      exact Nat.mul_pos (pos_of_value hpos hvalue) (pos_of_value hpos' hvalue')

/-! ## Natural numbers as floats -/

/-- A natural number of at most 53 digits is converted by way of a word of 64 bits. -/
theorem toFloat_rounds {n : Nat} (hn : n < 2 ^ 53) : Rounds n.toUInt64.toFloat n := by
  have hword : n.toUInt64.toNat = n := UInt64.toNat_ofNat_of_lt (hn.trans (by decide))
  change Rounds (.ofModel (Float.Model.pack
    (UnpackedFloat.normalize Format.binary64 (n.toUInt64.toNat : Int) 0 .positive))) n
  rw [hword]
  rcases Nat.eq_zero_or_pos n with rfl | hpos
  · exact rounds_zero
  · have hlog : n.log2 < 53 := (Nat.log2_lt hpos.ne').2 hn
    -- Zeros are put behind the number until it has 53 digits.
    have hnormalize : UnpackedFloat.normalize Format.binary64 (n : Int) 0 .positive =
        roundWithAccuracy Format.binary64 .positive (n * 2 ^ (52 - n.log2))
          (-((52 - n.log2 : Nat) : Int)) .exact := by
      have htarget : Format.binary64.targetExponent (totalExponent n 0) =
          -((52 - n.log2 : Nat) : Int) := by
        change max ((n.log2 + 1 : Int) + 0 - (1 + 52 : Nat)) (3 - 2 ^ 10 - (1 + 52 : Nat)) = _
        omega
      unfold UnpackedFloat.normalize UnpackedFloat.round decreaseExponent
      rw [Int.compare_eq_gt.2 (by omega)]
      dsimp only
      rw [Int.toNat_natCast, htarget, zero_sub, neg_neg, Int.toNat_natCast, Nat.shiftLeft_eq,
        zero_sub]
    have hlong : 2 ^ 52 ≤ n * 2 ^ (52 - n.log2) := by
      calc 2 ^ 52 = 2 ^ n.log2 * 2 ^ (52 - n.log2) := by
            rw [← Nat.pow_add, Nat.add_sub_cancel' (by omega)]
        _ ≤ n * 2 ^ (52 - n.log2) := Nat.mul_le_mul_right _ (Nat.log2_self_le hpos.ne')
    rw [hnormalize]
    refine rounds_pack hlong hpos ?_
    push_cast
    rw [zpow_neg, zpow_natCast, mul_assoc, mul_inv_cancel₀ (by positivity), mul_one]

/-- Whether the parts of a float make up a natural number that is not zero. -/
def partsMatch (x : Float) (n : Nat) : Bool :=
  match x.toModel.unpack with
  | .finite .positive m e _ => 2 ^ 52 ≤ m ∧ m * 2 ^ e.toNat = n * 2 ^ (-e).toNat
  | _ => false

/-- A float whose parts make up a natural number holds it. -/
theorem holds_of_partsMatch {x : Float} {n : Nat} (h : partsMatch x n = true) : Holds x n := by
  unfold partsMatch at h
  split at h
  next m e hpos hunpack =>
    obtain ⟨hlow, hvalue⟩ := of_decide_eq_true h
    refine .finite hunpack hlow ?_
    have hcast : (m : ℚ) * 2 ^ e.toNat = n * 2 ^ (-e).toNat := by exact_mod_cast hvalue
    cases e with
    | ofNat c =>
      rw [Int.ofNat_eq_natCast, Int.toNat_natCast, Int.toNat_neg_natCast, pow_zero,
        mul_one] at hcast
      rw [Int.ofNat_eq_natCast, zpow_natCast, hcast]
    | negSucc c =>
      rw [zpow_negSucc, ← div_eq_mul_inv, div_eq_iff (by positivity)]
      exact (mul_one _).symm.trans hcast
  next => cases h

/-- The powers of ten that are kept as floats hold what they stand for. -/
theorem powersOfTen_hold (e : Fin Float.exactlyRepresentablePowersOfTen.size) :
    Holds Float.exactlyRepresentablePowersOfTen[e] (10 ^ e.val) := by
  have hmatch : ∀ e : Fin Float.exactlyRepresentablePowersOfTen.size,
      partsMatch Float.exactlyRepresentablePowersOfTen[e] (10 ^ e.val) = true := by
    decide +kernel
  exact holds_of_partsMatch (hmatch e)

/-- A significand and a power of ten are converted to the float that their product is rounded to. -/
theorem ofScientific_rounds (n : Nat) {e : Nat} (he : e ≤ 2048) :
    Rounds (Float.ofScientific n false e) (n * 10 ^ e) := by
  unfold Float.ofScientific
  split
  next h =>
    -- Both are floats without rounding.
    have hn : Holds n.toUInt64.toFloat n := by
      have hrounded := (toFloat_rounds h.1).holds (lt_overflow h.1)
      rwa [rounded_of_lt h.1] at hrounded
    have hkept : e < Float.exactlyRepresentablePowersOfTen.size :=
      Nat.lt_of_le_of_lt h.2 (by decide)
    exact mul_rounds hn (powersOfTen_hold ⟨e, hkept⟩)
  next h =>
    change Rounds (.ofModel (Float.Model.pack
      (UnpackedFloat.ofScientific Format.binary64 n (e : Int)))) (n * 10 ^ e)
    unfold UnpackedFloat.ofScientific
    split
    next hzero =>
      rw [hzero, Nat.zero_mul]
      exact rounds_zero
    next hzero =>
      have hsmall : ¬ (e : Int) > 2 ^ 11 := by omega
      have hlarge : ¬ (e : Int) < -(2 ^ 11 + (n.log2 : Int)) := by omega
      have hproduct : ((n * 2 ^ 53 * 10 ^ e : Nat) : ℚ) * 2 ^ (-53 + 0 : Int) =
          (n * 10 ^ e : Nat) := by
        push_cast
        norm_num
        ring
      have hpos : 0 < n * 10 ^ e := by positivity
      have hlong : 2 ^ 52 ≤ n * 2 ^ 53 * 10 ^ e := by
        calc 2 ^ 52 ≤ 2 ^ 53 * (n * 10 ^ e) := by omega
          _ = n * 2 ^ 53 * 10 ^ e := by ring
      rw [if_neg hsmall, if_neg hlarge, if_pos (Int.natCast_nonneg e)]
      change Rounds (.ofModel (Float.Model.pack (roundWithAccuracy Format.binary64 .positive
        (n <<< 53 * 10 ^ e) (-53 + 0) .exact))) (n * 10 ^ e)
      rw [Nat.shiftLeft_eq]
      exact rounds_pack hlong hpos hproduct

/-- A natural number is converted to the float that it is rounded to. -/
theorem ofNat_rounds (n : Nat) : Rounds (Float.ofNat n) n := by
  have hone : n * 10 ^ 0 = n := Nat.mul_one n
  have hrounds := ofScientific_rounds n (Nat.zero_le 2048)
  rw [hone] at hrounds
  exact hrounds

/-! ## Telling floats apart -/

/-- A float that a number is rounded to is infinite exactly if the number is too large. -/
theorem Rounds.isInf_iff {x : Float} {n : Nat} (h : Rounds x n) :
    x.isInf = true ↔ ¬ n < overflow := by
  have hunpack : x.isInf = x.toModel.unpack.isInf := rfl
  rw [hunpack]
  by_cases hlarge : n < overflow
  · refine iff_of_false ?_ (not_not_intro hlarge)
    have hholds := h.holds hlarge
    generalize rounded n = value at hholds
    cases hholds with
    | zero hx => rw [hx]; exact Bool.false_ne_true
    | finite hx _ _ => rw [hx]; exact Bool.false_ne_true
  · rw [h.infinite (Nat.not_lt.1 hlarge)]
    exact iff_of_true rfl hlarge

/-- A float that holds a natural number equals zero exactly if the number does. -/
theorem Holds.beq_zero_iff {x : Float} {n : Nat} (h : Holds x n) :
    (x == 0.0) = true ↔ n = 0 := by
  have hbeq : (x == 0.0) = x.toModel.unpack.beq (0.0 : Float).toModel.unpack := rfl
  have hzero : (0.0 : Float).toModel.unpack = .zero .positive := rfl
  rw [hbeq, hzero]
  cases h with
  | zero hx =>
    rw [hx]
    exact iff_of_true rfl rfl
  | @finite _ m e hpos hx _ hvalue =>
    rw [hx]
    exact iff_of_false Bool.false_ne_true (pos_of_value hpos hvalue).ne'

end MakeLint.Floats
