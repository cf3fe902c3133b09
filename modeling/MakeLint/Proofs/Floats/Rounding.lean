import Mathlib

/-!
# Rounding to 53 binary digits

A float has 53 binary digits. A natural number with more digits is rounded to a multiple of its last
place: to the nearest one, and of two equally near ones to the even one (`rounded`). Rounding does
not depend on the scale (`rounded_mul_two_pow`), adds at most one part in `2 ^ 53`
(`rounded_mul_le`), and goes beyond the greatest float from halfway to the next power of two on
(`rounded_lt_iff`). All of this is about natural numbers; `Floats/Products.lean` shows that floats
compute it.
-/

namespace MakeLint.Floats

/-- The natural number nearest to a quotient, the even one of two that are equally near. -/
def nearest (a d : Nat) : Nat :=
  if d < 2 * (a % d) ∨ (d = 2 * (a % d) ∧ a / d % 2 = 1) then a / d + 1 else a / d

/-- The place of the last of 53 binary digits, one for numbers of fewer digits. -/
def lastPlace (n : Nat) : Nat := 2 ^ (n.log2 - 52)

/-- A number rounded to 53 binary digits. -/
def rounded (n : Nat) : Nat := nearest n (lastPlace n) * lastPlace n

/-- The least number that is rounded beyond the greatest float: it lies halfway between that float
and `2 ^ 1024`. -/
def overflow : Nat := 2 ^ 1024 - 2 ^ 970

/-! ## The nearest number to a quotient -/

/-- The nearest number is the quotient without its fraction or the next one. -/
theorem div_le_nearest (a d : Nat) : a / d ≤ nearest a d := by
  unfold nearest
  split <;> omega

theorem nearest_le_succ_div (a d : Nat) : nearest a d ≤ a / d + 1 := by
  unfold nearest
  split <;> omega

/-- Scaling both parts of a quotient changes nothing. -/
theorem nearest_mul_mul (a d : Nat) {c : Nat} (hc : 0 < c) :
    nearest (a * c) (d * c) = nearest a d := by
  have hlt : d * c < 2 * (a % d * c) ↔ d < 2 * (a % d) := by
    rw [← Nat.mul_assoc]
    exact Nat.mul_lt_mul_right hc
  have heq : d * c = 2 * (a % d * c) ↔ d = 2 * (a % d) := by
    rw [← Nat.mul_assoc]
    exact Nat.mul_left_inj hc.ne'
  unfold nearest
  rw [Nat.mul_div_mul_right _ _ hc, Nat.mul_mod_mul_right]
  simp only [hlt, heq]

/-- A quotient without a fraction is its own nearest number. -/
theorem nearest_mul_self (q : Nat) {d : Nat} (hd : 0 < d) : nearest (q * d) d = q := by
  unfold nearest
  rw [Nat.mul_mod_left, Nat.mul_div_cancel _ hd, if_neg (by omega)]

/-- The nearest multiple is at most half of the divisor above. -/
theorem two_mul_nearest_mul_le (a d : Nat) : 2 * (nearest a d * d) ≤ 2 * a + d := by
  have hdivision : a / d * d + a % d = a := Nat.div_add_mod' a d
  unfold nearest
  split
  next h =>
    rw [Nat.succ_mul (a / d) d]
    omega
  next h => omega

/-- The nearest number is below an even one if the quotient is below by more than a half: halfway
the even one is taken. -/
theorem nearest_lt_iff_of_even {a d m : Nat} (hd : 0 < d) (hm : m % 2 = 0) (hpos : 0 < m) :
    nearest a d < m ↔ 2 * a + d < 2 * (m * d) := by
  have hdivision : a / d * d + a % d = a := Nat.div_add_mod' a d
  have hrest : a % d < d := Nat.mod_lt a hd
  obtain ⟨p, rfl⟩ : ∃ p, m = p + 1 := ⟨m - 1, by omega⟩
  rcases Nat.lt_trichotomy (a / d) p with hlt | heq | hgt
  · have hnearest : nearest a d < p + 1 :=
      (nearest_le_succ_div a d).trans_lt (Nat.succ_lt_succ hlt)
    have hmul : (a / d + 1) * d ≤ p * d := Nat.mul_le_mul_right d hlt
    rw [Nat.succ_mul (a / d) d] at hmul
    rw [Nat.succ_mul p d]
    omega
  · -- The quotient without its fraction is odd, and its fraction decides.
    unfold nearest
    rw [heq] at hdivision ⊢
    rw [Nat.succ_mul p d]
    split <;> omega
  · have hnearest : p + 1 ≤ nearest a d := Nat.le_trans hgt (div_le_nearest a d)
    have hmul : (p + 1) * d ≤ a / d * d := Nat.mul_le_mul_right d hgt
    omega

/-! ## Numbers of 53 digits -/

theorem lastPlace_pos (n : Nat) : 0 < lastPlace n := Nat.two_pow_pos _

/-- A multiple of its last place is not changed. -/
theorem rounded_of_dvd {n : Nat} (h : lastPlace n ∣ n) : rounded n = n := by
  obtain ⟨q, hq⟩ := h
  have hnearest : nearest n (lastPlace n) = q := by
    conv_lhs => arg 1; rw [hq, Nat.mul_comm]
    exact nearest_mul_self q (lastPlace_pos n)
  rw [rounded, hnearest, Nat.mul_comm, ← hq]

/-- A number of at most 53 binary digits is not changed. -/
theorem rounded_of_lt {n : Nat} (h : n < 2 ^ 53) : rounded n = n := by
  refine rounded_of_dvd ?_
  have hlog : n.log2 - 52 = 0 := by
    by_cases hn : n = 0
    · rw [hn, Nat.log2_zero]
    · have hlt : n.log2 < 53 := (Nat.log2_lt hn).2 h
      omega
  unfold lastPlace
  rw [hlog]
  exact one_dvd n

/-- Of a number of at least 53 digits, 53 stand above the last place. -/
theorem lastPlace_bounds {n : Nat} (h : 2 ^ 52 ≤ n) :
    2 ^ 52 * lastPlace n ≤ n ∧ n < 2 ^ 53 * lastPlace n := by
  have hn : n ≠ 0 := by
    rintro rfl
    exact absurd h (by decide)
  have hlog : 52 ≤ n.log2 := (Nat.le_log2 hn).2 h
  unfold lastPlace
  rw [← Nat.pow_add, ← Nat.pow_add, Nat.add_sub_cancel' hlog,
    (by omega : 53 + (n.log2 - 52) = n.log2 + 1)]
  exact ⟨Nat.log2_self_le hn, Nat.lt_log2_self⟩

/-- A number of at least 53 digits is rounded to a multiple of its last place by a number of 53
digits, or by the next power of two. -/
theorem nearest_lastPlace_bounds {n : Nat} (h : 2 ^ 52 ≤ n) :
    2 ^ 52 ≤ nearest n (lastPlace n) ∧ nearest n (lastPlace n) ≤ 2 ^ 53 := by
  obtain ⟨hlow, hhigh⟩ := lastPlace_bounds h
  have hdivLow : 2 ^ 52 ≤ n / lastPlace n := (Nat.le_div_iff_mul_le (lastPlace_pos n)).2 hlow
  have hdivHigh : n / lastPlace n < 2 ^ 53 := Nat.div_lt_of_lt_mul (by rwa [Nat.mul_comm] at hhigh)
  exact ⟨hdivLow.trans (div_le_nearest _ _), (nearest_le_succ_div _ _).trans hdivHigh⟩

/-- Scaling by a power of two adds zeros to the binary digits. -/
theorem log2_mul_two_pow {n : Nat} (hn : n ≠ 0) (c : Nat) : (n * 2 ^ c).log2 = n.log2 + c := by
  rw [Nat.log2_eq_iff (by positivity), Nat.pow_add, Nat.add_right_comm, Nat.pow_add]
  exact ⟨Nat.mul_le_mul_right _ (Nat.log2_self_le hn),
    Nat.mul_lt_mul_of_pos_right Nat.lt_log2_self (Nat.two_pow_pos c)⟩

/-- Rounding does not depend on the scale. -/
theorem rounded_mul_two_pow (n c : Nat) : rounded (n * 2 ^ c) = rounded n * 2 ^ c := by
  by_cases hn : n = 0
  · rw [hn, Nat.zero_mul, rounded_of_lt (by decide), Nat.zero_mul]
  have hlog := log2_mul_two_pow hn c
  by_cases hlong : 52 ≤ n.log2
  · have hplace : lastPlace (n * 2 ^ c) = lastPlace n * 2 ^ c := by
      unfold lastPlace
      rw [hlog, ← Nat.pow_add, Nat.sub_add_comm hlong]
    unfold rounded
    rw [hplace, nearest_mul_mul _ _ (Nat.two_pow_pos c), Nat.mul_assoc]
  · -- The number is short, so that its multiple has zeros below the last place.
    have hshort : n < 2 ^ 53 := (Nat.log2_lt hn).1 (by omega)
    have hzeros : lastPlace (n * 2 ^ c) ∣ n * 2 ^ c := by
      unfold lastPlace
      rw [hlog]
      exact Dvd.dvd.mul_left (Nat.pow_dvd_pow 2 (by omega)) n
    rw [rounded_of_lt hshort, rounded_of_dvd hzeros]

/-- Rounding adds at most one part in `2 ^ 53`. -/
theorem rounded_mul_le (n : Nat) : 2 ^ 53 * rounded n ≤ (2 ^ 53 + 1) * n := by
  by_cases h : n < 2 ^ 53
  · rw [rounded_of_lt h]
    omega
  · have hplace := (lastPlace_bounds (by omega : 2 ^ 52 ≤ n)).1
    have hround : 2 * rounded n ≤ 2 * n + lastPlace n := two_mul_nearest_mul_le n (lastPlace n)
    omega

/-- Only zero is rounded to zero. -/
theorem rounded_eq_zero_iff (n : Nat) : rounded n = 0 ↔ n = 0 := by
  by_cases h : n < 2 ^ 53
  · rw [rounded_of_lt h]
  · have hdigits := (nearest_lastPlace_bounds (by omega : 2 ^ 52 ≤ n)).1
    have hpos : 0 < rounded n := Nat.mul_pos (by omega) (lastPlace_pos n)
    omega

/-- A number is rounded below a power of two if half of the last place that there is below the power
still fits between them. -/
theorem rounded_lt_two_pow_iff (n p : Nat) :
    rounded n < 2 ^ (54 + p) ↔ n + 2 ^ p < 2 ^ (54 + p) := by
  have hpos : 0 < 2 ^ p := Nat.two_pow_pos p
  have htop : 2 ^ (54 + p) = 2 ^ 54 * 2 ^ p := Nat.pow_add 2 54 p
  by_cases hshort : n < 2 ^ 53
  · rw [rounded_of_lt hshort]
    omega
  have hn : n ≠ 0 := by omega
  have hlog : 53 ≤ n.log2 := (Nat.le_log2 hn).2 (Nat.not_lt.1 hshort)
  have hplace : 2 ^ 52 * lastPlace n = 2 ^ n.log2 := by
    unfold lastPlace
    rw [← Nat.pow_add, Nat.add_sub_cancel' (by omega)]
  obtain ⟨hlow, hhigh⟩ := lastPlace_bounds (by omega : 2 ^ 52 ≤ n)
  obtain ⟨hleast, hgreatest⟩ := nearest_lastPlace_bounds (by omega : 2 ^ 52 ≤ n)
  have hroundLow : 2 ^ 52 * lastPlace n ≤ rounded n := Nat.mul_le_mul_right _ hleast
  have hroundHigh : rounded n ≤ 2 ^ 53 * lastPlace n := Nat.mul_le_mul_right _ hgreatest
  rcases Nat.lt_trichotomy n.log2 (53 + p) with hlt | heq | hgt
  · have hbelow : 2 ^ n.log2 ≤ 2 ^ (52 + p) := Nat.pow_le_pow_right Nat.two_pos (by omega)
    rw [Nat.pow_add] at hbelow
    omega
  · -- The last place of the number is twice the half that is asked for.
    have hdouble : lastPlace n = 2 * 2 ^ p := by
      unfold lastPlace
      rw [heq, (by omega : 53 + p - 52 = p + 1), Nat.pow_succ']
    have htimes : 2 ^ (54 + p) = 2 ^ 53 * lastPlace n := by omega
    have hcancel : rounded n < 2 ^ 53 * lastPlace n ↔ nearest n (lastPlace n) < 2 ^ 53 :=
      Nat.mul_lt_mul_right (lastPlace_pos n)
    rw [htimes, hcancel,
      nearest_lt_iff_of_even (lastPlace_pos n) (by decide) (Nat.two_pow_pos 53)]
    omega
  · have habove : 2 ^ (54 + p) ≤ 2 ^ n.log2 := Nat.pow_le_pow_right Nat.two_pos (by omega)
    omega

/-- Numbers are rounded beyond the greatest float from the least such number on. -/
theorem rounded_lt_iff (n : Nat) : rounded n < 2 ^ 1024 ↔ n < overflow := by
  have hpower : 54 + 970 = 1024 := rfl
  rw [overflow, Nat.lt_sub_iff_add_lt, ← hpower]
  exact rounded_lt_two_pow_iff n 970

end MakeLint.Floats
