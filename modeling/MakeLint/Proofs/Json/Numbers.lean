import MakeLint.Json.Number
import MakeLint.Text.Digit
import Mathlib

/-!
# Integer literals

A literal without a fraction and an exponent writes an integer, and zero with a minus sign in front
does not (`Literal.IsInteger`). It is read as that integer exactly if the integer fits 64 bits, with
or without a sign (`Literal.value?_eq_some_integer_iff`); so no integer that fits goes through a
float.
-/

namespace MakeLint.Json

/-- The number that the digits of a whole part write. -/
def Literal.magnitude (l : Literal) : Nat := Nat.ofDigits 10 l.whole.reverse

/-- The literals of an integer: there is neither a fraction nor an exponent, and no minus sign in
front of a zero. -/
structure Literal.IsInteger (l : Literal) (n : Int) : Prop where
  fraction : l.fraction = none
  exponent : l.exponent = none
  eq_signed : n = if l.negative then -(l.magnitude : Int) else l.magnitude
  notNegativeZero : l.negative = true → n ≠ 0

/-- Going through digits from the first one gives the number that they write, behind the digits that
are read already. -/
theorem foldl_digits (digits : List Nat) (n : Nat) :
    digits.foldl (fun n d => 10 * n + d) n =
      10 ^ digits.length * n + Nat.ofDigits 10 digits.reverse := by
  induction digits generalizing n with
  | nil => simp
  | cons d rest ih =>
    rw [List.foldl_cons, ih, List.reverse_cons, Nat.ofDigits_append, List.length_reverse,
      Nat.ofDigits_singleton, List.length_cons]
    ring

/-- All digits are taken in exactly if the number that they write stays within the limit. -/
theorem absorb_eq_nil_iff {limit n : Nat} (hn : n ≤ limit) (digits : List Nat) (m : Nat) :
    absorb limit n digits = (m, []) ↔
      m = digits.foldl (fun n d => 10 * n + d) n ∧ m ≤ limit := by
  induction digits generalizing n with
  | nil =>
    rw [absorb, Prod.mk.injEq, List.foldl_nil, eq_comm]
    exact ⟨fun h => ⟨h.1, h.1.trans_le hn⟩, fun h => ⟨h.1, rfl⟩⟩
  | cons d rest ih =>
    rw [absorb, List.foldl_cons]
    split
    next hstep => exact ih hstep
    next hstep =>
      -- The next digit goes beyond the limit, and no digit behind it leads back.
      refine iff_of_false (fun h => List.cons_ne_nil _ _ (Prod.mk.inj h).2) ?_
      rintro ⟨rfl, hle⟩
      have hgrows : 10 * n + d ≤ rest.foldl (fun n d => 10 * n + d) (10 * n + d) := by
        rw [foldl_digits]
        exact Nat.le_add_right_of_le (Nat.le_mul_of_pos_left _ (by positivity))
      exact hstep (hgrows.trans hle)

/-- Digits with nothing before them are all taken in exactly if the number that they write fits. -/
theorem absorb_zero_iff (limit : Nat) (digits : List Nat) (m : Nat) :
    absorb limit 0 digits = (m, []) ↔ m = Nat.ofDigits 10 digits.reverse ∧ m ≤ limit := by
  rw [absorb_eq_nil_iff (Nat.zero_le _), foldl_digits, Nat.mul_zero, Nat.zero_add]

/-- The whole part of a literal is taken in exactly if it fits 64 bits without a sign. -/
theorem Literal.absorb_whole_iff (l : Literal) (m : Nat) :
    absorb maxUnsigned 0 l.whole = (m, []) ↔ m = l.magnitude ∧ m ≤ maxUnsigned :=
  absorb_zero_iff maxUnsigned l.whole m

/-- A literal is read as an integer exactly if it is one that fits 64 bits, with a sign or without.
-/
theorem Literal.value?_eq_some_integer_iff (l : Literal) (n : Int) :
    l.value? = some (.integer n) ↔
      l.IsInteger n ∧ (n ∈ Width.signed64 ∨ n ∈ Width.unsigned64) := by
  have hfloat (x : Option Float) : x.map Number.float ≠ some (.integer n) := by
    cases x <;> simp
  have hlimit : (maxUnsigned : Int) = 18446744073709551615 := rfl
  rw [Width.mem_signed64, Width.mem_unsigned64]
  unfold Literal.value?
  split
  next m hwhole hfraction hexponent =>
    obtain ⟨rfl, hle⟩ := (l.absorb_whole_iff m).1 hwhole
    by_cases hsign : l.negative = true
    · -- A minus sign: the integer is below zero, and fits with a sign.
      have hinteger : l.IsInteger n ↔ n = -(l.magnitude : Int) ∧ n ≠ 0 := by
        refine ⟨fun h => ⟨by simpa [hsign] using h.eq_signed, h.notNegativeZero hsign⟩, fun h => ?_⟩
        exact ⟨hfraction, hexponent, by simpa [hsign] using h.1, fun _ => h.2⟩
      rw [if_neg (not_not.2 hsign), hinteger]
      split
      next hfits =>
        rw [Width.mem_signed64] at hfits
        simp only [Option.some.injEq, Number.integer.injEq]
        omega
      next hfits =>
        rw [Width.mem_signed64] at hfits
        exact iff_of_false (hfloat _) (by omega)
    · have hinteger : l.IsInteger n ↔ n = (l.magnitude : Int) := by
        refine ⟨fun h => by simpa [hsign] using h.eq_signed, fun h => ?_⟩
        exact ⟨hfraction, hexponent, by simpa [hsign] using h, fun h => absurd h hsign⟩
      rw [if_pos hsign, hinteger]
      simp only [Option.some.injEq, Number.integer.injEq]
      omega
  next hother =>
    -- Had the literal an integer that fits, its digits would have been taken in.
    refine iff_of_false (hfloat _) fun ⟨hinteger, hfits⟩ => ?_
    have hmagnitude : l.magnitude = n.natAbs := by
      rw [hinteger.eq_signed]
      split <;> simp
    have hwhole := (l.absorb_whole_iff l.magnitude).2 ⟨rfl, by omega⟩
    exact hother _ hwhole hinteger.fraction hinteger.exponent

/-- The numeral of an integer is the usual one. -/
theorem ofList_decimalInt (n : Int) : String.ofList (Text.decimalInt n) = toString n := by
  unfold Text.decimalInt Text.decimal
  cases n with
  | ofNat n =>
    rw [if_neg (Int.not_lt.2 (Int.natCast_nonneg n) : ¬ Int.ofNat n < 0)]
    rfl
  | negSucc n =>
    rw [if_pos (Int.negSucc_lt_zero n)]
    exact String.ofList_cons

end MakeLint.Json
