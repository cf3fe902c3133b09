/-!
# Widths of integers

Numbers on the wire and in configurations are read as integers of a fixed number of bits. A `Width`
is the interval of the integers that fit, and `n ∈ w` says that `n` does. The bounds are written
out, so that a statement about them is one about numerals.
-/

namespace MakeLint

/-- The integers from `least` to `greatest`, both included. -/
structure Width where
  least : Int
  greatest : Int

namespace Width

instance : Membership Int Width := ⟨fun w n => w.least ≤ n ∧ n ≤ w.greatest⟩

instance (n : Int) (w : Width) : Decidable (n ∈ w) :=
  inferInstanceAs (Decidable (w.least ≤ n ∧ n ≤ w.greatest))

/-- Integers of 32 bits without a sign. -/
def unsigned32 : Width := ⟨0, 4294967295⟩

/-- Integers of 64 bits with a sign. -/
def signed64 : Width := ⟨-9223372036854775808, 9223372036854775807⟩

/-- Integers of 64 bits without a sign. -/
def unsigned64 : Width := ⟨0, 18446744073709551615⟩

/-- Integers of 128 bits with a sign. -/
def signed128 : Width :=
  ⟨-170141183460469231731687303715884105728, 170141183460469231731687303715884105727⟩

/-- Integers of 128 bits without a sign. -/
def unsigned128 : Width := ⟨0, 340282366920938463463374607431768211455⟩

theorem mem_unsigned32 {n : Int} : n ∈ unsigned32 ↔ 0 ≤ n ∧ n ≤ 4294967295 := Iff.rfl

theorem mem_signed64 {n : Int} :
    n ∈ signed64 ↔ -9223372036854775808 ≤ n ∧ n ≤ 9223372036854775807 := Iff.rfl

theorem mem_unsigned64 {n : Int} : n ∈ unsigned64 ↔ 0 ≤ n ∧ n ≤ 18446744073709551615 := Iff.rfl

example : signed64.least = -2 ^ 63 ∧ signed64.greatest = 2 ^ 63 - 1 := by decide

example : signed128.least = -2 ^ 127 ∧ signed128.greatest = 2 ^ 127 - 1 := by decide

example : unsigned32.greatest = 2 ^ 32 - 1 ∧ unsigned64.greatest = 2 ^ 64 - 1
    ∧ unsigned128.greatest = 2 ^ 128 - 1 := by decide

end Width

end MakeLint
