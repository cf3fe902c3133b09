/-!
# Digits

Numerals in the bases that the formats use. A digit above nine is a letter, of either case where it
is read and lower case where it is written.
-/

namespace MakeLint.Text

/-- The value of a digit in a base of at most sixteen. -/
def digit? (base : Nat) (c : Char) : Option Nat :=
  let value :=
    if c.isDigit then some (c.toNat - '0'.toNat)
    else if 'a' ≤ c ∧ c ≤ 'f' then some (c.toNat - 'a'.toNat + 10)
    else if 'A' ≤ c ∧ c ≤ 'F' then some (c.toNat - 'A'.toNat + 10)
    else none
  value.filter (· < base)

/-- The number that a run of digits writes after the digits already read. -/
def numeralFrom? (base : Nat) : Nat → List Char → Option Nat
  | acc, [] => some acc
  | acc, c :: rest => (digit? base c).bind fun d => numeralFrom? base (acc * base + d) rest

/-- The number that a non-empty run of digits writes, most significant digit first. -/
def numeral? (base : Nat) (digits : List Char) : Option Nat :=
  if digits.isEmpty then none else numeralFrom? base 0 digits

/-- The decimal numeral of a number. -/
def decimal (n : Nat) : List Char := Nat.toDigits 10 n

/-- The decimal numeral of an integer, with a minus sign below zero. -/
def decimalInt (n : Int) : List Char := if n < 0 then '-' :: decimal n.natAbs else decimal n.natAbs

/-- The hexadecimal numeral of a number, in lower case. -/
def hexadecimal (n : Nat) : List Char := Nat.toDigits 16 n

end MakeLint.Text
